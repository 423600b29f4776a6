/- TOML integers and floats.
   An integer has to fit 64 bits; a float must not round to infinity, unless it is negative. -/
import SceneConfig.Double
import SceneConfig.Toml.Scanner

namespace SceneConfig.Toml.Scanner

/-- The value of a digit in bases up to sixteen. -/
def digitValue (c : Char) : Nat :=
  if c.isDigit then c.toNat - '0'.toNat
  else if 'a' ≤ c ∧ c ≤ 'f' then c.toNat - 'a'.toNat + 10
  else if 'A' ≤ c ∧ c ≤ 'F' then c.toNat - 'A'.toNat + 10
  else 16

def isDigitOf (base : Nat) (c : Char) : Bool :=
  digitValue c < base

def ofDigits (base : Nat) (digits : List Char) : Nat :=
  digits.foldl (fun n c => base * n + digitValue c) 0

/-- Digits of a base, with single underscores between them. -/
def digits (base : Nat) : Scanner (List Char) := do
  let first ← one (isDigitOf base)
  let more ← many (one (isDigitOf base) <|> (do exactly ['_']; one (isDigitOf base)))
  return first :: more

/-- Whether a minus sign is there; a plus sign may be. -/
def sign : Scanner Bool := fun s =>
  match s with
  | '-' :: rest => some (true, rest)
  | '+' :: rest => some (false, rest)
  | _ => some (false, s)

/-- Decimal digits that do not start with a zero, but for zero itself. -/
def wholeDigits : Scanner (List Char) := do
  let ds ← digits 10
  match ds with
  | '0' :: _ :: _ => refuse
  | _ => return ds

/-- A whole number in sixteen, eight or two, by its mark. -/
def markedInteger : Scanner Nat :=
  (do exactly ['0', 'x']; return ofDigits 16 (← digits 16)) <|>
  (do exactly ['0', 'o']; return ofDigits 8 (← digits 8)) <|>
  (do exactly ['0', 'b']; return ofDigits 2 (← digits 2))

def decimalInteger : Scanner Int := do
  let negative ← sign
  let n : Int := ofDigits 10 (← wholeDigits)
  return if negative then -n else n

def integer : Scanner Int := do
  let n ← (do return ((← markedInteger : Nat) : Int)) <|> decimalInteger
  if -Int.pow 2 63 ≤ n ∧ n < Int.pow 2 63 then return n else refuse

/-- Whether `mantissa * 10 ^ exponent` rounds to infinity. Numbers of over 310 places do, and
those of under 300 do not, so that no huge power is formed. -/
def overflows (mantissa : Nat) (exponent : Int) : Bool :=
  let places : Int := (Nat.toDigits 10 mantissa).length + exponent
  if mantissa = 0 ∨ places < 300 then false
  else if 310 < places then true
  else if 0 ≤ exponent then Double.overflow ≤ mantissa * Nat.pow 10 exponent.toNat
  else Double.overflow * Nat.pow 10 (-exponent).toNat ≤ mantissa

def decimals : Scanner (List Char) := do
  exactly ['.']
  digits 10

def power : Scanner Int := do
  let _ ← one fun c => c = 'e' || c = 'E'
  let negative ← sign
  let n : Int := ofDigits 10 (← digits 10)
  return if negative then -n else n

/-- A float by its digits. Only a positive one can be too large. -/
def digitFloat : Scanner Unit := do
  let negative ← sign
  let whole ← wholeDigits
  let fraction ← perhaps decimals
  let exponent ← perhaps power
  if fraction.isNone && exponent.isNone then refuse
  let behind := fraction.getD []
  if !negative && overflows (ofDigits 10 (whole ++ behind)) (exponent.getD 0 - behind.length) then
    refuse

/-- Infinity or not a number, with a sign or not. -/
def namedFloat : Scanner Unit := do
  let _ ← sign
  exactly ['i', 'n', 'f'] <|> exactly ['n', 'a', 'n']

def float : Scanner Unit :=
  digitFloat <|> namedFloat

end SceneConfig.Toml.Scanner
