/- Reading JSON text: the strict grammar, with a limit on nesting and on the size of numbers.
   Each reader takes the characters to come and returns what it read with the characters left. -/
import SceneConfig.Json.Value

namespace SceneConfig.Json.Parser

def isSpace (c : Char) : Bool :=
  c = ' ' || c = '\t' || c = '\n' || c = '\r'

def skipSpace (s : List Char) : List Char :=
  s.dropWhile isSpace

def hexDigit? (c : Char) : Option Nat :=
  if '0' ≤ c ∧ c ≤ '9' then some (c.toNat - '0'.toNat)
  else if 'a' ≤ c ∧ c ≤ 'f' then some (c.toNat - 'a'.toNat + 10)
  else if 'A' ≤ c ∧ c ≤ 'F' then some (c.toNat - 'A'.toNat + 10)
  else none

def hexUnit : List Char → Option (Nat × List Char)
  | a :: b :: c :: d :: rest => do
    let a ← hexDigit? a
    let b ← hexDigit? b
    let c ← hexDigit? c
    let d ← hexDigit? d
    some (((a * 16 + b) * 16 + c) * 16 + d, rest)
  | _ => none

/-- What follows `\u`: one unit outside the surrogates, or a high and a low surrogate. -/
def unicodeEscape (s : List Char) : Option (Char × List Char) := do
  let (unit, rest) ← hexUnit s
  if unit < 0xD800 ∨ 0xDFFF < unit then some (Char.ofNat unit, rest)
  else if 0xDBFF < unit then none
  else
    match rest with
    | '\\' :: 'u' :: rest => do
      let (low, rest) ← hexUnit rest
      if 0xDC00 ≤ low ∧ low ≤ 0xDFFF then
        some (Char.ofNat (0x10000 + (unit - 0xD800) * 0x400 + (low - 0xDC00)), rest)
      else none
    | _ => none

def escape : List Char → Option (Char × List Char)
  | '"' :: rest => some ('"', rest)
  | '\\' :: rest => some ('\\', rest)
  | '/' :: rest => some ('/', rest)
  | 'b' :: rest => some ('\x08', rest)
  | 'f' :: rest => some ('\x0c', rest)
  | 'n' :: rest => some ('\n', rest)
  | 'r' :: rest => some ('\r', rest)
  | 't' :: rest => some ('\t', rest)
  | 'u' :: rest => unicodeEscape rest
  | _ => none

/-- The characters of a string up to its closing quote, of which at most `fuel - 1`. -/
def stringTail : (fuel : Nat) → List Char → Option (List Char × List Char)
  | 0, _ => none
  | _ + 1, [] => none
  | fuel + 1, c :: rest =>
    if c = '"' then some ([], rest)
    else if c = '\\' then do
      let (c, rest) ← escape rest
      let (cs, rest) ← stringTail fuel rest
      some (c :: cs, rest)
    else if c.toNat < 0x20 then none
    else do
      let (cs, rest) ← stringTail fuel rest
      some (c :: cs, rest)

def ofDigits (digits : List Char) : Nat :=
  digits.foldl (fun n c => 10 * n + (c.toNat - '0'.toNat)) 0

def someDigits (s : List Char) : Option (List Char × List Char) :=
  match s.span Char.isDigit with
  | ([], _) => none
  | (digits, rest) => some (digits, rest)

/-- A zero, or digits that start with another one. -/
def wholePart : List Char → Option (List Char × List Char)
  | '0' :: rest => some (['0'], rest)
  | s => someDigits s

def fraction : List Char → Option (List Char × List Char)
  | '.' :: rest => someDigits rest
  | s => some ([], s)

/-- Whether a minus sign is there, and what follows it. -/
def minus : List Char → Bool × List Char
  | '-' :: rest => (true, rest)
  | s => (false, s)

/-- Whether a sign is there and is a minus, and what follows it. -/
def sign : List Char → Bool × List Char
  | '+' :: rest => (false, rest)
  | s => minus s

def signed (negative : Bool) (n : Nat) : Int :=
  if negative then -n else n

def power : List Char → Option (Int × List Char)
  | [] => some (0, [])
  | c :: rest =>
    if c = 'e' ∨ c = 'E' then do
      let (negative, rest) := sign rest
      let (digits, rest) ← someDigits rest
      some (signed negative (ofDigits digits), rest)
    else some (0, c :: rest)

def number (s : List Char) : Option (Number × List Char) := do
  let (negative, rest) := minus s
  let (whole, rest) ← wholePart rest
  let (decimals, rest) ← fraction rest
  let (exponent, rest) ← power rest
  let n : Number :=
    ⟨signed negative (ofDigits (whole ++ decimals)), exponent - decimals.length⟩
  if n.isFinite then some (n, rest) else none

mutual

/-- A value at the head of the text, with at most `depth` arrays and objects inside one another. -/
def value : (fuel depth : Nat) → List Char → Option (Value × List Char)
  | 0, _, _ => none
  | fuel + 1, depth, s =>
    match s with
    | 'n' :: 'u' :: 'l' :: 'l' :: rest => some (.null, rest)
    | 't' :: 'r' :: 'u' :: 'e' :: rest => some (.bool true, rest)
    | 'f' :: 'a' :: 'l' :: 's' :: 'e' :: rest => some (.bool false, rest)
    | '"' :: rest => do
      let (cs, rest) ← stringTail fuel rest
      some (.string (String.ofList cs), rest)
    | '[' :: rest =>
      match depth, skipSpace rest with
      | 0, _ => none
      | _ + 1, ']' :: rest => some (.array [], rest)
      | depth + 1, rest => do
        let (items, rest) ← items fuel depth rest
        some (.array items, rest)
    | '{' :: rest =>
      match depth, skipSpace rest with
      | 0, _ => none
      | _ + 1, '}' :: rest => some (.object [], rest)
      | depth + 1, rest => do
        let (members, rest) ← members fuel depth rest
        some (.object members, rest)
    | s => do
      let (n, rest) ← number s
      some (.number n, rest)

def items : (fuel depth : Nat) → List Char → Option (List Value × List Char)
  | 0, _, _ => none
  | fuel + 1, depth, s => do
    let (v, rest) ← value fuel depth s
    match skipSpace rest with
    | ']' :: rest => some ([v], rest)
    | ',' :: rest => do
      let (vs, rest) ← items fuel depth (skipSpace rest)
      some (v :: vs, rest)
    | _ => none

def members : (fuel depth : Nat) → List Char → Option (List (String × Value) × List Char)
  | 0, _, _ => none
  | fuel + 1, depth, s =>
    match s with
    | '"' :: rest => do
      let (key, rest) ← stringTail fuel rest
      match skipSpace rest with
      | ':' :: rest => do
        let (v, rest) ← value fuel depth (skipSpace rest)
        match skipSpace rest with
        | '}' :: rest => some ([(String.ofList key, v)], rest)
        | ',' :: rest => do
          let (ms, rest) ← members fuel depth (skipSpace rest)
          some ((String.ofList key, v) :: ms, rest)
        | _ => none
      | _ => none
    | _ => none

end

/-- The most arrays and objects that may stand inside one another. -/
def nestingLimit : Nat := 127

/-- A value alone, with nothing but space around it. Of two steps one takes a character,
so twice the length is fuel enough. -/
def document (s : List Char) : Option Value := do
  let (v, rest) ← value (2 * s.length + 1) nestingLimit (skipSpace s)
  if (skipSpace rest).isEmpty then some v else none

end SceneConfig.Json.Parser

namespace SceneConfig.Json

/-- The value that `text` writes; none when it is no JSON text. -/
def parse (text : String) : Option Value :=
  Parser.document text.toList

end SceneConfig.Json
