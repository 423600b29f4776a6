/- Writing JSON values over several lines, two spaces a level.
   Strings are written raw but for quotes, backslashes and control characters. -/
import SceneConfig.Json.Value

namespace SceneConfig.Json.Printer

def hexDigit (n : Nat) : Char :=
  if n < 10 then Char.ofNat ('0'.toNat + n) else Char.ofNat ('a'.toNat + (n - 10))

def escapeChar (c : Char) : List Char :=
  if c = '"' then ['\\', '"']
  else if c = '\\' then ['\\', '\\']
  else if c = '\x08' then ['\\', 'b']
  else if c = '\x0c' then ['\\', 'f']
  else if c = '\n' then ['\\', 'n']
  else if c = '\r' then ['\\', 'r']
  else if c = '\t' then ['\\', 't']
  else if c.toNat < 0x20 then
    ['\\', 'u', '0', '0', hexDigit (c.toNat / 16), hexDigit (c.toNat % 16)]
  else [c]

def quoted (s : String) : List Char :=
  '"' :: s.toList.flatMap escapeChar ++ ['"']

/-- A number without a power of ten is written by its digits alone. -/
def number (n : Number) : List Char :=
  (if n.mantissa < 0 then ['-'] else []) ++ Nat.toDigits 10 n.mantissa.natAbs ++
    (if n.exponent = 0 then []
     else 'e' :: (if n.exponent < 0 then ['-'] else []) ++ Nat.toDigits 10 n.exponent.natAbs)

def newline (level : Nat) : List Char :=
  '\n' :: List.replicate (2 * level) ' '

mutual

/-- The text of a value whose first line stands at `level`. -/
def value (level : Nat) : Value → List Char
  | .null => ['n', 'u', 'l', 'l']
  | .bool true => ['t', 'r', 'u', 'e']
  | .bool false => ['f', 'a', 'l', 's', 'e']
  | .number n => number n
  | .string s => quoted s
  | .array [] => ['[', ']']
  | .array (v :: vs) =>
    '[' :: newline (level + 1) ++ value (level + 1) v ++ items (level + 1) vs ++
      newline level ++ [']']
  | .object [] => ['{', '}']
  | .object ((key, v) :: ms) =>
    '{' :: newline (level + 1) ++ quoted key ++ [':', ' '] ++ value (level + 1) v ++
      members (level + 1) ms ++ newline level ++ ['}']

/-- The elements behind the first, each on a line of its own behind a comma. -/
def items (level : Nat) : List Value → List Char
  | [] => []
  | v :: vs => ',' :: newline level ++ value level v ++ items level vs

/-- The members behind the first, each on a line of its own behind a comma. -/
def members (level : Nat) : List (String × Value) → List Char
  | [] => []
  | (key, v) :: ms =>
    ',' :: newline level ++ quoted key ++ [':', ' '] ++ value level v ++ members level ms

end

end SceneConfig.Json.Printer

namespace SceneConfig.Json

def Value.pretty (v : Value) : String :=
  String.ofList (Printer.value 0 v)

end SceneConfig.Json
