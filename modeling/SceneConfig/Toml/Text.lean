/- TOML strings of all four kinds, and keys. -/
import SceneConfig.Toml.Number

namespace SceneConfig.Toml.Scanner

/-- A character by so many hexadecimal digits; surrogates are no characters. -/
def scalar (count : Nat) : Scanner Char := do
  let digits ← (List.range count).mapM fun _ => one (isDigitOf 16)
  let n := ofDigits 16 digits
  if n.isValidChar then return Char.ofNat n else refuse

def escaped : Scanner Char := do
  match ← one fun _ => true with
  | 'b' => return '\x08'
  | 't' => return '\t'
  | 'n' => return '\n'
  | 'f' => return '\x0c'
  | 'r' => return '\r'
  | '"' => return '"'
  | '\\' => return '\\'
  | 'u' => scalar 4
  | 'U' => scalar 8
  | _ => refuse

def escape : Scanner Char := do
  exactly ['\\']
  escaped

def isBasic (c : Char) : Bool :=
  isText c && c ≠ '"' && c ≠ '\\'

def isLiteral (c : Char) : Bool :=
  isText c && c ≠ '\''

def basicString : Scanner (List Char) := do
  exactly ['"']
  let cs ← many (one isBasic <|> escape)
  exactly ['"']
  return cs

def literalString : Scanner (List Char) := do
  exactly ['\'']
  let cs ← run isLiteral
  exactly ['\'']
  return cs

/-- One or two quotes that a third one does not follow. -/
def innerQuotes (quote : Char) : Scanner (List Char)
  | a :: b :: c :: rest =>
    if a ≠ quote then none
    else if b ≠ quote then some ([quote], b :: c :: rest)
    else if c ≠ quote then some ([quote, quote], c :: rest)
    else none
  | _ => none

/-- Three quotes that end a string, and up to two in front that belong to it. -/
def closingQuotes (quote : Char) : Scanner (List Char) := fun s =>
  let count := min (s.takeWhile (· = quote)).length 5
  if count < 3 then none else some (List.replicate (count - 3) quote, s.drop count)

/-- A backslash at the end of a line takes away the white space up to the next text. -/
def joinedLines : Scanner (List Char) := do
  exactly ['\\']
  blanks
  newline
  let _ ← many ((do let _ ← one isBlank) <|> newline)
  return []

/-- A string of several lines. A line end right behind the opening quotes is left out, and
every other one reads as a line feed. -/
def multiline (quote : Char) (piece : Scanner (List Char)) : Scanner (List Char) := do
  exactly [quote, quote, quote]
  let _ ← perhaps newline
  let lineFeed : Scanner (List Char) := do newline; return ['\n']
  let pieces ← many (piece <|> lineFeed <|> innerQuotes quote)
  let quotes ← closingQuotes quote
  return pieces.flatten ++ quotes

def string : Scanner String := do
  let cs ←
    multiline '"' ((do return [← one isBasic]) <|> joinedLines <|> (do return [← escape])) <|>
    basicString <|>
    multiline '\'' (do return [← one isLiteral]) <|>
    literalString
  return String.ofList cs

def isBareKey (c : Char) : Bool :=
  c.isAlphanum || c = '-' || c = '_'

def bareKey : Scanner (List Char) := do
  let first ← one isBareKey
  return first :: (← run isBareKey)

/-- One part of a key, with blanks around it. -/
def keyPart : Scanner String := do
  blanks
  let cs ← basicString <|> literalString <|> bareKey
  blanks
  return String.ofList cs

/-- The most parts of a dotted key. -/
def keyLimit : Nat := 79

/-- The parts of a key but the last, and the last. -/
def key : Scanner (List String × String) := do
  let first ← keyPart
  let more ← many (do exactly ['.']; keyPart)
  if keyLimit ≤ more.length then refuse
  else return ((first :: more).dropLast, more.getLast?.getD first)

end SceneConfig.Toml.Scanner
