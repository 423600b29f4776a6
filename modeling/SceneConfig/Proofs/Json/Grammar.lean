/- The texts that spell a JSON value: blanks between tokens, any spelling of a character in a
   string, members as they stand, and a bound on nesting. -/
import Mathlib.Algebra.Group.Nat.Defs
import SceneConfig.Json.Parser

namespace SceneConfig.Json

def Blank (s : List Char) : Prop :=
  ∀ c ∈ s, Parser.isSpace c = true

theorem Blank.nil : Blank [] := by
  intro c member
  cases member

theorem Blank.single {c : Char} (h : Parser.isSpace c = true) : Blank [c] := by
  intro d member
  cases List.mem_singleton.mp member
  exact h

theorem Blank.space : Blank [' '] :=
  .single rfl

theorem Blank.append {s t : List Char} (hs : Blank s) (ht : Blank t) : Blank (s ++ t) := by
  intro c member
  rcases List.mem_append.mp member with left | right
  · exact hs c left
  · exact ht c right

/-- The digit for `n` below 16, in either case. -/
def HexDigit (n : Nat) (c : Char) : Prop :=
  ['0', '1', '2', '3', '4', '5', '6', '7', '8', '9', 'a', 'b', 'c', 'd', 'e', 'f'][n]? = some c ∨
    ['0', '1', '2', '3', '4', '5', '6', '7', '8', '9', 'A', 'B', 'C', 'D', 'E', 'F'][n]? = some c

/-- Four digits. -/
inductive HexUnit : Nat → List Char → Prop
  | digits {i j k l : Nat} {a b c d : Char} :
      HexDigit i a → HexDigit j b → HexDigit k c → HexDigit l d →
      HexUnit (((i * 16 + j) * 16 + k) * 16 + l) [a, b, c, d]

/-- The characters with an escape of one letter, behind that letter. -/
def letterEscapes : List (Char × Char) :=
  [('"', '"'), ('\\', '\\'), ('/', '/'), ('b', '\x08'), ('f', '\x0c'), ('n', '\n'), ('r', '\r'),
    ('t', '\t')]

/-- A character inside a string: as it is, by a letter, by its number, or by two surrogates. -/
inductive SpellsChar : Char → List Char → Prop
  | raw {c : Char} : c ≠ '"' → c ≠ '\\' → 0x20 ≤ c.toNat → SpellsChar c [c]
  | letter {l c : Char} : (l, c) ∈ letterEscapes → SpellsChar c ['\\', l]
  | unit {c : Char} {digits : List Char} :
      HexUnit c.toNat digits → SpellsChar c ('\\' :: 'u' :: digits)
  | pair {c : Char} {high low : List Char} : 0x10000 ≤ c.toNat →
      HexUnit (0xD800 + (c.toNat - 0x10000) / 0x400) high →
      HexUnit (0xDC00 + (c.toNat - 0x10000) % 0x400) low →
      SpellsChar c ('\\' :: 'u' :: high ++ '\\' :: 'u' :: low)

inductive SpellsChars : List Char → List Char → Prop
  | nil : SpellsChars [] []
  | cons {c : Char} {cs t ts : List Char} :
      SpellsChar c t → SpellsChars cs ts → SpellsChars (c :: cs) (t ++ ts)

inductive SpellsString : String → List Char → Prop
  | quoted {s : String} {body : List Char} :
      SpellsChars s.toList body → SpellsString s ('"' :: body ++ ['"'])

structure SomeDigits (digits : List Char) : Prop where
  nonempty : digits ≠ []
  digits : ∀ c ∈ digits, c.isDigit = true

/-- A zero, or digits that start with another one. -/
inductive WholeDigits : List Char → Prop
  | zero : WholeDigits ['0']
  | digits {c : Char} {cs : List Char} :
      c ≠ '0' → SomeDigits (c :: cs) → WholeDigits (c :: cs)

/-- The digits behind the point, and nothing where there is no point. -/
inductive SpellsDecimals : List Char → List Char → Prop
  | none : SpellsDecimals [] []
  | point {digits : List Char} : SomeDigits digits → SpellsDecimals digits ('.' :: digits)

inductive SpellsPower : Int → List Char → Prop
  | none : SpellsPower 0 []
  | bare {e : Char} {digits : List Char} : e ∈ ['e', 'E'] → SomeDigits digits →
      SpellsPower (Parser.ofDigits digits) (e :: digits)
  | plus {e : Char} {digits : List Char} : e ∈ ['e', 'E'] → SomeDigits digits →
      SpellsPower (Parser.ofDigits digits) (e :: '+' :: digits)
  | minus {e : Char} {digits : List Char} : e ∈ ['e', 'E'] → SomeDigits digits →
      SpellsPower (-Parser.ofDigits digits) (e :: '-' :: digits)

def minusOf (negative : Bool) : List Char :=
  if negative then ['-'] else []

/-- Any decimal numeral, whatever its size. -/
inductive SpellsNumber : Number → List Char → Prop
  | numeral {negative : Bool} {whole decimals fraction power : List Char} {exponent : Int} :
      WholeDigits whole → SpellsDecimals decimals fraction → SpellsPower exponent power →
      SpellsNumber
        ⟨Parser.signed negative (Parser.ofDigits (whole ++ decimals)), exponent - decimals.length⟩
        (minusOf negative ++ (whole ++ (fraction ++ power)))

def digitsOf (i : Int) : List Char :=
  minusOf (i < 0) ++ Nat.toDigits 10 i.natAbs

/-- A value with its text and the blanks around it. -/
structure Element where
  value : Value
  before : List Char
  text : List Char
  after : List Char

def Element.spelled (e : Element) : List Char :=
  e.before ++ e.text ++ e.after

/-- A key with its text, and behind a colon the element that it names. -/
structure Member where
  key : String
  before : List Char
  name : List Char
  gap : List Char
  element : Element

def Member.spelled (m : Member) : List Char :=
  m.before ++ m.name ++ m.gap ++ ':' :: m.element.spelled

def listed : List (List Char) → List Char
  | [] => []
  | text :: texts => text ++ texts.flatMap (',' :: ·)

/-- `Spells depth v text`: the text writes `v`, with at most `depth` arrays and objects inside one
another. Blanks may stand around every element, also in front of a closing bracket. -/
inductive Spells : Nat → Value → List Char → Prop
  | null {depth : Nat} : Spells depth .null ['n', 'u', 'l', 'l']
  | true {depth : Nat} : Spells depth (.bool true) ['t', 'r', 'u', 'e']
  | false {depth : Nat} : Spells depth (.bool false) ['f', 'a', 'l', 's', 'e']
  | number {depth : Nat} {n : Number} {text : List Char} : n.isFinite = true →
      SpellsNumber n text → Spells depth (.number n) text
  | string {depth : Nat} {s : String} {text : List Char} :
      SpellsString s text → Spells depth (.string s) text
  | array {depth : Nat} {elements : List Element} {space : List Char} : Blank space →
      (∀ e ∈ elements, Blank e.before ∧ Blank e.after) →
      (∀ e ∈ elements, Spells depth e.value e.text) →
      Spells (depth + 1) (.array (elements.map Element.value))
        ('[' :: listed (elements.map Element.spelled) ++ space ++ [']'])
  | object {depth : Nat} {members : List Member} {space : List Char} : Blank space →
      (∀ m ∈ members, Blank m.before ∧ SpellsString m.key m.name ∧ Blank m.gap) →
      (∀ m ∈ members, Blank m.element.before ∧ Blank m.element.after) →
      (∀ m ∈ members, Spells depth m.element.value m.element.text) →
      Spells (depth + 1) (.object (members.map fun m => (m.key, m.element.value)))
        ('{' :: listed (members.map Member.spelled) ++ space ++ ['}'])

/-- A whole text: a value alone, with blanks around it. -/
inductive SpellsDocument (document : Value) : List Char → Prop
  | alone {before text after : List Char} : Blank before →
      Spells Parser.nestingLimit document text → Blank after →
      SpellsDocument document (before ++ text ++ after)

end SceneConfig.Json
