/- Reading TOML text into a table, line by line. -/
import SceneConfig.Toml.DateTime
import SceneConfig.Toml.Table
import SceneConfig.Toml.Text

namespace SceneConfig.Toml
namespace Scanner

/-- The most arrays and inline tables that may stand inside one another. -/
def nestingLimit : Nat := 79

def number : Scanner Value :=
  (do dateTime; return .dateTime) <|>
  (do float; return .float) <|>
  (do return .integer (← integer))

def boolean : Scanner Value :=
  (do exactly ['t', 'r', 'u', 'e']; return .boolean true) <|>
  (do exactly ['f', 'a', 'l', 's', 'e']; return .boolean false)

def plain : Scanner Value :=
  (do return .string (← string)) <|> boolean <|> number

mutual

/-- A value with at most `depth` arrays and inline tables inside one another. -/
def value : (fuel depth : Nat) → Scanner Value
  | 0, _ => refuse
  | _ + 1, 0 => plain
  | fuel + 1, depth + 1 =>
    (do
      exactly ['[']
      gap
      return .array (← items fuel depth)) <|>
    (do
      exactly ['{']
      blanks
      if (← perhaps (exactly ['}'])).isSome then return .table .inline []
      return .table .inline (← members fuel depth [])) <|>
    plain

/-- The values of an array up to its closing bracket; a comma may stand behind the last. -/
def items : (fuel depth : Nat) → Scanner (List Value)
  | 0, _ => refuse
  | fuel + 1, depth => do
    if (← perhaps (exactly [']'])).isSome then return []
    let v ← value fuel depth
    gap
    if (← perhaps (exactly [']'])).isSome then return [v]
    exactly [',']
    gap
    return v :: (← items fuel depth)

/-- The members of an inline table up to its closing brace, added to those before them. -/
def members : (fuel depth : Nat) → Table → Scanner Table
  | 0, _, _ => refuse
  | fuel + 1, depth, before => do
    let (path, name) ← key
    exactly ['=']
    blanks
    let v ← value fuel depth
    blanks
    let entries ← StateT.lift (before.addDotted name v path)
    if (← perhaps (exactly ['}'])).isSome then return entries
    exactly [',']
    members fuel depth entries

end

/-- A document read so far, and the path of the table that its next members belong to. -/
structure Draft where
  root : Table
  path : List String

def header (draft : Draft) : Scanner Draft := do
  exactly ['[']
  let double := (← perhaps (exactly ['['])).isSome
  let (path, name) ← key
  exactly (if double then [']', ']'] else [']'])
  lineEnd
  let start := if double then Table.openElement name else Table.openTable name
  let root ← StateT.lift (draft.root.atHeader start path)
  return ⟨root, path ++ [name]⟩

def entry (fuel : Nat) (draft : Draft) : Scanner Draft := do
  let (path, name) ← key
  exactly ['=']
  blanks
  let v ← value fuel nestingLimit
  lineEnd
  let root ← StateT.lift (draft.root.atHeader (Table.addDotted name v path) draft.path)
  return { draft with root }

/-- The rest of a document, line by line. A line takes at least one character. -/
def lines (valueFuel : Nat) : (fuel : Nat) → Draft → Scanner Table
  | 0, _ => refuse
  | fuel + 1, draft => do
    blanks
    if ← atEnd then return draft.root
    let draft ← header draft <|> entry valueFuel draft <|> (do lineEnd; return draft)
    lines valueFuel fuel draft

/-- A whole document. A byte order mark in front of it is passed over. -/
def document : Scanner Table := fun s =>
  let s := if s.head? = some '\uFEFF' then s.drop 1 else s
  lines (2 * s.length + 1) (s.length + 1) ⟨[], []⟩ s

end Scanner

/-- The table that `text` writes; none when it is no TOML text. -/
def parse (text : String) : Option Table :=
  (Scanner.document text.toList).map Prod.fst

end SceneConfig.Toml
