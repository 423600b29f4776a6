/- Reading pieces of TOML text: a scanner takes characters from the front, or refuses. -/

namespace SceneConfig.Toml

abbrev Scanner := StateT (List Char) Option

namespace Scanner
variable {α : Type}

def refuse : Scanner α := fun _ => none

def one (p : Char → Bool) : Scanner Char
  | c :: rest => if p c then some (c, rest) else none
  | [] => none

def exactly (cs : List Char) : Scanner Unit := fun s =>
  if cs.isPrefixOf s then some ((), s.drop cs.length) else none

/-- The longest run of a class, which may be empty. -/
def run (p : Char → Bool) : Scanner (List Char) := fun s =>
  some (s.span p)

def atEnd : Scanner Bool := fun s =>
  some (s.isEmpty, s)

def perhaps (x : Scanner α) : Scanner (Option α) := fun s =>
  match x s with
  | some (a, rest) => some (some a, rest)
  | none => some (none, s)

/-- Repeats a scanner until it refuses, at most `fuel` times. -/
def repeated (x : Scanner α) : (fuel : Nat) → List Char → List α × List Char
  | 0, s => ([], s)
  | fuel + 1, s =>
    match x s with
    | some (a, rest) =>
      let (as, rest) := repeated x fuel rest
      (a :: as, rest)
    | none => ([], s)

/-- Repeats a scanner that takes at least one character until it refuses. -/
def many (x : Scanner α) : Scanner (List α) := fun s =>
  some (repeated x s.length s)

/-- A line feed, with a carriage return in front or not. -/
def newline : Scanner Unit :=
  exactly ['\n'] <|> exactly ['\r', '\n']

def isBlank (c : Char) : Bool :=
  c = ' ' || c = '\t'

def blanks : Scanner Unit := do
  let _ ← run isBlank

/-- Characters of comments and strings: all but the control characters, the tab apart. -/
def isText (c : Char) : Bool :=
  c = '\t' || (' ' ≤ c && c ≤ '~') || 0x80 ≤ c.toNat

def comment : Scanner Unit := do
  exactly ['#']
  let _ ← run isText

/-- What may stand behind an expression: a comment, and the end of the line or of the text. -/
def lineEnd : Scanner Unit := do
  blanks
  let _ ← perhaps comment
  if ← atEnd then return () else newline

/-- What may stand between the values of an array: blanks, comments and line ends. -/
def gap : Scanner Unit := do
  let _ ← many ((do let _ ← one isBlank) <|> newline <|> (do comment; newline))

end Scanner

end SceneConfig.Toml
