/- TOML values, and the rules by which a document's tables grow.
   How a table came to be decides which later lines may add to it. -/

namespace SceneConfig.Toml

inductive Origin where
  /-- Written between braces; closed. -/
  | inline
  /-- Named by a header; no second header and no dotted key may name it. -/
  | header
  /-- On the way to a table that a header names. -/
  | implied
  /-- On the way to a member that a dotted key names. -/
  | dotted
deriving DecidableEq, Repr

/-- Floats and date-times are told apart from other values; nothing reads which they are. -/
inductive Value where
  | string (s : String)
  | integer (n : Int)
  | float
  | boolean (b : Bool)
  | dateTime
  | array (items : List Value)
  /-- Tables that headers in double brackets add one by one; the last one is open. -/
  | tables (elements : List (List (String × Value)))
  | table (origin : Origin) (entries : List (String × Value))
deriving Inhabited

/-- Entries under different keys, in the order in which they came. -/
abbrev Table := List (String × Value)

namespace Table

def lookup (key : String) (entries : Table) : Option Value :=
  (entries.find? fun entry => entry.1 = key).map Prod.snd

def replace (key : String) (value : Value) (entries : Table) : Table :=
  entries.map fun entry => if entry.1 = key then (key, value) else entry

def extendLast (f : Table → Option Table) (elements : List Table) : Option (List Table) := do
  let last ← elements.getLast?
  let last ← f last
  return elements.dropLast ++ [last]

def add (key : String) (value : Value) (entries : Table) : Option Table :=
  if (entries.lookup key).isSome then none else some (entries ++ [(key, value)])

/-- Adds an entry under a dotted key. The tables on the way must not come from headers or braces,
and the last of them has to come from dotted keys. -/
def addDotted (key : String) (value : Value) : (path : List String) → Table → Option Table
  | [], entries => add key value entries
  | name :: path, entries =>
    match entries.lookup name with
    | none => do
      let inner ← addDotted key value path []
      return entries ++ [(name, .table .dotted inner)]
    | some (.table origin inner) =>
      if origin = .dotted ∨ (origin = .implied ∧ path ≠ []) then do
        let inner ← addDotted key value path inner
        return entries.replace name (.table origin inner)
      else none
    | some (.tables elements) =>
      if path = [] then none
      else do
        let elements ← extendLast (addDotted key value path) elements
        return entries.replace name (.tables elements)
    | some _ => none

/-- Applies `f` to the table at `path`, making the tables on the way. Of an array of tables
the last element is on the way; a table between braces is not. -/
def atHeader (f : Table → Option Table) : (path : List String) → Table → Option Table
  | [], entries => f entries
  | name :: path, entries =>
    match entries.lookup name with
    | none => do
      let inner ← atHeader f path []
      return entries ++ [(name, .table .implied inner)]
    | some (.table origin inner) =>
      if origin = .inline then none
      else do
        let inner ← atHeader f path inner
        return entries.replace name (.table origin inner)
    | some (.tables elements) => do
      let elements ← extendLast (atHeader f path) elements
      return entries.replace name (.tables elements)
    | some _ => none

/-- What a header in brackets does: the table is new, or so far only implied. -/
def openTable (key : String) (entries : Table) : Option Table :=
  match entries.lookup key with
  | none => some (entries ++ [(key, .table .header [])])
  | some (.table .implied inner) => some (entries.replace key (.table .header inner))
  | some _ => none

/-- What a header in double brackets does: one more element. -/
def openElement (key : String) (entries : Table) : Option Table :=
  match entries.lookup key with
  | none => some (entries ++ [(key, .tables [[]])])
  | some (.tables elements) => some (entries.replace key (.tables (elements ++ [[]])))
  | some _ => none

end Table

end SceneConfig.Toml
