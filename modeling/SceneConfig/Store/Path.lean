/- Paths and their components.
   Paths with the same components name the same entry of a memory store. -/

namespace SceneConfig.Path

/-- The first piece of a text cut at slashes, and the pieces behind it. -/
def cut : List Char → List Char × List (List Char)
  | [] => ([], [])
  | c :: cs =>
    let (piece, pieces) := cut cs
    if c = '/' then ([], piece :: pieces) else (c :: piece, pieces)

/-- The pieces between slashes, empty ones too: one more than there are slashes. -/
def segments (path : String) : List String :=
  let (piece, pieces) := cut path.toList
  (piece :: pieces).map String.ofList

def isAbsolute (path : String) : Bool :=
  path.toList.head? = some '/'

inductive Component where
  | root
  | current
  | parent
  | name (name : String)
deriving DecidableEq, Repr

/-- Repeated slashes and dots inside a path stand for nothing. -/
def Component.ofSegment? (segment : String) : Option Component :=
  if segment = "" ∨ segment = "." then none
  else if segment = ".." then some .parent
  else some (.name segment)

/-- A dot in front of a relative path. -/
def startsAtDot (path : String) : Bool :=
  (segments path).head? = some "."

/-- The root or a leading dot, then the names and parents in order; a parent is not resolved. -/
def components (path : String) : List Component :=
  (if isAbsolute path then [.root] else if startsAtDot path then [.current] else []) ++
    (segments path).filterMap Component.ofSegment?

end SceneConfig.Path
