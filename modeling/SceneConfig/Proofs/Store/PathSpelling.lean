/- Paths with the same components are the spellings of one path: they differ in repeated slashes, in
   slashes at the end and in dots behind a slash, and in nothing else. -/
import Mathlib.Logic.Relation
import SceneConfig.Store.Path

namespace SceneConfig.Path

/-- A path, and the same path with a slash or a dot less. A leading dot, a parent and the slash that
makes a path absolute stay. -/
inductive Respelled : List Char → List Char → Prop
  | slashes (front rest : List Char) :
      Respelled (front ++ '/' :: '/' :: rest) (front ++ '/' :: rest)
  | dot (front rest : List Char) :
      Respelled (front ++ '/' :: '.' :: '/' :: rest) (front ++ '/' :: rest)
  | lastSlash {front : List Char} : front ≠ [] → Respelled (front ++ ['/']) front

/-- The paths can be turned into each other by adding and dropping such slashes and dots. -/
def SpelledAlike (path other : String) : Prop :=
  Relation.EqvGen Respelled path.toList other.toList

/-- The pieces between slashes. -/
def pieces (cs : List Char) : List (List Char) :=
  (cut cs).1 :: (cut cs).2

theorem pieces_slash (cs : List Char) : pieces ('/' :: cs) = [] :: pieces cs := by
  simp only [pieces, cut, if_true]

theorem pieces_cons {c : Char} (h : c ≠ '/') (cs : List Char) :
    pieces (c :: cs) = (c :: (cut cs).1) :: (cut cs).2 := by
  simp only [pieces, cut, if_neg h]

theorem pieces_append (front rest : List Char) :
    pieces (front ++ '/' :: rest) = pieces front ++ pieces rest := by
  induction front with
  | nil => exact pieces_slash rest
  | cons c front ih =>
      by_cases h : c = '/'
      · subst h
        rw [List.cons_append, pieces_slash, pieces_slash, ih, List.cons_append]
      · obtain ⟨first, others⟩ := List.cons.inj ih
        rw [List.cons_append, pieces_cons h, pieces_cons h, first, others]
        rfl

/-- With a slash behind each piece the path is there again, and a slash behind it. -/
theorem flatMap_pieces (cs : List Char) : (pieces cs).flatMap (· ++ ['/']) = cs ++ ['/'] := by
  induction cs with
  | nil => rfl
  | cons c cs ih =>
      by_cases h : c = '/'
      · subst h
        rw [pieces_slash, List.flatMap_cons, ih]
        rfl
      · rw [pieces, List.flatMap_cons] at ih
        rw [pieces_cons h, List.flatMap_cons, List.cons_append, List.cons_append, ih,
          List.cons_append]

/-- The components that pieces stand for behind the start of a path. -/
def inner (ps : List (List Char)) : List Component :=
  ps.filterMap fun piece => Component.ofSegment? (String.ofList piece)

/-- What a path starts at: the root, a dot, or neither. -/
def start (cs : List Char) : List Component :=
  if cs.head? = some '/' then [.root] else if (cut cs).1 = ['.'] then [.current] else []

theorem components_eq (path : String) :
    components path = start path.toList ++ inner (pieces path.toList) := by
  have dot : startsAtDot path = true ↔ (cut path.toList).1 = ['.'] := by
    simp only [startsAtDot, segments, List.map_cons, List.head?_cons, Option.some.injEq,
      decide_eq_true_eq, ← String.toList_inj, String.toList_ofList]
    rfl
  rw [components, start, isAbsolute, inner, segments]
  simp only [decide_eq_true_eq, dot, pieces, List.filterMap_map]
  rfl

theorem start_append (front rest : List Char) :
    start (front ++ '/' :: rest) = start (front ++ ['/']) := by
  have split (rest : List Char) : (cut (front ++ '/' :: rest)).1 = (cut front).1 := by
    have split := pieces_append front rest
    rw [pieces, pieces, List.cons_append] at split
    exact (List.cons.inj split).1
  rw [start, start, split, split]
  cases front <;> rfl

theorem start_lastSlash {front : List Char} (h : front ≠ []) :
    start (front ++ ['/']) = start front := by
  have split := pieces_append front []
  rw [pieces, pieces, List.cons_append] at split
  rw [start, start, (List.cons.inj split).1]
  cases front with
  | nil => exact absurd rfl h
  | cons c front => rfl

theorem inner_append (front rest : List Char) :
    inner (pieces (front ++ '/' :: rest)) = inner (pieces front) ++ inner (pieces rest) := by
  rw [pieces_append, inner, List.filterMap_append, inner, inner]

theorem Respelled.components_eq {cs ds : List Char} (h : Respelled cs ds) :
    start cs ++ inner (pieces cs) = start ds ++ inner (pieces ds) := by
  cases h with
  | slashes front rest =>
      have empty : inner (pieces ('/' :: rest)) = inner (pieces rest) := inner_append [] rest
      rw [start_append front rest, start_append front ('/' :: rest), inner_append, inner_append,
        empty]
  | dot front rest =>
      have dot : inner (pieces ('.' :: '/' :: rest)) = inner (pieces rest) :=
        inner_append ['.'] rest
      rw [start_append front rest, start_append front ('.' :: '/' :: rest), inner_append,
        inner_append, dot]
  | lastSlash nonempty =>
      have nothing : inner (pieces []) = [] := rfl
      rw [start_lastSlash nonempty, inner_append, nothing, List.append_nil]

def Component.text : Component → List Char
  | .root => []
  | .current => ['.']
  | .parent => ['.', '.']
  | .name segment => segment.toList

/-- The spelling of a path with a slash behind each component, and nothing else. -/
def spell (components : List Component) : List Char :=
  components.flatMap fun component => component.text ++ ['/']

theorem text_of_ofSegment? {piece : List Char} {component : Component}
    (h : Component.ofSegment? (String.ofList piece) = some component) :
    component.text = piece := by
  rw [Component.ofSegment?] at h
  split at h
  · cases h
  · split at h
    · next parent =>
      cases h
      have chars := congrArg String.toList parent
      rw [String.toList_ofList] at chars
      exact chars.symm
    · cases h
      exact String.toList_ofList

theorem piece_of_ofSegment?_eq_none {piece : List Char}
    (h : Component.ofSegment? (String.ofList piece) = none) : piece = [] ∨ piece = ['.'] := by
  rw [Component.ofSegment?] at h
  split at h
  · next nothing =>
    rw [← String.toList_inj, ← String.toList_inj, String.toList_ofList] at nothing
    exact nothing
  · split at h <;> cases h

open Relation (EqvGen)

/-- Behind a slash, pieces that stand for nothing are dropped one by one. -/
theorem eqvGen_spell_inner (front : List Char) (ps : List (List Char)) :
    EqvGen Respelled (front ++ '/' :: ps.flatMap (· ++ ['/']))
      (front ++ '/' :: spell (inner ps)) := by
  induction ps generalizing front with
  | nil => exact .refl _
  | cons piece ps ih =>
      rw [List.flatMap_cons, List.append_assoc, inner, List.filterMap_cons]
      cases h : Component.ofSegment? (String.ofList piece) with
      | none =>
          rcases piece_of_ofSegment?_eq_none h with rfl | rfl
          · exact .trans _ _ _ (.rel _ _ (.slashes front _)) (ih front)
          · exact .trans _ _ _ (.rel _ _ (.dot front _)) (ih front)
      | some component =>
          have next := ih (front ++ '/' :: piece)
          rw [spell, List.flatMap_cons, text_of_ofSegment? h]
          simpa only [List.append_assoc, List.cons_append, List.nil_append, spell, inner] using next

theorem head?_eq_slash_iff {cs : List Char} (h : cs ≠ []) :
    cs.head? = some '/' ↔ (cut cs).1 = [] := by
  cases cs with
  | nil => exact absurd rfl h
  | cons c cs =>
      by_cases slash : c = '/'
      · simp only [slash, List.head?_cons, cut, if_true]
      · simp only [slash, List.head?_cons, cut, if_false, Option.some.injEq, reduceCtorEq]

/-- The first piece is written whether it stands for a component or for what the path starts at. -/
theorem spell_start_inner {cs : List Char} (h : cs ≠ []) :
    spell (start cs ++ inner (pieces cs)) = (cut cs).1 ++ '/' :: spell (inner (cut cs).2) := by
  have slash := head?_eq_slash_iff h
  rw [start, inner, pieces, List.filterMap_cons]
  cases known : Component.ofSegment? (String.ofList (cut cs).1) with
  | none =>
      rcases piece_of_ofSegment?_eq_none known with empty | dot
      · rw [if_pos (slash.mpr empty), empty]
        rfl
      · have relative : ¬cs.head? = some '/' := by
          rw [slash, dot]
          nofun
        rw [if_neg relative, if_pos dot, dot]
        rfl
  | some component =>
      have first : (cut cs).1 ≠ [] ∧ (cut cs).1 ≠ ['.'] := by
        constructor
        · intro empty
          rw [empty] at known
          cases known
        · intro dot
          rw [dot] at known
          cases known
      rw [if_neg (mt slash.mp first.1), if_neg first.2, List.nil_append, spell, List.flatMap_cons,
        text_of_ofSegment? known, List.append_assoc]
      rfl

theorem eqvGen_spell (cs : List Char) :
    EqvGen Respelled cs (spell (start cs ++ inner (pieces cs))) := by
  by_cases h : cs = []
  · subst h
    exact .refl _
  · have behind : EqvGen Respelled cs (cs ++ ['/']) := .symm _ _ (.rel _ _ (.lastSlash h))
    rw [← flatMap_pieces, pieces, List.flatMap_cons, List.append_assoc] at behind
    rw [spell_start_inner h]
    exact .trans _ _ _ behind (eqvGen_spell_inner _ _)

/-- Paths have the same components exactly when they are spellings of one path. -/
theorem components_eq_iff {path other : String} :
    components path = components other ↔ SpelledAlike path other := by
  rw [components_eq, components_eq, SpelledAlike]
  constructor
  · intro same
    have there := eqvGen_spell path.toList
    rw [same] at there
    exact .trans _ _ _ there (.symm _ _ (eqvGen_spell other.toList))
  · generalize path.toList = cs, other.toList = ds
    intro alike
    induction alike with
    | rel _ _ step => exact step.components_eq
    | refl _ => rfl
    | symm _ _ _ ih => exact ih.symm
    | trans _ _ _ _ _ first second => exact first.trans second

end SceneConfig.Path
