/- A JSON object is no TOML text: behind white space a line would have to start with a brace, and
   neither a header nor a key does. -/
import Mathlib.Data.List.TakeDrop
import SceneConfig.Json.Parser
import SceneConfig.Toml.Parser

namespace SceneConfig
open Json.Parser (isSpace)
open Toml.Scanner

namespace Json.Parser

/-- Only a brace starts an object. -/
theorem value_eq_object {members : List (String × Value)} {fuel depth : Nat}
    {s rest : List Char} (h : value fuel depth s = some (.object members, rest)) :
    ∃ tail, s = '{' :: tail := by
  cases fuel with
  | zero => cases h
  | succ fuel =>
      unfold value at h
      split at h
      case h_6 => exact ⟨_, rfl⟩
      all_goals simp [Option.bind_eq_some_iff] at h
      split at h <;> simp [Option.bind_eq_some_iff] at h

end Json.Parser

/-- The text of an object is a brace behind white space. -/
theorem Json.exists_brace_of_parse {text : String} {document : Value}
    (h : parse text = some document) (object : document.isObject = true) :
    ∃ space tail, text.toList = space ++ '{' :: tail ∧ ∀ c ∈ space, isSpace c = true := by
  obtain ⟨⟨v, rest⟩, hv, same⟩ := Option.bind_eq_some_iff.mp h
  simp only at same
  split at same
  · cases same
    cases document with
    | object members =>
        obtain ⟨tail, split⟩ := Parser.value_eq_object hv
        refine ⟨text.toList.takeWhile isSpace, tail, ?_, ?_⟩
        · rw [← split]
          exact List.takeWhile_append_dropWhile.symm
        · intro c member
          exact List.all_eq_true.mp List.all_takeWhile c member
    | null | bool | number | string | array => cases object
  · cases same

namespace Toml.Scanner
variable {α β : Type}

theorem bind_apply (x : Scanner α) (f : α → Scanner β) (s : List Char) :
    (x >>= f) s = (x s).bind fun (a, rest) => f a rest := rfl

theorem orElse_apply (x y : Scanner α) (s : List Char) : (x <|> y) s = (x s <|> y s) := rfl

theorem newline_eq_none {c : Char} (h : c ≠ '\n') (s : List Char) :
    newline ('\r' :: c :: s) = none := by
  simp [newline, orElse_apply, exactly, h.symm]

/-- A line that is neither a header nor an entry has to be empty. -/
theorem lines_succ {valueFuel fuel : Nat} {draft : Draft} {c : Char} {s s' : List Char}
    (blank : blanks s = some ((), c :: s')) (noHeader : header draft (c :: s') = none)
    (noEntry : entry valueFuel draft (c :: s') = none) :
    lines valueFuel (fuel + 1) draft s =
      (lineEnd (c :: s')).bind fun (_, rest) => lines valueFuel fuel draft rest := by
  rw [lines, bind_apply, blank]
  change ((header draft <|> entry valueFuel draft <|> (do lineEnd; return draft) :
    Scanner Draft) (c :: s')).bind _ = _
  rw [orElse_apply, orElse_apply, noHeader, noEntry, bind_apply]
  cases lineEnd (c :: s') <;> rfl

/-- Blanks in front of the brace are passed over; what is left starts with the brace or with the
end of a line. -/
theorem blanks_braced {space : List Char} (white : ∀ c ∈ space, isSpace c = true)
    (tail : List Char) :
    ∃ space', blanks (space ++ '{' :: tail) = some ((), space' ++ '{' :: tail) ∧
      (∀ c ∈ space', isSpace c = true) ∧
        ∀ c rest, space' = c :: rest → c = '\n' ∨ c = '\r' := by
  refine ⟨space.dropWhile isBlank, ?_, ?_, ?_⟩
  · have brace : isBlank '{' = false := rfl
    have rest : (space ++ '{' :: tail).dropWhile isBlank =
        space.dropWhile isBlank ++ '{' :: tail := by
      induction space with
      | nil => simp [brace]
      | cons c space ih =>
          rw [List.cons_append, List.dropWhile_cons, List.dropWhile_cons]
          split
          · exact ih fun c member => white c (List.mem_cons_of_mem _ member)
          · rfl
    rw [← rest, blanks, bind_apply, run, List.span_eq_takeWhile_dropWhile]
    rfl
  · intro c member
    exact white c (List.dropWhile_sublist isBlank |>.mem member)
  · intro c rest split
    have member : c ∈ space := by
      refine (List.dropWhile_sublist isBlank).mem ?_
      rw [split]
      exact List.mem_cons_self
    have stop := List.head?_dropWhile_not isBlank space
    have white := white c member
    simp only [split, List.head?_cons, isSpace, isBlank, Bool.or_eq_true, Bool.or_eq_false_iff,
      decide_eq_true_eq, decide_eq_false_iff_not] at white stop
    rcases white with ((blank | tab) | feed) | back
    · exact absurd blank stop.1
    · exact absurd tab stop.2
    · exact .inl feed
    · exact .inr back

/-- White space holds line ends at most, so the brace is reached and refused. -/
theorem lines_braced {valueFuel fuel : Nat} {draft : Draft} {space : List Char}
    (white : ∀ c ∈ space, isSpace c = true) (tail : List Char) :
    lines valueFuel fuel draft (space ++ '{' :: tail) = none := by
  induction fuel generalizing space with
  | zero => rfl
  | succ fuel ih =>
      obtain ⟨space', blank, white', first⟩ := blanks_braced white tail
      cases space' with
      | nil =>
          rw [lines_succ blank rfl rfl]
          rfl
      | cons c rest =>
          have later : ∀ d ∈ rest, isSpace d = true :=
            fun d member => white' d (List.mem_cons_of_mem c member)
          rcases first c rest rfl with rfl | rfl
          · rw [List.cons_append] at blank
            rw [lines_succ blank rfl rfl]
            exact ih later
          · rw [List.cons_append] at blank
            rw [lines_succ blank rfl rfl]
            cases rest with
            | nil => rfl
            | cons d rest =>
                by_cases feed : d = '\n'
                · subst feed
                  exact ih fun e member => later e (List.mem_cons_of_mem _ member)
                · have stuck : lineEnd ('\r' :: d :: (rest ++ '{' :: tail)) = none :=
                    newline_eq_none feed _
                  rw [List.cons_append, stuck]
                  rfl

end Toml.Scanner

theorem Toml.parse_eq_none_of_json {text : String} {document : Json.Value}
    (h : Json.parse text = some document) (object : document.isObject = true) :
    Toml.parse text = none := by
  obtain ⟨space, tail, split, white⟩ := Json.exists_brace_of_parse h object
  have noMark : text.toList.head? ≠ some '\uFEFF' := by
    rw [split]
    intro mark
    cases space with
    | nil => cases mark
    | cons c space =>
        cases mark
        have odd := white _ List.mem_cons_self
        cases odd
  rw [Toml.parse, Scanner.document]
  simp only [if_neg noMark]
  rw [split, lines_braced white]
  rfl

end SceneConfig
