/- Texts taken apart at a character: what was joined by it comes back, if none of the pieces holds
   it. At spaces a line falls into words, and at line ends a text into lines. -/
import Mathlib.Data.List.Basic

namespace SceneConfig.Text
variable {c : Char}

/-- The pieces between the places where the character stands. -/
def cutAt (c : Char) (text : String) : List String :=
  (text.split c).toList.map String.Slice.copy

/-- What stands in front of each line end. -/
def lines (text : String) : List String :=
  (cutAt '\n' text).dropLast

theorem cutAt_eq (c : Char) (text : String) :
    cutAt c text = (text.toList.splitOn c).map String.ofList :=
  String.toList_split_char

theorem cutAt_ne_nil (c : Char) (text : String) : cutAt c text ≠ [] := by
  rw [cutAt_eq]
  exact mt List.map_eq_nil_iff.mp (List.splitOn_ne_nil c _)

theorem cutAt_of_notMem {text : String} (h : c ∉ text.toList) : cutAt c text = [text] := by
  rw [cutAt_eq, List.splitOn_eq_singleton h, List.map_singleton, String.ofList_toList]

theorem cutAt_append (front rest : String) :
    cutAt c (front ++ String.singleton c ++ rest) = cutAt c front ++ cutAt c rest := by
  simp only [cutAt_eq, String.toList_append, String.toList_singleton, List.append_assoc,
    List.singleton_append, List.splitOn_append_cons_self, List.map_append]

theorem cutAt_intercalate {pieces : List String} (nonempty : pieces ≠ [])
    (h : ∀ piece ∈ pieces, c ∉ piece.toList) :
    cutAt c ((String.singleton c).intercalate pieces) = pieces := by
  have cut := String.toList_split_intercalate h
  rwa [if_neg nonempty] at cut

/-- The pieces tell what the text was. -/
theorem cutAt_injective {text other : String} (h : cutAt c text = cutAt c other) :
    text = other := by
  have same : text.toList.splitOn c = other.toList.splitOn c := by
    rw [cutAt_eq, cutAt_eq] at h
    exact (List.map_injective_iff.mpr fun _ _ => String.ofList_inj.mp) h
  have joined := congrArg (List.intercalate [c]) same
  rwa [List.intercalate_splitOn, List.intercalate_splitOn, String.toList_inj] at joined

theorem cutAt_join {pieces : List String} (h : ∀ piece ∈ pieces, c ∉ piece.toList) :
    cutAt c (String.join (pieces.map (· ++ String.singleton c))) = pieces ++ [""] := by
  induction pieces with
  | nil => exact cutAt_of_notMem List.not_mem_nil
  | cons piece pieces ih =>
      obtain ⟨here, behind⟩ := List.forall_mem_cons.mp h
      rw [List.map_cons, String.join_cons, cutAt_append, cutAt_of_notMem here, ih behind,
        List.singleton_append, List.cons_append]

theorem lines_join {ls : List String} (h : ∀ line ∈ ls, '\n' ∉ line.toList) :
    lines (String.join (ls.map (· ++ "\n"))) = ls := by
  have newline : "\n" = String.singleton '\n' := rfl
  rw [lines, newline, cutAt_join h, List.dropLast_concat]

theorem getLast?_join {ls : List String} (nonempty : ls ≠ []) :
    (String.join (ls.map (· ++ "\n"))).toList.getLast? = some '\n' := by
  obtain ⟨front, last, rfl⟩ := (List.eq_nil_or_concat ls).resolve_left nonempty
  simp

theorem notMem_intercalate {separator : String} {pieces : List String}
    (between : c ∉ separator.toList) (h : ∀ piece ∈ pieces, c ∉ piece.toList) :
    c ∉ (separator.intercalate pieces).toList := by
  induction pieces with
  | nil => exact List.not_mem_nil
  | cons piece pieces ih =>
      obtain ⟨here, behind⟩ := List.forall_mem_cons.mp h
      cases pieces with
      | nil => rwa [String.intercalate_singleton]
      | cons next pieces =>
          rw [String.intercalate_cons_cons]
          simp only [String.toList_append, List.mem_append, not_or]
          exact ⟨⟨here, between⟩, ih behind⟩

theorem cutAt_comma {piece : String} (h : ' ' ∉ piece.toList) (rest : String) :
    cutAt ' ' (piece ++ ", " ++ rest) = (piece ++ ",") :: cutAt ' ' rest := by
  have split : piece ++ ", " ++ rest = piece ++ "," ++ String.singleton ' ' ++ rest := by
    rw [← String.toList_inj]
    simp
  rw [split, cutAt_append, cutAt_of_notMem (by simpa using h), List.singleton_append]

/-- Commas in the pieces do not matter, as there is no space behind them. -/
theorem eq_of_intercalate_comma {ps qs : List String} (hp : ∀ piece ∈ ps, ' ' ∉ piece.toList)
    (hq : ∀ piece ∈ qs, ' ' ∉ piece.toList) (length : ps.length = qs.length)
    (same : ", ".intercalate ps = ", ".intercalate qs) : ps = qs := by
  induction ps generalizing qs with
  | nil => exact (List.length_eq_zero_iff.mp length.symm).symm
  | cons p ps ih =>
      obtain ⟨q, qs, rfl⟩ := List.exists_cons_of_length_eq_add_one length.symm
      obtain ⟨hereP, behindP⟩ := List.forall_mem_cons.mp hp
      obtain ⟨hereQ, behindQ⟩ := List.forall_mem_cons.mp hq
      have lengths : ps.length = qs.length := Nat.succ.inj length
      by_cases last : ps = []
      · have lastQ : qs = [] := by
          rwa [← List.length_eq_zero_iff, ← lengths, List.length_eq_zero_iff]
        rw [last, lastQ, String.intercalate_singleton, String.intercalate_singleton] at same
        rw [last, lastQ, same]
      · have lastQ : qs ≠ [] := by
          rwa [ne_eq, ← List.length_eq_zero_iff, ← lengths, List.length_eq_zero_iff]
        rw [String.intercalate_cons_of_ne_nil last, String.intercalate_cons_of_ne_nil lastQ] at same
        have cut := congrArg (cutAt ' ') same
        rw [cutAt_comma hereP, cutAt_comma hereQ, List.cons.injEq, String.append_left_inj] at cut
        rw [cut.1, ih behindP behindQ lengths (cutAt_injective cut.2)]

theorem notMem_toDigits (h : c.isDigit = false) (n : Nat) : c ∉ Nat.toDigits 10 n := by
  intro member
  rw [Nat.isDigit_of_mem_toDigits (by decide) (by decide) member] at h
  cases h

theorem toDigits_injective {m n : Nat} (h : Nat.toDigits 10 m = Nat.toDigits 10 n) : m = n := by
  rw [← Nat.ofDigitChars_ten_toDigits (n := m), h, Nat.ofDigitChars_ten_toDigits]

theorem number_injective {m n : Nat} (h : toString m = toString n) : m = n := by
  apply toDigits_injective
  rw [← Nat.toList_repr, ← Nat.toString_eq_repr, h, Nat.toString_eq_repr, Nat.toList_repr]

end SceneConfig.Text
