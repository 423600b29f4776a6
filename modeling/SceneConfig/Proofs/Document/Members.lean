/- Members of a record, by the value under their key.
   A reader accepts exactly a member of its type; an optional one also accepts that none is
   there. -/
import SceneConfig.Document.Record

namespace SceneConfig.Json

/-- Members under other keys do not matter to a lookup. -/
theorem lookup_filter {key : String} {p : String × Value → Bool}
    (kept : ∀ member, member.1 = key → p member = true) (members : List (String × Value)) :
    lookup key (members.filter p) = lookup key members := by
  induction members with
  | nil => rfl
  | cons member members ih =>
      cases h : p member with
      | true => rw [List.filter_cons_of_pos h, lookup, lookup, ih]
      | false =>
          have other : member.1 ≠ key := fun same => by
            rw [kept member same] at h
            cases h
          rw [List.filter_cons_of_neg (by simp [h]), lookup, ih, if_neg other]
          cases lookup key members with
          | some v => rfl
          | none => rfl

namespace Value
variable {π : Type} {v w : Value} {key : String} {place : π}

/-- The member `key` is a string; null, as any other value, is none. -/
def HasText (v : Value) (key : String) : Prop := ∃ s, v.get? key = some (.string s)

theorem isObject_of_get? (h : v.get? key = some w) : v.isObject = true := by
  cases v with
  | object members => rfl
  | null | bool | number | string | array => cases h

theorem text?_eq_some_iff {s : String} : w.text? = some s ↔ w = .string s := by
  cases w with
  | string t => simp only [text?, Option.some.injEq, string.injEq]
  | null | bool | number | array | object => simp only [text?, reduceCtorEq]

theorem flag?_eq_some_iff {b : Bool} : w.flag? = some b ↔ w = .bool b := by
  cases w with
  | bool c => simp only [flag?, Option.some.injEq, bool.injEq]
  | null | number | string | array | object => simp only [flag?, reduceCtorEq]

theorem items?_eq_some_iff {items : List Value} : w.items? = some items ↔ w = .array items := by
  cases w with
  | array vs => simp only [items?, Option.some.injEq, array.injEq]
  | null | bool | number | string | object => simp only [items?, reduceCtorEq]

theorem getText?_eq_some_iff {s : String} :
    v.getText? key = some s ↔ v.get? key = some (.string s) := by
  simp only [getText?, Option.bind_eq_some_iff, text?_eq_some_iff, exists_eq_right]

theorem getFlag?_eq_some_iff {b : Bool} :
    v.getFlag? key = some b ↔ v.get? key = some (.bool b) := by
  simp only [getFlag?, Option.bind_eq_some_iff, flag?_eq_some_iff, exists_eq_right]

theorem getItems?_eq_some_iff {items : List Value} :
    v.getItems? key = some items ↔ v.get? key = some (.array items) := by
  simp only [getItems?, Option.bind_eq_some_iff, items?_eq_some_iff, exists_eq_right]

theorem has_eq_false_iff : v.has key = false ↔ v.get? key = none := by
  rw [has, Option.isSome_eq_false_iff, Option.isNone_iff_eq_none]

theorem has_eq_true_iff : v.has key = true ↔ ∃ w, v.get? key = some w := by
  rw [has, Option.isSome_iff_exists]

theorem requireText_eq_ok_iff {s : String} :
    v.requireText key place = .ok s ↔ v.get? key = some (.string s) := by
  rw [← getText?_eq_some_iff, requireText]
  cases v.getText? key with
  | some t => simp only [Except.ok.injEq, Option.some.injEq]
  | none => simp only [reduceCtorEq]

theorem requireItems_eq_ok_iff {items : List Value} :
    v.requireItems key place = .ok items ↔ v.get? key = some (.array items) := by
  rw [← getItems?_eq_some_iff, requireItems]
  cases v.getItems? key with
  | some vs => simp only [Except.ok.injEq, Option.some.injEq]
  | none => simp only [reduceCtorEq]

theorem optionalText_eq_ok_iff {text? : Option String} :
    v.optionalText key place = .ok text? ↔ v.get? key = text?.map Value.string := by
  rw [optionalText]
  cases hv : v.has key with
  | false =>
      rw [has_eq_false_iff.mp hv]
      cases text? <;> simp
  | true =>
      obtain ⟨w, hw⟩ := has_eq_true_iff.mp hv
      rw [if_pos rfl, hw]
      cases text? with
      | none => cases v.requireText key place <;> simp [Functor.map, Except.map]
      | some s =>
          have same : v.requireText key place = .ok s ↔ v.get? key = some (.string s) :=
            requireText_eq_ok_iff
          rw [hw] at same
          simp only [Option.map_some, ← same]
          cases v.requireText key place <;> simp [Functor.map, Except.map]

theorem optionalFlag_eq_ok_iff {flag? : Option Bool} :
    v.optionalFlag key place = .ok flag? ↔ v.get? key = flag?.map Value.bool := by
  rw [optionalFlag]
  cases hb : v.getFlag? key with
  | some b =>
      rw [getFlag?_eq_some_iff.mp hb]
      cases flag? <;> simp
  | none =>
      cases flag? with
      | none => cases hv : v.get? key <;> simp [has, hv]
      | some b =>
          have other : v.get? key ≠ some (.bool b) := fun h => by
            rw [getFlag?_eq_some_iff.mpr h] at hb
            cases hb
          cases hv : v.has key <;> simp [other]

theorem requireText_eq_error {fault : Fault π} (h : v.requireText key place = .error fault) :
    fault = v.blame key place .text ∧ ∀ s, v.get? key ≠ some (.string s) := by
  rw [requireText] at h
  cases hs : v.getText? key with
  | some s =>
      rw [hs] at h
      cases h
  | none =>
      rw [hs] at h
      cases h
      refine ⟨rfl, ?_⟩
      intro s present
      rw [getText?_eq_some_iff.mpr present] at hs
      cases hs

theorem requireItems_eq_error {fault : Fault π} (h : v.requireItems key place = .error fault) :
    fault = v.blame key place .list ∧ ∀ items, v.get? key ≠ some (.array items) := by
  rw [requireItems] at h
  cases hi : v.getItems? key with
  | some items =>
      rw [hi] at h
      cases h
  | none =>
      rw [hi] at h
      cases h
      refine ⟨rfl, ?_⟩
      intro items present
      rw [getItems?_eq_some_iff.mpr present] at hi
      cases hi

/-- An optional member is at fault only when it is there. -/
theorem optionalText_eq_error {fault : Fault π} (h : v.optionalText key place = .error fault) :
    ∃ w, v.get? key = some w ∧ fault = .wrongShape (.member key) place .text ∧
      ∀ s, w ≠ .string s := by
  rw [optionalText] at h
  cases hv : v.has key with
  | false =>
      rw [hv] at h
      cases h
  | true =>
      obtain ⟨w, hw⟩ := has_eq_true_iff.mp hv
      rw [if_pos hv] at h
      cases hs : v.requireText key place with
      | ok s =>
          rw [hs] at h
          cases h
      | error e =>
          rw [hs] at h
          cases h
          obtain ⟨rfl, misfit⟩ := requireText_eq_error hs
          refine ⟨w, hw, ?_, ?_⟩
          · rw [blame, if_pos hv]
          · rintro s rfl
            exact misfit s hw

theorem optionalFlag_eq_error {fault : Fault π} (h : v.optionalFlag key place = .error fault) :
    ∃ w, v.get? key = some w ∧ fault = .wrongShape (.member key) place .flag ∧
      ∀ b, w ≠ .bool b := by
  rw [optionalFlag] at h
  cases hb : v.getFlag? key with
  | some b =>
      rw [hb] at h
      cases h
  | none =>
      cases hv : v.has key with
      | false =>
          rw [hb, hv] at h
          cases h
      | true =>
          obtain ⟨w, hw⟩ := has_eq_true_iff.mp hv
          rw [hb, hv] at h
          cases h
          refine ⟨w, hw, ?_, ?_⟩
          · rw [blame, if_pos hv]
          · rintro b rfl
            rw [getFlag?_eq_some_iff.mpr hw] at hb
            cases hb

end Value

end SceneConfig.Json
