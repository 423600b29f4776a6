/- Values that no reader tells apart: objects by the members that are seen, in whatever order they
   stand. Documents that are alike compile alike. -/
import SceneConfig.Proofs.Document.TwoRuns

namespace SceneConfig
open Json (Value lookup)

/-- Numbers are not compared, since no reader looks into one. -/
inductive Json.Value.Alike : Value → Value → Prop
  | null : Alike .null .null
  | bool (b : Bool) : Alike (.bool b) (.bool b)
  | number (m n : Json.Number) : Alike (.number m) (.number n)
  | string (s : String) : Alike (.string s) (.string s)
  | array {vs ws : List Value} : vs.length = ws.length →
      (∀ (i : Nat) (v w : Value), vs[i]? = some v → ws[i]? = some w → Alike v w) →
      Alike (.array vs) (.array ws)
  | object {ms ns : List (String × Value)} :
      (∀ key, (lookup key ms).isSome = (lookup key ns).isSome) →
      (∀ key (v w : Value), lookup key ms = some v → lookup key ns = some w → Alike v w) →
      Alike (.object ms) (.object ns)

theorem Json.sizeOf_lt_of_lookup {key : String} {v : Value} {members : List (String × Value)}
    (h : lookup key members = some v) : sizeOf v < sizeOf members := by
  induction members with
  | nil => cases h
  | cons member members ih =>
      obtain ⟨k, w⟩ := member
      rw [lookup] at h
      cases hl : lookup key members with
      | some u =>
          rw [hl] at h
          have smaller := ih (hl.trans h)
          simp only [List.cons.sizeOf_spec]
          omega
      | none =>
          rw [hl] at h
          simp only at h
          split at h
          · cases h
            simp only [List.cons.sizeOf_spec, Prod.mk.sizeOf_spec]
            omega
          · cases h

namespace Json.Value.Alike

theorem refl : (v : Value) → v.Alike v
  | .null => .null
  | .bool b => .bool b
  | .number n => .number n n
  | .string s => .string s
  | .array items => by
      refine .array rfl ?_
      intro i v w hv hw
      have same : v = w := Option.some.inj (hv.symm.trans hw)
      have smaller := List.sizeOf_lt_of_mem (List.mem_of_getElem? hv)
      exact same ▸ refl v
  | .object members => by
      refine .object (fun _ => rfl) ?_
      intro key v w hv hw
      have same : v = w := Option.some.inj (hv.symm.trans hw)
      have smaller := Json.sizeOf_lt_of_lookup hv
      exact same ▸ refl v
termination_by v => sizeOf v
decreasing_by all_goals (simp only [Value.array.sizeOf_spec, Value.object.sizeOf_spec]; omega)

variable {v w : Value}

theorem isObject_eq (h : v.Alike w) : v.isObject = w.isObject := by
  cases h <;> rfl

theorem text? (h : v.Alike w) : Option.Rel Eq v.text? w.text? := by
  cases h with
  | string s => exact .some rfl
  | null | bool | number | array | object => exact .none

theorem flag? (h : v.Alike w) : Option.Rel Eq v.flag? w.flag? := by
  cases h with
  | bool b => exact .some rfl
  | null | string | number | array | object => exact .none

theorem items? {R : Value → Value → Prop} (weaker : ∀ v w : Value, v.Alike w → R v w)
    (h : v.Alike w) : Option.Rel (List.Forall₂ R) v.items? w.items? := by
  cases h with
  | array length items =>
      refine .some (List.forall₂_iff_get.mpr ⟨length, ?_⟩)
      intro i low low'
      apply weaker
      exact items i _ _ (List.getElem?_eq_getElem low) (List.getElem?_eq_getElem low')
  | null | string | number | bool | object => exact .none

theorem get? (h : v.Alike w) (key : String) : Option.Rel Alike (v.get? key) (w.get? key) := by
  cases h with
  | @object ms ns present members =>
      change Option.Rel Alike (lookup key ms) (lookup key ns)
      have same := present key
      have related := members key
      generalize lookup key ms = a?, lookup key ns = b? at same related
      cases a? with
      | none =>
          cases b? with
          | none => exact .none
          | some b => cases same
      | some a =>
          cases b? with
          | none => cases same
          | some b => exact .some (related a b rfl rfl)
  | null | string | number | bool | array => exact .none

end Json.Value.Alike

section
variable {v w : Value} {key : String}

theorem membersAgree_of_alike {α : Type} {view : Value → Option α} {R : α → α → Prop}
    (views : ∀ v w : Value, v.Alike w → Option.Rel R (view v) (view w))
    (h : Option.Rel Value.Alike (v.get? key) (w.get? key)) : MembersAgree view R key v w := by
  constructor
  · rw [Value.has, Value.has]
    generalize v.get? key = a?, w.get? key = b? at h
    cases h <;> rfl
  · generalize v.get? key = a?, w.get? key = b? at h
    cases h with
    | some alike => exact views _ _ alike
    | none => exact .none

theorem textsAgree_of_alike (h : Option.Rel Value.Alike (v.get? key) (w.get? key)) :
    TextsAgree key v w :=
  membersAgree_of_alike (fun _ _ alike => alike.text?) h

theorem listsAgree_of_alike {R : Value → Value → Prop} (weaker : ∀ v w : Value, v.Alike w → R v w)
    (h : Option.Rel Value.Alike (v.get? key) (w.get? key)) : ListsAgree R key v w :=
  membersAgree_of_alike (fun _ _ alike => alike.items? weaker) h

theorem recordsAgree_of_alike (kind : GroupKind) (h : v.Alike w) : RecordsAgree kind v w := by
  have texts (key : String) : TextsAgree key v w := textsAgree_of_alike (h.get? key)
  cases kind with
  | switch => exact ⟨h.isObject_eq, fun key _ => texts key⟩
  | sensor =>
      have flag := membersAgree_of_alike (fun _ _ alike => alike.flag?) (h.get? "jsondata")
      exact ⟨h.isObject_eq, fun key _ => texts key, flag, fun _ _ _ key _ => texts key⟩

theorem scenesAgree_of_alike (h : v.Alike w) : ScenesAgree v w := by
  have texts (key : String) : TextsAgree key v w := textsAgree_of_alike (h.get? key)
  refine ⟨h.isObject_eq, texts "type", fun _ key _ => texts key, ?_⟩
  intro kind _
  exact listsAgree_of_alike (fun _ _ => recordsAgree_of_alike kind) (h.get? "devices")

theorem documentsAgree_of_alike (h : v.Alike w) : DocumentsAgree Eq v w := by
  have texts (key : String) : TextsAgree key v w := textsAgree_of_alike (h.get? key)
  exact ⟨fun key _ => texts key, fun key _ => texts key,
    listsAgree_of_alike (fun _ _ => scenesAgree_of_alike) (h.get? "scenes")⟩

end

end SceneConfig
