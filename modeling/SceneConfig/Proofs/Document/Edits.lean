/- Documents that differ in one member of a node, or in one element of an array in it. -/
import SceneConfig.Proofs.Document.Places

namespace SceneConfig.Json.Value

/-- `w` is `v` with `value` as its member `key`. -/
structure Sets (key : String) (value v w : Value) : Prop where
  here : w.get? key = some value
  rest : ∀ other, other ≠ key → w.get? other = v.get? other

/-- Objects with the same members under the other keys. -/
theorem Sets.of_filter {key : String} {value : Value} {members others : List (String × Value)}
    (here : lookup key others = some value)
    (same : (others.filter fun member => member.1 != key) =
      members.filter fun member => member.1 != key) :
    Sets key value (.object members) (.object others) := by
  refine ⟨here, ?_⟩
  intro other ne
  have seen : ∀ member : String × Value, member.1 = other → (member.1 != key) = true := by
    rintro member rfl
    exact bne_iff_ne.mpr ne
  rw [get?, get?, ← lookup_filter seen others, same, lookup_filter seen]

theorem Sets.isObject {key : String} {value v w : Value} (h : Sets key value v w) :
    w.isObject = true :=
  isObject_of_get? h.here

/-- The member `key` becomes some value of this sort. -/
def SetsTo (key : String) (sort : Value → Prop) (v w : Value) : Prop :=
  ∃ value, sort value ∧ Sets key value v w

/-- One element of the array under `key` is edited. -/
def EditsItem (key : String) (index : Nat) (edit : Value → Value → Prop) (v w : Value) : Prop :=
  ∃ items item new, v.get? key = some (.array items) ∧ items[index]? = some item ∧
    edit item new ∧ Sets key (.array (items.set index new)) v w

namespace EditsItem
variable {key : String} {index : Nat} {edit : Value → Value → Prop} {v w : Value}

theorem item? (h : EditsItem key index edit v w) :
    ∃ item new, v.item? key index = some item ∧ w.item? key index = some new ∧
      edit item new := by
  obtain ⟨items, item, new, listed, slot, edited, set⟩ := h
  refine ⟨item, new, item?_eq_some_iff.mpr ⟨items, listed, slot⟩,
    item?_eq_some_iff.mpr ⟨_, set.here, ?_⟩, edited⟩
  obtain ⟨low, _⟩ := List.getElem?_eq_some_iff.mp slot
  exact List.getElem?_set_self low

theorem item?_of_ne (h : EditsItem key index edit v w) {other : Nat} (ne : other ≠ index) :
    w.item? key other = v.item? key other := by
  obtain ⟨items, _, _, listed, _, _, set⟩ := h
  rw [Value.item?, Value.item?, getItems?_eq_some_iff.mpr listed,
    getItems?_eq_some_iff.mpr set.here, Option.bind_some, Option.bind_some,
    List.getElem?_set_ne ne.symm]

theorem length_items (h : EditsItem key index edit v w) :
    ((w.getItems? key).getD []).length = ((v.getItems? key).getD []).length := by
  obtain ⟨items, _, _, listed, _, _, set⟩ := h
  rw [getItems?_eq_some_iff.mpr listed, getItems?_eq_some_iff.mpr set.here, Option.getD_some,
    Option.getD_some, List.length_set]

theorem get?_of_ne (h : EditsItem key index edit v w) {other : String} (ne : other ≠ key) :
    w.get? other = v.get? other := by
  obtain ⟨_, _, _, _, _, _, set⟩ := h
  exact set.rest other ne

end EditsItem

end SceneConfig.Json.Value

namespace SceneConfig
open Json (Value)

/-- The node at a place is edited. -/
def Edited (edit : Value → Value → Prop) : Place → Value → Value → Prop
  | .document => edit
  | .scene i => Value.EditsItem "scenes" i edit
  | .device i j => Value.EditsItem "scenes" i (Value.EditsItem "devices" j edit)

end SceneConfig
