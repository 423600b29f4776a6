/- Places as paths from the root of a document, and fields read at the nodes that they lead to.
   The text of a place determines the place, so that a location leads to one node at most, and a
   field is one value at most. -/
import SceneConfig.Proofs.Document.Members
import SceneConfig.Proofs.Text.Lines

namespace SceneConfig
open Json (Value)

/-- The element at a position of the array under `key`. -/
def Json.Value.item? (v : Value) (key : String) (index : Nat) : Option Value :=
  (v.getItems? key).bind fun items => items[index]?

namespace Json.Value
variable {v w : Value} {key : String} {index : Nat}

theorem item?_eq_some_iff :
    v.item? key index = some w ↔
      ∃ items, v.get? key = some (.array items) ∧ items[index]? = some w := by
  simp only [item?, Option.bind_eq_some_iff, getItems?_eq_some_iff]

/-- A member that is no array has no elements. -/
theorem getElem?_getD_getItems? : ((v.getItems? key).getD [])[index]? = v.item? key index := by
  rw [item?]
  cases v.getItems? key with
  | none => rfl
  | some items => rfl

end Json.Value

namespace Place

/-- The node at a place, if the document reaches that far. -/
def node? (document : Value) : Place → Option Value
  | .document => some document
  | .scene i => document.item? "scenes" i
  | .device i j => (document.item? "scenes" i).bind fun scene => scene.item? "devices" j

/-- Digits hold no bracket, so the first bracket ends the index. -/
theorem index_bracket_inj {m n : Nat} {s t : List Char}
    (h : Nat.toDigits 10 m ++ ']' :: s = Nat.toDigits 10 n ++ ']' :: t) : m = n ∧ s = t := by
  have digits (k : Nat) : ∀ c ∈ Nat.toDigits 10 k, (c != ']') = true := by
    intro c member
    rw [bne_iff_ne]
    rintro rfl
    exact Text.notMem_toDigits rfl k member
  have index (k : Nat) (rest : List Char) :
      (Nat.toDigits 10 k ++ ']' :: rest).takeWhile (· != ']') = Nat.toDigits 10 k := by
    rw [List.takeWhile_append_of_pos (digits k), List.takeWhile_cons_of_neg (by decide),
      List.append_nil]
  have same : Nat.toDigits 10 m = Nat.toDigits 10 n := by
    rw [← index m s, ← index n t, h]
  constructor
  · exact Text.toDigits_injective same
  · rw [same] at h
    exact (List.cons.inj (List.append_cancel_left h)).2

theorem toList_text (place : Place) :
    place.text.toList =
      match place with
      | .document => "document".toList
      | .scene i => "scenes[".toList ++ (Nat.toDigits 10 i ++ [']'])
      | .device i j => "scenes[".toList ++
          (Nat.toDigits 10 i ++ ']' :: (".devices[".toList ++ (Nat.toDigits 10 j ++ [']']))) := by
  cases place with
  | document => rfl
  | scene i =>
      change ("scenes[" ++ toString i ++ "]").toList = _
      simp [Nat.toString_eq_repr, Nat.toList_repr]
  | device i j =>
      change ("scenes[" ++ toString i ++ "].devices[" ++ toString j ++ "]").toList = _
      simp [Nat.toString_eq_repr, Nat.toList_repr]

theorem text_injective {place other : Place} (h : place.text = other.text) : place = other := by
  have chars := congrArg String.toList h
  rw [toList_text, toList_text] at chars
  cases place with
  | document =>
      cases other with
      | document => rfl
      | scene | device => simp at chars
  | scene i =>
      cases other with
      | document => simp at chars
      | scene k =>
          obtain ⟨rfl, _⟩ := index_bracket_inj (List.append_cancel_left chars)
          rfl
      | device k l =>
          have ends := (index_bracket_inj (List.append_cancel_left chars)).2
          simp at ends
  | device i j =>
      cases other with
      | document => simp at chars
      | scene k =>
          have ends := (index_bracket_inj (List.append_cancel_left chars)).2
          simp at ends
      | device k l =>
          obtain ⟨rfl, ends⟩ := index_bracket_inj (List.append_cancel_left chars)
          obtain ⟨rfl, _⟩ := index_bracket_inj (List.append_cancel_left ends)
          rfl

end Place

/-- Read as a path from the root, the location leads to the node. -/
inductive LeadsTo (document : Value) (location : String) (node : Value) : Prop
  | root : location = "document" → node = document → LeadsTo document location node
  | scene (i : Nat) : location = "scenes[" ++ toString i ++ "]" →
      document.item? "scenes" i = some node → LeadsTo document location node
  | device (i j : Nat) {scene : Value} :
      location = "scenes[" ++ toString i ++ "].devices[" ++ toString j ++ "]" →
      document.item? "scenes" i = some scene → scene.item? "devices" j = some node →
      LeadsTo document location node

/-- The field, read at the node that the location leads to: a member, or with a bracket in it the
slot of an array. Only the document has slots of scenes, and only a scene has slots of devices. -/
inductive FieldOf (location : String) (node : Value) (field : String) (value : Value) : Prop
  | member : '[' ∉ field.toList → node.get? field = some value → FieldOf location node field value
  | scene (i : Nat) : location = "document" → field = "scenes[" ++ toString i ++ "]" →
      node.item? "scenes" i = some value → FieldOf location node field value
  | device (i j : Nat) : location = "scenes[" ++ toString i ++ "]" →
      field = "devices[" ++ toString j ++ "]" →
      node.item? "devices" j = some value → FieldOf location node field value

section Reading
variable {document node : Value} {location field : String}

theorem leadsTo_iff :
    LeadsTo document location node ↔
      ∃ place : Place, place.text = location ∧ place.node? document = some node := by
  constructor
  · intro leads
    cases leads with
    | root text same => exact ⟨.document, text.symm, congrArg some same.symm⟩
    | scene i text found => exact ⟨.scene i, text.symm, found⟩
    | device i j text found inside =>
        exact ⟨.device i j, text.symm, Option.bind_eq_some_iff.mpr ⟨_, found, inside⟩⟩
  · rintro ⟨place, rfl, found⟩
    cases place with
    | document => exact .root rfl (Option.some.inj found).symm
    | scene i => exact .scene i rfl found
    | device i j =>
        obtain ⟨scene, slot, inside⟩ := Option.bind_eq_some_iff.mp found
        exact .device i j rfl slot inside

/-- The text of a place leads to the node there, and to no other. -/
theorem Place.leadsTo_text {place : Place} (found : place.node? document = some node)
    (other : Value) : LeadsTo document place.text other ↔ other = node := by
  constructor
  · intro leads
    obtain ⟨_, same, found'⟩ := leadsTo_iff.mp leads
    rw [text_injective same, found] at found'
    exact (Option.some.inj found').symm
  · rintro rfl
    exact leadsTo_iff.mpr ⟨place, rfl, found⟩

theorem slot_injective {array : String} {i j : Nat}
    (h : array ++ toString i ++ "]" = array ++ toString j ++ "]") : i = j := by
  rw [String.append_left_inj, String.append_right_inj] at h
  exact Text.number_injective h

theorem FieldOf.unique {value other : Value} (h : FieldOf location node field value)
    (h' : FieldOf location node field other) : value = other := by
  -- A bracket tells slots from members, and the location tells the two kinds of slots apart.
  cases h with
  | member bare found =>
      cases h' with
      | member _ found' => exact Option.some.inj (found.symm.trans found')
      | scene i _ text _ => simp [text] at bare
      | device i j _ text _ => simp [text] at bare
  | scene i root text found =>
      cases h' with
      | member bare _ => simp [text] at bare
      | scene k _ text' found' =>
          rw [slot_injective (text.symm.trans text')] at found
          exact Option.some.inj (found.symm.trans found')
      | device k _ scene _ _ =>
          have same := congrArg String.toList (root.symm.trans scene)
          simp at same
  | device i j scene text found =>
      cases h' with
      | member bare _ => simp [text] at bare
      | scene k root _ _ =>
          have same := congrArg String.toList (root.symm.trans scene)
          simp at same
      | device k l _ text' found' =>
          rw [slot_injective (text.symm.trans text')] at found
          exact Option.some.inj (found.symm.trans found')

theorem FieldOf.only {value : Value} (h : FieldOf location node field value) (other : Value) :
    FieldOf location node field other ↔ other = value := by
  constructor
  · intro h'
    exact h'.unique h
  · rintro rfl
    exact h

end Reading

end SceneConfig
