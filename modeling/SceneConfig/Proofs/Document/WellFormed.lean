/- Well-formed models, and that compiling yields no others.
   Strings are not restricted, ids may have gaps, and raw sensors of any kind may share a group. -/
import SceneConfig.Proofs.Document.ModelCopies

namespace SceneConfig
open Json (Value)
variable {δ : Type}

/-- Each entry stands at the id of its device and under its topic. -/
def DeviceGroup.Indexed (id : δ → Nat) (topic : δ → String) (group : DeviceGroup δ) : Prop :=
  ∀ j entry, group.devices.toList[j]? = some entry → id entry.2 = j ∧ topic entry.2 = entry.1

structure SensorDevice.WellFormed (device : SensorDevice) : Prop where
  raw : device.encoding = .raw → device.mappedValues = []
  json : device.encoding = .json →
    device.mappedValues.map MappedValue.key = device.kind.readingKeys ∧
      ∀ value ∈ device.mappedValues, value.placeholder = "0"

/-- A combined JSON sensor is all that its group holds. -/
structure SensorGroupWellFormed (group : DeviceGroup SensorDevice) : Prop where
  indexed : group.Indexed SensorDevice.id SensorDevice.getTopic
  devices : ∀ entry ∈ group.devices.toList, entry.2.WellFormed
  alone : ∀ entry ∈ group.devices.toList, entry.2.encoding = .json →
    entry.2.kind = .temperatureHumidity → group.devices.toList = [entry]

def Group.WellFormed : Group → Prop
  | .switch group => group.Indexed SwitchDevice.id SwitchDevice.getTopic
  | .sensor group => SensorGroupWellFormed group

structure Model.WellFormed (model : Model) : Prop where
  ids : (model.groups.map Group.id).Pairwise (· < ·)
  groups : ∀ group ∈ model.groups, group.WellFormed

/-- Entries and records, position by position. -/
theorem entries_iff {copies : Value → Nat → δ → Prop} {topic : δ → String}
    {records : List Value} {entries : List (String × δ)} :
    Entries copies topic 0 records entries ↔
      records.length = entries.length ∧
        ∀ j record entry, records[j]? = some record → entries[j]? = some entry →
          entry.1 = topic entry.2 ∧ copies record j entry.2 := by
  rw [Entries, List.forall₂_iff_get]
  constructor
  · intro h
    obtain ⟨length, h⟩ := h
    rw [List.length_zipIdx] at length
    refine ⟨length, ?_⟩
    intro j record entry hr he
    obtain ⟨low, rfl⟩ := List.getElem?_eq_some_iff.mp hr
    obtain ⟨low', rfl⟩ := List.getElem?_eq_some_iff.mp he
    have related := h j (by rwa [List.length_zipIdx]) low'
    simpa using related
  · intro h
    obtain ⟨length, h⟩ := h
    refine ⟨by rwa [List.length_zipIdx], ?_⟩
    intro j low low'
    rw [List.length_zipIdx] at low
    have related := h j _ _ (List.getElem?_eq_getElem low) (List.getElem?_eq_getElem low')
    simpa using related

/-- An entry of a compiled group copies the record at its position. -/
theorem DeviceGroup.Copies.exists_record {copies : (count : Nat) → Value → Nat → δ → Prop}
    {topic : δ → String} {scene : Value} {position : Nat} {group : DeviceGroup δ}
    (h : group.Copies copies topic scene position) {j : Nat} {entry : String × δ}
    (he : group.devices.toList[j]? = some entry) :
    ∃ record, entry.1 = topic entry.2 ∧
      copies group.devices.toList.length record j entry.2 := by
  obtain ⟨records, _, entries⟩ := h.devices
  obtain ⟨length, related⟩ := entries_iff.mp entries
  have low : j < records.length := by
    rw [length]
    exact (List.getElem?_eq_some_iff.mp he).1
  rw [length] at related
  exact ⟨_, related j _ entry (List.getElem?_eq_getElem low) he⟩

theorem SensorDevice.Copies.wellFormed {record : Value} {position : Nat} {device : SensorDevice}
    (h : device.Copies record position) : device.WellFormed := by
  refine ⟨h.raw, ?_⟩
  intro json
  have values := h.json json
  constructor
  · generalize device.kind.readingKeys = keys, device.mappedValues = found at values
    induction values with
    | nil => rfl
    | cons first rest ih => rw [List.map_cons, first.key, ih]
  · intro value member
    obtain ⟨key, _, copied⟩ := exists_of_forall₂_right values value member
    exact copied.placeholder

theorem Group.Copies.wellFormed {scene : Value} {position : Nat} {group : Group}
    (h : group.Copies scene position) : group.WellFormed := by
  cases group with
  | switch group =>
      intro j entry he
      obtain ⟨record, key, copied⟩ := DeviceGroup.Copies.exists_record h he
      exact ⟨copied.id, key.symm⟩
  | sensor group =>
      have stored (entry : String × SensorDevice) (member : entry ∈ group.devices.toList) :
          ∃ record j, entry.2.Copies record j ∧ entry.2.Fits group.devices.toList.length := by
        obtain ⟨j, he⟩ := List.mem_iff_getElem?.mp member
        obtain ⟨record, _, copied, fits⟩ := DeviceGroup.Copies.exists_record h he
        exact ⟨record, j, copied, fits⟩
      constructor
      · intro j entry he
        obtain ⟨record, key, copied, _⟩ := DeviceGroup.Copies.exists_record h he
        exact ⟨copied.id, key.symm⟩
      · intro entry member
        obtain ⟨record, j, copied, _⟩ := stored entry member
        exact copied.wellFormed
      · intro entry member json combined
        obtain ⟨record, j, _, fits⟩ := stored entry member
        have single : group.devices.toList.length ≤ 1 :=
          fits json (SensorKind.isCombined_eq_true_iff.mpr combined)
        have occupied := List.length_pos_of_mem member
        obtain ⟨only, same⟩ := List.length_eq_one_iff.mp (Nat.le_antisymm single occupied)
        rw [same] at member ⊢
        rw [List.mem_singleton.mp member]

theorem Model.Copies.wellFormed {document : Value} {model : Model} (h : model.Copies document) :
    model.WellFormed := by
  obtain ⟨scenes, _, _, made⟩ := h.groups
  constructor
  · rw [made.map_id]
    exact knownScenes_pairwise 0 scenes
  · intro group member
    obtain ⟨scene, _, _, copies⟩ := exists_of_forall₂_right made group member
    exact copies.wellFormed

end SceneConfig
