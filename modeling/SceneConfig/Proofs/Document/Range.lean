/- The range of compiling: a document written for any well-formed model compiles back to it.
   A sensor's readings stand in front of its other members, of which the last always wins. -/
import SceneConfig.Proofs.Document.WellFormed

namespace SceneConfig
open Json (Value lookup)
variable {δ : Type}

/-- Members further behind win. -/
theorem Json.lookup_append (key : String) (front behind : List (String × Value)) :
    lookup key (front ++ behind) = (lookup key behind).or (lookup key front) := by
  induction front with
  | nil => rw [List.nil_append, lookup, Option.or_none]
  | cons member front ih =>
      rw [List.cons_append, lookup, ih, lookup]
      cases lookup key behind with
      | none => rfl
      | some v => rfl

theorem Json.lookup_eq_none {key : String} {members : List (String × Value)}
    (h : ∀ member ∈ members, member.1 ≠ key) : lookup key members = none := by
  induction members with
  | nil => rfl
  | cons member members ih =>
      rw [lookup, ih fun other later => h other (List.mem_cons_of_mem _ later)]
      exact if_neg (h member List.mem_cons_self)

/-- When every key stands once, it does not matter that the last member wins. -/
theorem Json.lookup_of_mem {key : String} {v : Value} {members : List (String × Value)}
    (distinct : (members.map Prod.fst).Nodup) (h : (key, v) ∈ members) :
    lookup key members = some v := by
  induction members with
  | nil => cases h
  | cons member members ih =>
      obtain ⟨fresh, rest⟩ := List.nodup_cons.mp distinct
      rcases List.mem_cons.mp h with rfl | later
      · have behind : lookup key members = none := by
          apply Json.lookup_eq_none
          intro other later same
          exact fresh (List.mem_map.mpr ⟨other, later, same⟩)
        rw [lookup, behind]
        exact if_pos rfl
      · rw [lookup, ih rest later]

def SwitchDevice.toRecord (device : SwitchDevice) : Value :=
  .object [("name", .string device.name), ("getTopic", .string device.getTopic),
    ("setTopic", .string device.setTopic), ("onValue", .string device.onValue),
    ("offValue", .string device.offValue)]

def MappedValue.toMember (value : MappedValue) : String × Value :=
  (value.key, .string value.jsonPath)

def SensorDevice.toRecord (device : SensorDevice) : Value :=
  .object (device.mappedValues.map MappedValue.toMember ++
    [("name", .string device.name), ("getTopic", .string device.getTopic),
      ("type", .string device.kind.name), ("jsondata", .bool (device.encoding = .json))])

def DeviceGroup.toScene (type : String) (write : δ → Value) (group : DeviceGroup δ) : Value :=
  .object [("type", .string type), ("name", .string group.name), ("icon", .string group.icon),
    ("devices", .array (group.devices.devices.map write))]

def Group.toScene : Group → Value
  | .switch group => group.toScene "Switch" SwitchDevice.toRecord
  | .sensor group => group.toScene "Sensor" SensorDevice.toRecord

/-- A scene that makes no group, with nothing but a type. -/
def fillerScene : Value := .object [("type", .string "")]

/-- Scenes from position `start` on. Fillers bring each group to the position that is its id. -/
def toScenes (start : Nat) : List Group → List Value
  | [] => []
  | group :: groups =>
    List.replicate (group.id - start) fillerScene ++ group.toScene :: toScenes (group.id + 1) groups

def Model.toDocument (model : Model) : Value :=
  .object [("wifi", .string model.wifi.ssid), ("password", .string model.wifi.password),
    ("timezone", .string model.timezone), ("mqttbroker", .string model.broker.address),
    ("mqttusername", .string model.broker.username),
    ("mqttpasswd", .string model.broker.password),
    ("scenes", .array (toScenes 0 model.groups))]

theorem SwitchDevice.copies_toRecord (device : SwitchDevice) :
    device.Copies device.toRecord device.id :=
  ⟨rfl, rfl, rfl, rfl, rfl, rfl⟩

theorem SensorKind.readingKeys_nodup (kind : SensorKind) : kind.readingKeys.Nodup := by
  cases kind <;> decide

/-- No reading goes by the name of another member of a sensor. -/
theorem SensorKind.readingKeys_disjoint (kind : SensorKind) :
    ∀ key ∈ kind.readingKeys, key ∉ ["name", "getTopic", "type", "jsondata"] := by
  cases kind <;> decide

theorem SensorDevice.get?_toRecord_reading {device : SensorDevice}
    (keys : device.mappedValues.map MappedValue.key = device.kind.readingKeys)
    {value : MappedValue} (member : value ∈ device.mappedValues) :
    device.toRecord.get? value.key = some (.string value.jsonPath) := by
  have reading : value.key ∈ device.kind.readingKeys := by
    rw [← keys]
    exact List.mem_map_of_mem member
  have other := device.kind.readingKeys_disjoint value.key reading
  have distinct := device.kind.readingKeys_nodup
  rw [← keys] at distinct
  change lookup value.key (_ ++ _) = _
  -- None of the members behind the readings has this key.
  rw [Json.lookup_append, Json.lookup_eq_none, Option.none_or]
  · apply Json.lookup_of_mem
    · rw [List.map_map]
      exact distinct
    · exact List.mem_map_of_mem member
  · intro fixed among same
    apply other
    rw [← same]
    exact List.mem_map_of_mem among

theorem SensorDevice.copies_toRecord {device : SensorDevice} (h : device.WellFormed) :
    device.Copies device.toRecord device.id := by
  have fixed (key : String) (v : Value) (found : lookup key
      [("name", .string device.name), ("getTopic", .string device.getTopic),
        ("type", .string device.kind.name), ("jsondata", .bool (device.encoding = .json))] =
          some v) : device.toRecord.get? key = some v := by
    change lookup key (_ ++ _) = _
    rw [Json.lookup_append, found, Option.some_or]
  have flag : device.toRecord.get? "jsondata" = some (.bool (device.encoding = .json)) :=
    fixed _ _ rfl
  refine ⟨rfl, fixed _ _ rfl, fixed _ _ rfl, fixed _ _ rfl, ⟨some _, flag⟩, ?_, h.raw, ?_⟩
  · rw [flag]
    simp
  · intro json
    obtain ⟨keys, placeholders⟩ := h.json json
    rw [← keys, List.forall₂_map_left_iff, List.forall₂_same]
    intro value member
    exact ⟨rfl, get?_toRecord_reading keys member, placeholders value member⟩

/-- A group copies the scene written for it when its devices copy their records. -/
theorem DeviceGroup.copies_toScene {type : String} {write : δ → Value}
    {copies : (count : Nat) → Value → Nat → δ → Prop} {id : δ → Nat} {topic : δ → String}
    {group : DeviceGroup δ} (indexed : group.Indexed id topic)
    (written : ∀ entry ∈ group.devices.toList,
      copies group.devices.toList.length (write entry.2) (id entry.2) entry.2) :
    group.Copies copies topic (group.toScene type write) group.id := by
  have length : (group.devices.devices.map write).length = group.devices.toList.length := by
    rw [List.length_map, TopicList.devices, List.length_map]
  refine ⟨rfl, rfl, rfl, group.devices.devices.map write, rfl, entries_iff.mpr ⟨length, ?_⟩⟩
  intro j record entry hr he
  obtain ⟨position, key⟩ := indexed j entry he
  rw [TopicList.devices, List.getElem?_map, List.getElem?_map, he] at hr
  cases hr
  rw [length]
  refine ⟨key.symm, ?_⟩
  have copied := written entry (List.mem_of_getElem? he)
  rw [position] at copied
  exact copied

theorem Group.copies_toScene {group : Group} (h : group.WellFormed) :
    sceneKind? group.toScene = some group.kind ∧ group.Copies group.toScene group.id := by
  cases group with
  | switch group =>
      refine ⟨rfl, ?_⟩
      apply DeviceGroup.copies_toScene h
      intro entry _
      exact entry.2.copies_toRecord
  | sensor group =>
      refine ⟨rfl, ?_⟩
      obtain ⟨indexed, devices, alone⟩ := h
      apply DeviceGroup.copies_toScene indexed
      intro entry member
      refine ⟨SensorDevice.copies_toRecord (devices entry member), ?_⟩
      intro json combined
      have only := alone entry member json (SensorKind.isCombined_eq_true_iff.mp combined)
      rw [only]
      exact Nat.le_refl 1

/-- Fillers make no group but count as positions. -/
theorem knownScenes_fillers (start count : Nat) (scenes : List Value) :
    knownScenes start (List.replicate count fillerScene ++ scenes) =
      knownScenes (start + count) scenes := by
  induction count generalizing start with
  | zero => rfl
  | succ count ih =>
      have filler : sceneKind? fillerScene = none := rfl
      rw [List.replicate_succ, List.cons_append, knownScenes_cons_none filler, ih,
        Nat.add_right_comm, Nat.add_assoc]

theorem groups_toScenes {start : Nat} {groups : List Group}
    (ids : (groups.map Group.id).Pairwise (· < ·)) (low : ∀ group ∈ groups, start ≤ group.id)
    (wellFormed : ∀ group ∈ groups, group.WellFormed) :
    Groups start (toScenes start groups) groups := by
  -- Ids increase, so no group lies below the position behind its predecessor.
  induction groups generalizing start with
  | nil => exact .nil
  | cons group groups ih =>
      obtain ⟨first, rest⟩ := List.pairwise_cons.mp ids
      have written := Group.copies_toScene (wellFormed group List.mem_cons_self)
      have position : start + (group.id - start) = group.id :=
        Nat.add_sub_cancel' (low group List.mem_cons_self)
      rw [Groups, toScenes, knownScenes_fillers, position, knownScenes_cons_some written.1]
      refine .cons written (ih rest ?_ ?_)
      · intro later member
        exact first later.id (List.mem_map_of_mem member)
      · intro later member
        exact wellFormed later (List.mem_cons_of_mem group member)

theorem hasText_toScenes {start : Nat} {groups : List Group} :
    ∀ scene ∈ toScenes start groups, scene.HasText "type" := by
  induction groups generalizing start with
  | nil =>
      intro scene member
      cases member
  | cons group groups ih =>
      intro scene member
      rcases List.mem_append.mp member with filler | member
      · rw [(List.mem_replicate.mp filler).2]
        exact ⟨"", rfl⟩
      · rcases List.mem_cons.mp member with rfl | later
        · cases group with
          | switch group => exact ⟨"Switch", rfl⟩
          | sensor group => exact ⟨"Sensor", rfl⟩
        · exact ih scene later

theorem Model.copies_toDocument {model : Model} (h : model.WellFormed) :
    model.Copies model.toDocument := by
  refine ⟨⟨rfl, rfl, ⟨some model.timezone, rfl, rfl⟩, rfl, rfl, rfl⟩, toScenes 0 model.groups, rfl,
    hasText_toScenes, ?_⟩
  exact groups_toScenes h.ids (fun group _ => Nat.zero_le group.id) h.groups

/-- Compiling yields the well-formed models, all of them and no others. -/
theorem exists_document_iff_wellFormed {model : Model} :
    (∃ document, (Model.ofDocument document).result = .ok model) ↔ model.WellFormed := by
  constructor
  · intro h
    obtain ⟨document, compiled⟩ := h
    have copies := Model.result_ofDocument_eq_ok_iff.mp compiled
    exact copies.wellFormed
  · intro h
    exact ⟨model.toDocument, Model.result_ofDocument_eq_ok_iff.mpr (Model.copies_toDocument h)⟩

end SceneConfig
