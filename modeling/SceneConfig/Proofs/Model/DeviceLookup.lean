/- Looking up devices by topic, and readings of a device by key, gives what the records say: all the
   devices on a topic, or the first, and of a JSON sensor the paths under the keys of its kind. -/
import SceneConfig.Proofs.Document.WellFormed
import SceneConfig.Proofs.Model.GroupAccess

namespace SceneConfig
open Json (Value)
variable {δ α β : Type}

section Topics

/-- The records that name the topic, each with its position. -/
def recordsOn (records : List Value) (topic : String) : List (Value × Nat) :=
  records.zipIdx.filter fun record => record.1.getText? "getTopic" = some topic

/-- What is found on a topic: the devices of the records that name it, by rising position, and the
first of them alone. -/
structure TopicList.Answers (copies : Value → Nat → δ → Prop) (id : δ → Nat)
    (records : List Value) (devices : TopicList δ) (topic : String) : Prop where
  first : Option.Rel (fun record device => copies record.1 record.2 device)
    (recordsOn records topic).head? (devices.get? topic)
  all : List.Forall₂ (fun record device => copies record.1 record.2 device)
    (recordsOn records topic) (devices.allOn topic)
  ascending : ((devices.allOn topic).map id).Pairwise (· < ·)

theorem exists_of_forall₂_left {R : α → β → Prop} {xs : List α} {ys : List β}
    (h : List.Forall₂ R xs ys) : ∀ x ∈ xs, ∃ y ∈ ys, R x y :=
  exists_of_forall₂_right h.flip

theorem rel_head? {R : α → β → Prop} {xs : List α} {ys : List β} (h : List.Forall₂ R xs ys) :
    Option.Rel R xs.head? ys.head? := by
  cases h with
  | nil => exact .none
  | cons first _ => exact .some first

variable {copies : Value → Nat → δ → Prop} {topic : δ → String} {id : δ → Nat}
  {records : List Value} {devices : TopicList δ}

/-- A record names a topic just when its entry stands under it. -/
theorem Entries.allOn
    (names : ∀ record position device, copies record position device →
      record.get? "getTopic" = some (.string (topic device)))
    (h : Entries copies topic 0 records devices.toList) (t : String) :
    List.Forall₂ (fun record device => copies record.1 record.2 device) (recordsOn records t)
      (devices.allOn t) := by
  rw [TopicList.allOn, List.forall₂_map_right_iff]
  refine (List.rel_filter ?_ h).imp fun _ _ related => related.2
  rintro ⟨record, position⟩ entry ⟨key, copied⟩
  have named : record.getText? "getTopic" = some entry.1 := by
    rw [Value.getText?_eq_some_iff, key]
    exact names record position entry.2 copied
  simp only [named, Option.some.injEq, decide_eq_true_eq]

theorem TopicList.answers_of_entries
    (names : ∀ record position device, copies record position device →
      record.get? "getTopic" = some (.string (topic device)))
    (ids : ∀ record position device, copies record position device → id device = position)
    (h : Entries copies topic 0 records devices.toList) (t : String) :
    devices.Answers copies id records t := by
  have all := Entries.allOn names h t
  have positions : (devices.allOn t).map id = (recordsOn records t).map Prod.snd := by
    generalize devices.allOn t = found, recordsOn records t = there at all
    induction all with
    | nil => rfl
    | cons here _ ih => rw [List.map_cons, List.map_cons, ih, ids _ _ _ here]
  refine ⟨?_, all, ?_⟩
  · rw [TopicList.get?_eq_head?_allOn]
    exact rel_head? all
  · rw [positions]
    exact pairwise_filter_zipIdx _ 0 records

end Topics

section Readings
variable {record : Value} {position : Nat} {device : SensorDevice}

/-- The record says that the payload holds this reading, which is one of its kind. -/
structure DeclaresReading (record : Value) (key : String) : Prop where
  json : record.get? "jsondata" = some (.bool true)
  ofKind : ∃ kind : SensorKind, record.get? "type" = some (.string kind.name) ∧
    key ∈ kind.readingKeys

/-- The device of the record, which has a rule for just the readings declared there. -/
structure SensorDevice.Answers (record : Value) (position : Nat) (device : SensorDevice) :
    Prop where
  copies : device.Copies record position
  found : ∀ key, (device.mappedValue? key).isSome = true ↔ DeclaresReading record key
  path : ∀ key value, device.mappedValue? key = some value →
    record.get? key = some (.string value.jsonPath)

theorem SensorDevice.Copies.declaresReading_iff (h : device.Copies record position)
    {key : String} :
    DeclaresReading record key ↔ device.encoding = .json ∧ key ∈ device.kind.readingKeys := by
  constructor
  · rintro ⟨json, kind, type, member⟩
    rw [h.kind, Option.some.injEq, Value.string.injEq] at type
    cases SensorKind.name_injective type
    exact ⟨h.encoding.mpr json, member⟩
  · rintro ⟨json, member⟩
    exact ⟨h.encoding.mp json, device.kind, h.kind, member⟩

theorem SensorDevice.mappedValue?_isSome_iff {key : String} :
    (device.mappedValue? key).isSome = true ↔ key ∈ device.mappedValues.map MappedValue.key := by
  simp only [mappedValue?, List.find?_isSome, decide_eq_true_eq, List.mem_map]

theorem SensorDevice.Copies.answers (h : device.Copies record position) :
    device.Answers record position := by
  refine ⟨h, ?_, ?_⟩
  · intro key
    rw [SensorDevice.mappedValue?_isSome_iff, h.declaresReading_iff]
    cases encoding : device.encoding with
    | raw => simp [h.raw encoding]
    | json => simp [(h.wellFormed.json encoding).1]
  · intro key value found
    have same := List.find?_some found
    cases encoding : device.encoding with
    | raw =>
        rw [SensorDevice.mappedValue?, h.raw encoding] at found
        cases found
    | json =>
        obtain ⟨reading, _, copied⟩ :=
          exists_of_forall₂_right (h.json encoding) value (List.mem_of_find?_eq_some found)
        rw [← of_decide_eq_true same, copied.key]
        exact copied.jsonPath

end Readings

/-- What the sensors of a scene answer. All readings are reached by way of all devices on a topic,
but by way of a single one only those of the first. -/
structure SensorsAnswer (records : List Value) (devices : TopicList SensorDevice) : Prop where
  each : List.Forall₂ (fun record device => device.Answers record.1 record.2) records.zipIdx
    devices.devices
  topics : ∀ topic, devices.Answers (fun record position device => device.Answers record position)
    SensorDevice.id records topic
  reachable : ∀ j record topic key, records[j]? = some record →
    record.get? "getTopic" = some (.string topic) → DeclaresReading record key →
    ∃ device ∈ devices.allOn topic, device.id = j ∧
      ∃ value, device.mappedValue? key = some value ∧
        record.get? key = some (.string value.jsonPath)
  single : ∀ topic device key value, devices.get? topic = some device →
    device.mappedValue? key = some value →
    ∃ record j, (recordsOn records topic).head? = some (record, j) ∧
      DeclaresReading record key ∧ record.get? key = some (.string value.jsonPath)

theorem SensorDevice.Answers.exists_value {record : Value} {position : Nat}
    {device : SensorDevice} (h : device.Answers record position) {key : String}
    (declared : DeclaresReading record key) :
    ∃ value, device.mappedValue? key = some value ∧
      record.get? key = some (.string value.jsonPath) := by
  obtain ⟨value, found⟩ := Option.isSome_iff_exists.mp ((h.found key).mpr declared)
  exact ⟨value, found, h.path key value found⟩

theorem sensorsAnswer_of_entries {records : List Value} {devices : TopicList SensorDevice}
    (h : Entries (fun record position device => device.Copies record position)
      SensorDevice.getTopic 0 records devices.toList) : SensorsAnswer records devices := by
  have answers : Entries (fun record position device => device.Answers record position)
      SensorDevice.getTopic 0 records devices.toList :=
    h.imp fun _ _ related => ⟨related.1, related.2.answers⟩
  have topics (topic : String) :
      devices.Answers (fun record position device => device.Answers record position)
        SensorDevice.id records topic :=
    TopicList.answers_of_entries (fun _ _ _ answered => answered.copies.getTopic)
      (fun _ _ _ answered => answered.copies.id) answers topic
  refine ⟨?_, topics, ?_, ?_⟩
  · rw [TopicList.devices, List.forall₂_map_right_iff]
    exact answers.imp fun _ _ related => related.2
  · intro j record topic key slot named declared
    have listed : (record, j) ∈ recordsOn records topic := by
      rw [recordsOn, List.mem_filter, List.mk_mem_zipIdx_iff_getElem?]
      exact ⟨slot, decide_eq_true (Value.getText?_eq_some_iff.mpr named)⟩
    obtain ⟨device, member, answered⟩ := exists_of_forall₂_left (topics topic).all _ listed
    exact ⟨device, member, answered.copies.id, answered.exists_value declared⟩
  · intro topic device key value found mapped
    have first := (topics topic).first
    rw [found] at first
    cases here : (recordsOn records topic).head? with
    | none =>
        rw [here] at first
        cases first
    | some record =>
        rw [here] at first
        cases first with
        | some answered =>
            have declared := (answered.found key).mp (Option.isSome_of_eq_some mapped)
            exact ⟨record.1, record.2, rfl, declared, answered.path key value mapped⟩

/-- What lookups in the groups of a model answer, scene by scene. -/
def Model.AnswersLookups (document : Value) (model : Model) : Prop :=
  ∃ scenes, document.get? "scenes" = some (.array scenes) ∧
    ∀ n scene, scenes[n]? = some scene →
      (HasType ["Light", "Switch"] scene → ∃ group records,
        model.group? n = some (.switch group) ∧
          scene.get? "devices" = some (.array records) ∧
            ∀ topic, group.devices.Answers
              (fun record position device => device.Copies record position) SwitchDevice.id
                records topic) ∧
      (HasType ["Sensor"] scene → ∃ group records,
        model.group? n = some (.sensor group) ∧
          scene.get? "devices" = some (.array records) ∧ SensorsAnswer records group.devices)

theorem ofDocument_answersLookups {document : Value} {model : Model}
    (accepted : (Model.ofDocument document).result = .ok model) :
    model.AnswersLookups document := by
  obtain ⟨_, scenes, listed, _, made⟩ := Model.result_ofDocument_eq_ok_iff.mp accepted
  refine ⟨scenes, listed, ?_⟩
  intro n scene slot
  constructor
  · intro type
    have known : sceneKind? scene = some .switch := sceneKind?_eq_some_iff.mpr type
    obtain ⟨group, found, kind, copies⟩ := Model.exists_group_of_scene made slot known
    cases group with
    | sensor => cases kind
    | switch group =>
        obtain ⟨_, _, _, records, devices, entries⟩ := copies
        refine ⟨group, records, found, devices, ?_⟩
        exact TopicList.answers_of_entries (fun _ _ _ copied => copied.getTopic)
          (fun _ _ _ copied => copied.id) entries
  · intro type
    have known : sceneKind? scene = some .sensor := sceneKind?_eq_some_iff.mpr type
    obtain ⟨group, found, kind, copies⟩ := Model.exists_group_of_scene made slot known
    cases group with
    | switch => cases kind
    | sensor group =>
        obtain ⟨_, _, _, records, devices, entries⟩ := copies
        refine ⟨group, records, found, devices, sensorsAnswer_of_entries ?_⟩
        exact entries.imp fun _ _ related => ⟨related.1, related.2.1⟩

/-- The second sensor on the topic is only reached by way of all that are on it. -/
theorem ofDocument_answersLookups_panel :
    (Model.ofDocument panelDocument).result = .ok panelModel ∧
      panelModel.AnswersLookups panelDocument :=
  ⟨rfl, ofDocument_answersLookups rfl⟩

end SceneConfig
