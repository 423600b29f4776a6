/- The documents that compile: a schema over the members of the document, its scenes and devices.
   A scene of another type has no further duties, and a null member is never of the right type. -/
import SceneConfig.Proofs.Document.ModelCopies

namespace SceneConfig
open Json (Value)
variable {δ α β : Type}

structure SwitchSchema (record : Value) : Prop where
  isObject : record.isObject = true
  texts : ∀ key ∈ ["name", "getTopic", "setTopic", "onValue", "offValue"], record.HasText key

/-- A sensor among the `count` devices of its scene. -/
structure SensorSchema (count : Nat) (record : Value) : Prop where
  isObject : record.isObject = true
  texts : ∀ key ∈ ["name", "getTopic"], record.HasText key
  flag : record.get? "jsondata" = none ∨ ∃ b, record.get? "jsondata" = some (.bool b)
  kind : ∃ kind : SensorKind, record.get? "type" = some (.string kind.name) ∧
    (record.get? "jsondata" = some (.bool true) →
      (∀ key ∈ kind.readingKeys, record.HasText key) ∧
        (kind = .temperatureHumidity → count = 1))

structure SceneSchema (scene : Value) : Prop where
  isObject : scene.isObject = true
  type : scene.HasText "type"
  known : HasType ["Light", "Switch", "Sensor"] scene →
    scene.HasText "name" ∧ scene.HasText "icon" ∧
      ∃ records, scene.get? "devices" = some (.array records) ∧
        ∀ record ∈ records,
          (HasType ["Light", "Switch"] scene → SwitchSchema record) ∧
            (HasType ["Sensor"] scene → SensorSchema records.length record)

structure DocumentSchema (document : Value) : Prop where
  texts : ∀ key ∈ ["wifi", "password", "mqttbroker", "mqttusername", "mqttpasswd"],
    document.HasText key
  timezone : document.get? "timezone" = none ∨ document.HasText "timezone"
  scenes : ∃ scenes, document.get? "scenes" = some (.array scenes) ∧
    ∀ scene ∈ scenes, SceneSchema scene

theorem exists_forall₂_iff {R : α → β → Prop} {xs : List α} :
    (∃ ys, List.Forall₂ R xs ys) ↔ ∀ x ∈ xs, ∃ y, R x y := by
  induction xs with
  | nil => simp
  | cons x xs ih =>
      rw [List.forall_mem_cons, ← ih]
      constructor
      · intro h
        obtain ⟨_, h⟩ := h
        obtain ⟨y, ys, first, rest, _⟩ := List.forall₂_cons_left_iff.mp h
        exact ⟨⟨y, first⟩, ys, rest⟩
      · intro h
        obtain ⟨⟨y, first⟩, ys, rest⟩ := h
        exact ⟨y :: ys, .cons first rest⟩

theorem exists_eq_map_iff {f : α → β} {y? : Option β} :
    (∃ x? : Option α, y? = x?.map f) ↔ y? = none ∨ ∃ x, y? = some (f x) := by
  constructor
  · intro h
    obtain ⟨x?, rfl⟩ := h
    cases x? with
    | none => exact .inl rfl
    | some x => exact .inr ⟨x, rfl⟩
  · intro h
    rcases h with rfl | ⟨x, rfl⟩
    · exact ⟨none, rfl⟩
    · exact ⟨some x, rfl⟩

theorem exists_switch_iff {record : Value} {position : Nat} :
    (∃ device : SwitchDevice, device.Copies record position) ↔ SwitchSchema record := by
  constructor
  · intro h
    obtain ⟨device, h⟩ := h
    refine ⟨h.isObject, ?_⟩
    simp only [List.forall_mem_cons, List.not_mem_nil, false_imp_iff, implies_true, and_true]
    exact ⟨⟨_, h.name⟩, ⟨_, h.getTopic⟩, ⟨_, h.setTopic⟩, ⟨_, h.onValue⟩, _, h.offValue⟩
  · intro h
    obtain ⟨_, texts⟩ := h
    simp only [List.forall_mem_cons, List.not_mem_nil, false_imp_iff, implies_true,
      and_true] at texts
    obtain ⟨⟨name, hn⟩, ⟨getTopic, hg⟩, ⟨setTopic, hs⟩, ⟨onValue, hv⟩, offValue, hf⟩ := texts
    exact ⟨⟨position, name, getTopic, setTopic, onValue, offValue⟩, rfl, hn, hg, hs, hv, hf⟩

theorem exists_mappedValues_iff {record : Value} {keys : List String} :
    (∃ values, List.Forall₂ (MappedValue.Copies record) keys values) ↔
      ∀ key ∈ keys, record.HasText key := by
  rw [exists_forall₂_iff]
  apply forall₂_congr
  intro key _
  constructor
  · intro h
    obtain ⟨value, h⟩ := h
    exact ⟨_, h.jsonPath⟩
  · intro h
    obtain ⟨jsonPath, h⟩ := h
    exact ⟨⟨key, jsonPath, "0"⟩, rfl, h, rfl⟩

theorem exists_sensor_iff {record : Value} {position count : Nat} (occupied : 0 < count) :
    (∃ device : SensorDevice, device.Copies record position ∧ device.Fits count) ↔
      SensorSchema count record := by
  constructor
  · intro h
    obtain ⟨device, copies, fits⟩ := h
    refine ⟨copies.isObject, ?_, exists_eq_map_iff.mp copies.flag, device.kind, copies.kind, ?_⟩
    · simp only [List.forall_mem_cons, List.not_mem_nil, false_imp_iff, implies_true, and_true]
      exact ⟨⟨_, copies.name⟩, _, copies.getTopic⟩
    · intro json
      have encoded := copies.encoding.mpr json
      refine ⟨exists_mappedValues_iff.mp ⟨_, copies.json encoded⟩, ?_⟩
      intro combined
      have alone := fits encoded (SensorKind.isCombined_eq_true_iff.mpr combined)
      omega
  · intro h
    obtain ⟨_, texts, flag, kind, hk, rules⟩ := h
    simp only [List.forall_mem_cons, List.not_mem_nil, false_imp_iff, implies_true,
      and_true] at texts
    obtain ⟨⟨name, hn⟩, getTopic, hg⟩ := texts
    have flag := exists_eq_map_iff.mpr flag
    by_cases json : record.get? "jsondata" = some (.bool true)
    · obtain ⟨paths, alone⟩ := rules json
      obtain ⟨values, hv⟩ := exists_mappedValues_iff.mpr paths
      have copies : SensorDevice.Copies record position
          ⟨position, name, getTopic, kind, .json, values⟩ :=
        ⟨rfl, hn, hg, hk, flag, iff_of_true rfl json, (nomatch ·), fun _ => hv⟩
      refine ⟨_, copies, ?_⟩
      intro _ combined
      exact Nat.le_of_eq (alone (SensorKind.isCombined_eq_true_iff.mp combined))
    · have copies : SensorDevice.Copies record position
          ⟨position, name, getTopic, kind, .raw, []⟩ :=
        ⟨rfl, hn, hg, hk, flag, iff_of_false (nomatch ·) json, fun _ => rfl, (nomatch ·)⟩
      exact ⟨_, copies, (nomatch ·)⟩

/-- Whether a record can be read does not depend on where it stands. -/
theorem exists_entries_iff {copies : Value → Nat → δ → Prop} {topic : δ → String} {start : Nat}
    {records : List Value} {schema : Value → Prop}
    (readable : ∀ record ∈ records, ∀ position,
      (∃ device, copies record position device) ↔ schema record) :
    (∃ entries, Entries copies topic start records entries) ↔
      ∀ record ∈ records, schema record := by
  simp only [Entries]
  rw [exists_forall₂_iff]
  constructor
  · intro h record member
    obtain ⟨j, hj⟩ := List.mem_iff_getElem?.mp member
    have indexed : (record, start + j) ∈ records.zipIdx start :=
      List.mk_add_mem_zipIdx_iff_getElem?.mpr hj
    obtain ⟨entry, _, copied⟩ := h _ indexed
    exact (readable record member _).mp ⟨entry.2, copied⟩
  · intro h pair indexed
    have member := List.fst_mem_of_mem_zipIdx indexed
    obtain ⟨device, copied⟩ := (readable pair.1 member pair.2).mpr (h pair.1 member)
    exact ⟨(topic device, device), rfl, copied⟩

theorem DeviceGroup.exists_copies_iff {copies : (count : Nat) → Value → Nat → δ → Prop}
    {topic : δ → String} {scene : Value} {position : Nat} {schema : (count : Nat) → Value → Prop}
    (readable : ∀ count, 0 < count → ∀ record position,
      (∃ device, copies count record position device) ↔ schema count record) :
    (∃ group : DeviceGroup δ, group.Copies copies topic scene position) ↔
      scene.HasText "name" ∧ scene.HasText "icon" ∧
        ∃ records, scene.get? "devices" = some (.array records) ∧
          ∀ record ∈ records, schema records.length record := by
  have entries (records : List Value) :
      (∃ entries, Entries (copies records.length) topic 0 records entries) ↔
        ∀ record ∈ records, schema records.length record :=
    exists_entries_iff fun record member position =>
      readable records.length (List.length_pos_of_mem member) record position
  constructor
  · intro h
    obtain ⟨group, _, name, icon, records, hr, he⟩ := h
    exact ⟨⟨_, name⟩, ⟨_, icon⟩, records, hr, (entries records).mp ⟨_, he⟩⟩
  · intro h
    obtain ⟨⟨name, hn⟩, ⟨icon, hi⟩, records, hr, hs⟩ := h
    obtain ⟨list, he⟩ := (entries records).mpr hs
    exact ⟨⟨position, name, icon, ⟨list⟩⟩, rfl, hn, hi, records, hr, he⟩

/-- What the schema asks of a record in a scene of this kind. -/
def RecordSchema (kind : GroupKind) (count : Nat) (record : Value) : Prop :=
  match kind with
  | .switch => SwitchSchema record
  | .sensor => SensorSchema count record

theorem Group.exists_copies_iff {kind : GroupKind} {scene : Value} {position : Nat} :
    (∃ group : Group, group.kind = kind ∧ group.Copies scene position) ↔
      scene.HasText "name" ∧ scene.HasText "icon" ∧
        ∃ records, scene.get? "devices" = some (.array records) ∧
          ∀ record ∈ records, RecordSchema kind records.length record := by
  cases kind with
  | switch =>
      have readable : ∀ count, 0 < count → ∀ record position,
          (∃ device : SwitchDevice, device.Copies record position) ↔
            RecordSchema .switch count record :=
        fun _ _ _ _ => exists_switch_iff
      rw [← DeviceGroup.exists_copies_iff readable]
      constructor
      · intro h
        rcases h with ⟨group | group, same, h⟩
        · exact ⟨group, h⟩
        · cases same
      · intro h
        obtain ⟨group, h⟩ := h
        exact ⟨.switch group, rfl, h⟩
  | sensor =>
      have readable : ∀ count, 0 < count → ∀ record position,
          (∃ device : SensorDevice, device.Copies record position ∧ device.Fits count) ↔
            RecordSchema .sensor count record :=
        fun _ occupied _ _ => exists_sensor_iff occupied
      rw [← DeviceGroup.exists_copies_iff readable]
      constructor
      · intro h
        rcases h with ⟨group | group, same, h⟩
        · cases same
        · exact ⟨group, h⟩
      · intro h
        obtain ⟨group, h⟩ := h
        exact ⟨.sensor group, rfl, h⟩

/-- A scene has at most one kind, so only one of the two duties of its records applies. -/
theorem recordSchema_iff {kind : GroupKind} {scene : Value} (h : sceneKind? scene = some kind)
    {count : Nat} {record : Value} :
    RecordSchema kind count record ↔
      (HasType ["Light", "Switch"] scene → SwitchSchema record) ∧
        (HasType ["Sensor"] scene → SensorSchema count record) := by
  have switch : HasType ["Light", "Switch"] scene ↔ kind = .switch := by
    change HasType (GroupKind.sceneTypes .switch) scene ↔ _
    rw [← sceneKind?_eq_some_iff, h, Option.some.injEq]
  have sensor : HasType ["Sensor"] scene ↔ kind = .sensor := by
    change HasType (GroupKind.sceneTypes .sensor) scene ↔ _
    rw [← sceneKind?_eq_some_iff, h, Option.some.injEq]
  rw [switch, sensor]
  cases kind <;> simp [RecordSchema]

theorem exists_group_iff {kind : GroupKind} {scene : Value} (h : sceneKind? scene = some kind)
    {position : Nat} :
    (∃ group : Group, sceneKind? scene = some group.kind ∧ group.Copies scene position) ↔
      SceneSchema scene := by
  have same (group : Group) : sceneKind? scene = some group.kind ↔ group.kind = kind := by
    rw [h, Option.some.injEq, eq_comm]
  have typed := hasText_of_sceneKind? h
  have known := sceneKind?_isSome_iff.mp (Option.isSome_iff_exists.mpr ⟨kind, h⟩)
  simp only [same, Group.exists_copies_iff, recordSchema_iff h]
  constructor
  · intro duties
    exact ⟨Value.isObject_of_get? typed.choose_spec, typed, fun _ => duties⟩
  · intro schema
    exact schema.known known

theorem exists_copiesHead_iff {document : Value} {groups : List Group} :
    (∃ wifi timezone broker, Model.CopiesHead document { wifi, timezone, broker, groups }) ↔
      (∀ key ∈ ["wifi", "password", "mqttbroker", "mqttusername", "mqttpasswd"],
        document.HasText key) ∧
        (document.get? "timezone" = none ∨ document.HasText "timezone") := by
  constructor
  · intro h
    obtain ⟨wifi, timezone, broker, head⟩ := h
    constructor
    · simp only [List.forall_mem_cons, List.not_mem_nil, false_imp_iff, implies_true, and_true]
      exact ⟨⟨_, head.ssid⟩, ⟨_, head.password⟩, ⟨_, head.address⟩, ⟨_, head.username⟩, _,
        head.secret⟩
    · obtain ⟨timezone?, ht, _⟩ := head.timezone
      exact exists_eq_map_iff.mp ⟨timezone?, ht⟩
  · intro h
    obtain ⟨texts, timezone⟩ := h
    simp only [List.forall_mem_cons, List.not_mem_nil, false_imp_iff, implies_true,
      and_true] at texts
    obtain ⟨⟨ssid, h₁⟩, ⟨password, h₂⟩, ⟨address, h₃⟩, ⟨username, h₄⟩, secret, h₅⟩ := texts
    obtain ⟨timezone?, ht⟩ := exists_eq_map_iff.mpr timezone
    exact ⟨⟨ssid, password⟩, timezone?.getD "", ⟨address, username, secret⟩, h₁, h₂,
      ⟨timezone?, ht, rfl⟩, h₃, h₄, h₅⟩

/-- A scene of unknown type only has to say its type. -/
theorem sceneSchema_of_unknown {scene : Value} (unknown : sceneKind? scene = none)
    (text : scene.HasText "type") : SceneSchema scene := by
  refine ⟨Value.isObject_of_get? text.choose_spec, text, ?_⟩
  intro known
  rw [← sceneKind?_isSome_iff, unknown] at known
  cases known

theorem exists_groups_iff {scenes : List Value} :
    (∃ groups, (∀ scene ∈ scenes, scene.HasText "type") ∧ Groups 0 scenes groups) ↔
      ∀ scene ∈ scenes, SceneSchema scene := by
  simp only [exists_and_left, Groups, exists_forall₂_iff]
  constructor
  · intro h scene member
    obtain ⟨typed, groups⟩ := h
    cases kind : sceneKind? scene with
    | none => exact sceneSchema_of_unknown kind (typed scene member)
    | some known =>
        obtain ⟨position, hp⟩ := List.mem_iff_getElem?.mp member
        have listed : (scene, position) ∈ knownScenes 0 scenes :=
          mem_knownScenes_iff.mpr ⟨hp, sceneKind?_isSome_iff.mp (Option.isSome_of_eq_some kind)⟩
        exact (exists_group_iff kind).mp (groups (scene, position) listed)
  · intro schema
    refine ⟨fun scene member => (schema scene member).type, ?_⟩
    intro pair listed
    obtain ⟨scene, position⟩ := pair
    obtain ⟨hp, known⟩ := mem_knownScenes_iff.mp listed
    obtain ⟨kind, hk⟩ := Option.isSome_iff_exists.mp (sceneKind?_isSome_iff.mpr known)
    exact (exists_group_iff hk).mpr (schema scene (List.mem_of_getElem? hp))

/-- A document compiles exactly when it meets the schema. -/
theorem ofDocument_accepts_iff_schema {document : Value} :
    (∃ model, (Model.ofDocument document).result = .ok model) ↔ DocumentSchema document := by
  simp only [Model.result_ofDocument_eq_ok_iff]
  constructor
  · intro h
    obtain ⟨model, head, scenes, list, made⟩ := h
    obtain ⟨texts, timezone⟩ := exists_copiesHead_iff.mp ⟨_, _, _, head⟩
    exact ⟨texts, timezone, scenes, list, exists_groups_iff.mp ⟨_, made⟩⟩
  · intro h
    obtain ⟨texts, timezone, scenes, list, schema⟩ := h
    obtain ⟨groups, made⟩ := exists_groups_iff.mpr schema
    obtain ⟨wifi, timezone, broker, head⟩ := exists_copiesHead_iff.mpr ⟨texts, timezone⟩
    exact ⟨_, head, scenes, list, made⟩

end SceneConfig
