/- When a group copies a scene: one entry for each record, in order and under its position.
   Scenes of unknown type make no group, and the others keep their positions. -/
import SceneConfig.Proofs.Document.DeviceCopies

namespace SceneConfig
open Json (Value)
variable {δ : Type}

/-- As many entries as records: the entry at a position stands under its topic and copies the
record there. -/
def Entries (copies : Value → Nat → δ → Prop) (topic : δ → String) (start : Nat)
    (records : List Value) (entries : List (String × δ)) : Prop :=
  List.Forall₂ (fun record entry => entry.1 = topic entry.2 ∧ copies record.1 record.2 entry.2)
    (records.zipIdx start) entries

/-- Behind the devices read before stands one entry for each record. -/
theorem result_readDevices_eq_ok_iff {scene : Nat}
    {read : Value → Nat → Place → Except (Fault Place) δ} {topic : δ → String}
    {copies : Value → Nat → δ → Prop}
    (reads : ∀ record position place device,
      read record position place = .ok device ↔ copies record position device)
    (objects : ∀ record position device, copies record position device → record.isObject = true)
    {index : Nat} {before devices : TopicList δ} {records : List Value} :
    (readDevices scene read topic index before records).result = .ok devices ↔
      ∃ entries, Entries copies topic index records entries ∧
        devices = ⟨before.toList ++ entries⟩ := by
  -- On the records: each one read becomes the last of the devices read before.
  induction records generalizing index before with
  | nil =>
      simp only [result_readDevices_nil, Entries, List.zipIdx_nil, List.forall₂_nil_left_iff,
        exists_eq_left, List.append_nil, Except.ok.injEq]
      exact eq_comm
  | cons record records ih =>
      rw [result_readDevices_cons]
      constructor
      · intro h
        split at h
        · simp only [bind_eq_ok_iff, reads, ih] at h
          obtain ⟨device, hd, entries, he, same⟩ := h
          refine ⟨(topic device, device) :: entries, .cons ⟨rfl, hd⟩ he, ?_⟩
          rw [same, TopicList.toList_push, List.append_assoc, List.singleton_append]
        · cases h
      · intro h
        obtain ⟨entries, he, same⟩ := h
        simp only [Entries, List.zipIdx_cons, List.forall₂_cons_left_iff] at he
        obtain ⟨⟨key, device⟩, rest, ⟨hk, hd⟩, hr, rfl⟩ := he
        rw [if_pos (objects _ _ _ hd)]
        simp only [bind_eq_ok_iff, reads, ih]
        refine ⟨device, hd, rest, hr, ?_⟩
        simp only at hk
        rw [same, TopicList.toList_push, List.append_assoc, List.singleton_append, hk]

structure DeviceGroup.Copies (copies : (count : Nat) → Value → Nat → δ → Prop)
    (topic : δ → String) (scene : Value) (position : Nat) (group : DeviceGroup δ) : Prop where
  id : group.id = position
  name : scene.get? "name" = some (.string group.name)
  icon : scene.get? "icon" = some (.string group.icon)
  devices : ∃ records, scene.get? "devices" = some (.array records) ∧
    Entries (copies records.length) topic 0 records group.devices.toList

theorem DeviceGroup.result_ofScene_eq_ok_iff {scene : Value} {id : Nat}
    {read : (count : Nat) → Value → Nat → Place → Except (Fault Place) δ} {topic : δ → String}
    {copies : (count : Nat) → Value → Nat → δ → Prop}
    (reads : ∀ count record position place device,
      read count record position place = .ok device ↔ copies count record position device)
    (objects : ∀ count record position device,
      copies count record position device → record.isObject = true)
    {group : DeviceGroup δ} :
    (DeviceGroup.ofScene scene id read topic).result = .ok group ↔
      group.Copies copies topic scene id := by
  simp only [DeviceGroup.result_ofScene, bind_eq_ok_iff, map_eq_ok_iff,
    Value.requireText_eq_ok_iff, Value.requireItems_eq_ok_iff,
    result_readDevices_eq_ok_iff (reads _) (objects _), TopicList.toList_empty, List.nil_append]
  constructor
  · intro h
    obtain ⟨name, hn, icon, hi, records, hr, _, ⟨entries, he, rfl⟩, rfl⟩ := h
    exact ⟨rfl, hn, hi, records, hr, he⟩
  · intro h
    obtain ⟨rfl, hn, hi, records, hr, he⟩ := h
    exact ⟨_, hn, _, hi, records, hr, _, ⟨_, he, rfl⟩, rfl⟩

namespace GroupKind

/-- The types of the scenes whose devices are of this kind. -/
def sceneTypes : GroupKind → List String
  | .switch => ["Light", "Switch"]
  | .sensor => ["Sensor"]

theorem ofSceneType?_eq_some_iff {type : String} {kind : GroupKind} :
    ofSceneType? type = some kind ↔ type ∈ kind.sceneTypes := by
  rw [ofSceneType?]
  split
  · rename_i h
    rcases h with rfl | rfl <;> cases kind <;> decide
  · rename_i h
    split
    · rename_i h
      subst h
      cases kind <;> decide
    · rename_i h'
      cases kind with
      | switch => simpa [sceneTypes] using h
      | sensor => simpa [sceneTypes] using h'

end GroupKind

/-- A scene of one of these types. -/
def HasType (types : List String) (scene : Value) : Prop :=
  ∃ type ∈ types, scene.get? "type" = some (.string type)

/-- The kind of the group that a scene makes, if its type is known. -/
def sceneKind? (scene : Value) : Option GroupKind :=
  (scene.getText? "type").bind GroupKind.ofSceneType?

theorem sceneKind?_congr {scene other : Value} (same : other.get? "type" = scene.get? "type") :
    sceneKind? other = sceneKind? scene := by
  rw [sceneKind?, sceneKind?, Value.getText?, Value.getText?, same]

theorem sceneKind?_eq_some_iff {scene : Value} {kind : GroupKind} :
    sceneKind? scene = some kind ↔ HasType kind.sceneTypes scene := by
  simp only [sceneKind?, Option.bind_eq_some_iff, Value.getText?_eq_some_iff,
    GroupKind.ofSceneType?_eq_some_iff]
  exact exists_congr fun _ => and_comm

theorem sceneKind?_isSome_iff {scene : Value} :
    (sceneKind? scene).isSome = true ↔ HasType ["Light", "Switch", "Sensor"] scene := by
  simp only [Option.isSome_iff_exists, sceneKind?_eq_some_iff]
  constructor
  · intro h
    obtain ⟨kind, type, member, h⟩ := h
    refine ⟨type, ?_, h⟩
    cases kind with
    | switch => exact List.mem_append_left ["Sensor"] member
    | sensor => exact List.mem_append_right ["Light", "Switch"] member
  · intro h
    obtain ⟨type, member, h⟩ := h
    rcases List.mem_append.mp (show type ∈ ["Light", "Switch"] ++ ["Sensor"] from member) with
      switch | sensor
    · exact ⟨.switch, type, switch, h⟩
    · exact ⟨.sensor, type, sensor, h⟩

namespace Group

/-- The kind of the group settles how its devices are read. -/
def Copies (scene : Value) (position : Nat) : Group → Prop
  | .switch group =>
    group.Copies (fun _ record position device => device.Copies record position)
      SwitchDevice.getTopic scene position
  | .sensor group =>
    group.Copies (fun count record position device =>
        device.Copies record position ∧ device.Fits count)
      SensorDevice.getTopic scene position

theorem result_switch_eq_ok_iff {scene : Value} {position : Nat}
    {group : DeviceGroup SwitchDevice} :
    (DeviceGroup.ofScene scene position (fun _ => SwitchDevice.ofRecord)
      SwitchDevice.getTopic).result = .ok group ↔ (Group.switch group).Copies scene position := by
  rw [Copies]
  apply DeviceGroup.result_ofScene_eq_ok_iff
  · intro count record position place device
    exact SwitchDevice.ofRecord_eq_ok_iff
  · intro count record position device h
    exact h.isObject

theorem result_sensor_eq_ok_iff {scene : Value} {position : Nat}
    {group : DeviceGroup SensorDevice} :
    (DeviceGroup.ofScene scene position
      (fun count record id place => SensorDevice.ofRecord record id count place)
      SensorDevice.getTopic).result = .ok group ↔ (Group.sensor group).Copies scene position := by
  rw [Copies]
  apply DeviceGroup.result_ofScene_eq_ok_iff
  · intro count record position place device
    exact SensorDevice.ofRecord_eq_ok_iff
  · intro count record position device h
    exact h.1.isObject

theorem result_ofKind_eq_ok_iff {kind : GroupKind} {scene : Value} {position : Nat}
    {group : Group} :
    (ofKind kind scene position).result = .ok group ↔
      group.kind = kind ∧ group.Copies scene position := by
  cases kind with
  | switch =>
      simp only [result_ofKind_switch, map_eq_ok_iff, result_switch_eq_ok_iff]
      cases group <;> simp [kind]
  | sensor =>
      simp only [result_ofKind_sensor, map_eq_ok_iff, result_sensor_eq_ok_iff]
      cases group <;> simp [kind]

theorem result_ofScene?_eq_ok_some_iff {scene : Value} {position : Nat} {group : Group} :
    (ofScene? scene position).result = .ok (some group) ↔
      sceneKind? scene = some group.kind ∧ group.Copies scene position := by
  rw [result_ofScene?]
  constructor
  · intro h
    split at h
    · obtain ⟨type, ht, h⟩ := bind_eq_ok_iff.mp h
      rw [Value.requireText_eq_ok_iff, ← Value.getText?_eq_some_iff] at ht
      cases hk : GroupKind.ofSceneType? type with
      | none => rw [hk] at h; cases h
      | some kind =>
          rw [hk] at h
          obtain ⟨made, hm, same⟩ := map_eq_ok_iff.mp h
          cases same
          obtain ⟨rfl, copies⟩ := result_ofKind_eq_ok_iff.mp hm
          exact ⟨Option.bind_eq_some_iff.mpr ⟨type, ht, hk⟩, copies⟩
    · cases h
  · intro h
    obtain ⟨hs, copies⟩ := h
    obtain ⟨type, ht, hk⟩ := Option.bind_eq_some_iff.mp hs
    rw [Value.getText?_eq_some_iff] at ht
    rw [if_pos (Value.isObject_of_get? ht), bind_eq_ok_iff]
    refine ⟨type, Value.requireText_eq_ok_iff.mpr ht, ?_⟩
    rw [hk]
    exact map_eq_ok_iff.mpr ⟨group, result_ofKind_eq_ok_iff.mpr ⟨rfl, copies⟩, rfl⟩

/-- A scene is passed over when it has a type, but none that is known. -/
theorem result_ofScene?_eq_ok_none_iff {scene : Value} {position : Nat} :
    (ofScene? scene position).result = .ok none ↔
      sceneKind? scene = none ∧ scene.HasText "type" := by
  rw [result_ofScene?]
  constructor
  · intro h
    split at h
    · obtain ⟨type, ht, h⟩ := bind_eq_ok_iff.mp h
      rw [Value.requireText_eq_ok_iff] at ht
      cases hk : GroupKind.ofSceneType? type with
      | none => exact ⟨by rw [sceneKind?, Value.getText?_eq_some_iff.mpr ht]; exact hk, type, ht⟩
      | some kind =>
          rw [hk] at h
          obtain ⟨_, _, same⟩ := map_eq_ok_iff.mp h
          cases same
    · cases h
  · intro h
    obtain ⟨hs, type, ht⟩ := h
    rw [sceneKind?, Value.getText?_eq_some_iff.mpr ht] at hs
    rw [if_pos (Value.isObject_of_get? ht), bind_eq_ok_iff]
    refine ⟨type, Value.requireText_eq_ok_iff.mpr ht, ?_⟩
    rw [show GroupKind.ofSceneType? type = none from hs]

end Group

theorem Group.Copies.id_eq {scene : Value} {position : Nat} {group : Group}
    (h : group.Copies scene position) : group.id = position := by
  cases group with
  | switch g => exact DeviceGroup.Copies.id h
  | sensor g => exact DeviceGroup.Copies.id h

/-- The scenes of known type among scenes from position `start` on, each with its position. -/
def knownScenes (start : Nat) (scenes : List Value) : List (Value × Nat) :=
  (scenes.zipIdx start).filter fun scene => (sceneKind? scene.1).isSome

/-- One group for each scene of known type, in their order. -/
def Groups (start : Nat) (scenes : List Value) (groups : List Group) : Prop :=
  List.Forall₂
    (fun scene group => sceneKind? scene.1 = some group.kind ∧ group.Copies scene.1 scene.2)
    (knownScenes start scenes) groups

theorem knownScenes_cons_some {start : Nat} {scene : Value} {scenes : List Value}
    {kind : GroupKind} (h : sceneKind? scene = some kind) :
    knownScenes start (scene :: scenes) = (scene, start) :: knownScenes (start + 1) scenes := by
  simp only [knownScenes, List.zipIdx_cons, List.filter_cons, h, Option.isSome_some, if_true]

theorem knownScenes_cons_none {start : Nat} {scene : Value} {scenes : List Value}
    (h : sceneKind? scene = none) :
    knownScenes start (scene :: scenes) = knownScenes (start + 1) scenes := by
  simp only [knownScenes, List.zipIdx_cons, List.filter_cons, h, Option.isSome_none,
    Bool.false_eq_true, if_false]

theorem hasText_of_sceneKind? {scene : Value} {kind : GroupKind}
    (h : sceneKind? scene = some kind) : scene.HasText "type" := by
  obtain ⟨type, _, ht⟩ := sceneKind?_eq_some_iff.mp h
  exact ⟨type, ht⟩

theorem Group.result_ofScenes_eq_ok_iff {start : Nat} {scenes : List Value}
    {groups : List Group} :
    (Group.ofScenes start scenes).result = .ok groups ↔
      (∀ scene ∈ scenes, scene.HasText "type") ∧ Groups start scenes groups := by
  -- A scene passed over takes a position and no group, so both start and groups vary.
  induction scenes generalizing start groups with
  | nil =>
      simp only [Group.result_ofScenes_nil, Groups, knownScenes, List.zipIdx_nil,
        List.filter_nil, List.forall₂_nil_left_iff, List.not_mem_nil, Except.ok.injEq]
      exact ⟨fun h => ⟨fun _ h => h.elim, h.symm⟩, fun h => h.2.symm⟩
  | cons scene scenes ih =>
      simp only [Group.result_ofScenes_cons, bind_eq_ok_iff, map_eq_ok_iff, ih,
        List.forall_mem_cons]
      constructor
      · intro h
        obtain ⟨group?, hg, rest, ⟨typed, hr⟩, rfl⟩ := h
        cases group? with
        | none =>
            obtain ⟨hs, ht⟩ := Group.result_ofScene?_eq_ok_none_iff.mp hg
            refine ⟨⟨ht, typed⟩, ?_⟩
            rw [Groups, knownScenes_cons_none hs]
            exact hr
        | some group =>
            have made := Group.result_ofScene?_eq_ok_some_iff.mp hg
            refine ⟨⟨hasText_of_sceneKind? made.1, typed⟩, ?_⟩
            rw [Groups, knownScenes_cons_some made.1]
            exact .cons made hr
      · intro h
        obtain ⟨⟨ht, typed⟩, hg⟩ := h
        cases hs : sceneKind? scene with
        | none =>
            rw [Groups, knownScenes_cons_none hs] at hg
            exact ⟨none, Group.result_ofScene?_eq_ok_none_iff.mpr ⟨hs, ht⟩, groups,
              ⟨typed, hg⟩, rfl⟩
        | some kind =>
            rw [Groups, knownScenes_cons_some hs, List.forall₂_cons_left_iff] at hg
            obtain ⟨group, rest, made, hr, rfl⟩ := hg
            exact ⟨some group, Group.result_ofScene?_eq_ok_some_iff.mpr made, rest,
              ⟨typed, hr⟩, rfl⟩

/-- Whatever is picked from a list keeps the order of its positions. -/
theorem pairwise_filter_zipIdx {α : Type} (p : α × Nat → Bool) (start : Nat) (xs : List α) :
    (((xs.zipIdx start).filter p).map Prod.snd).Pairwise (· < ·) := by
  have kept : (((xs.zipIdx start).filter p).map Prod.snd).Sublist
      ((xs.zipIdx start).map Prod.snd) := List.filter_sublist.map _
  rw [List.zipIdx_map_snd] at kept
  exact List.Pairwise.sublist kept (List.pairwise_lt_range' 1)

theorem knownScenes_pairwise (start : Nat) (scenes : List Value) :
    ((knownScenes start scenes).map Prod.snd).Pairwise (· < ·) :=
  pairwise_filter_zipIdx _ start scenes

theorem mem_knownScenes_iff {scenes : List Value} {scene : Value} {position : Nat} :
    (scene, position) ∈ knownScenes 0 scenes ↔
      scenes[position]? = some scene ∧ HasType ["Light", "Switch", "Sensor"] scene := by
  rw [knownScenes, List.mem_filter, List.mk_mem_zipIdx_iff_getElem?, sceneKind?_isSome_iff]

theorem Groups.map_id {start : Nat} {scenes : List Value} {groups : List Group}
    (h : Groups start scenes groups) :
    groups.map Group.id = (knownScenes start scenes).map Prod.snd := by
  rw [Groups] at h
  generalize knownScenes start scenes = known at h ⊢
  induction h with
  | nil => rfl
  | cons first rest ih => rw [List.map_cons, List.map_cons, ih, first.2.id_eq]

end SceneConfig
