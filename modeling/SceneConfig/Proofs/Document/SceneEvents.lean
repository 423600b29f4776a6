/- The events of one scene. A completed scene leaves all of them, a scene with a fault the remarks on
   the devices in front of the fault. -/
import Mathlib.Data.Finset.Card
import SceneConfig.Proofs.Document.Ends
import SceneConfig.Tool.Log

namespace SceneConfig
open Json (Value)
variable {δ α : Type} {document : Value}

/-- A remark on each device whose topic an earlier device of the scene has. -/
def sharedTopics (scene : Nat) (topics : List String) : List Event :=
  topics.zipIdx.filterMap fun (topic, j) =>
    if topic ∈ topics.take j then some (.sharedTopic topic (.device scene j)) else none

theorem sharedTopics_concat (scene : Nat) (topics : List String) (topic : String) :
    sharedTopics scene (topics ++ [topic]) =
      sharedTopics scene topics ++
        if topic ∈ topics then [.sharedTopic topic (.device scene topics.length)] else [] := by
  rw [sharedTopics, List.zipIdx_append, List.filterMap_append]
  congr 1
  · apply List.filterMap_congr
    intro entry member
    have inside : entry.2 ≤ topics.length := by
      have low := (List.mem_zipIdx member).2.1
      omega
    simp only [List.take_append_of_le_length inside]
  · by_cases shared : topic ∈ topics <;> simp [shared]

/-- The devices remarked on, and one device for each topic, are all the devices. -/
theorem length_sharedTopics (scene : Nat) (topics : List String) :
    (sharedTopics scene topics).length + topics.toFinset.card = topics.length := by
  induction topics using List.reverseRecOn with
  | nil => rfl
  | append_singleton topics topic ih =>
      rw [sharedTopics_concat, List.toFinset_append, Finset.union_comm]
      by_cases shared : topic ∈ topics
      · have present : topic ∈ topics.toFinset := List.mem_toFinset.mpr shared
        simp [shared, present]
        omega
      · have absent : topic ∉ topics.toFinset := fun h => shared (List.mem_toFinset.mp h)
        simp [shared, absent]
        omega

/-- The topics that the records name, in order. -/
def NameTopics (records : List Value) (topics : List String) : Prop :=
  List.Forall₂ (fun record topic => record.get? "getTopic" = some (.string topic)) records topics

/-- What happened in a scene before its fault: nothing, or the remarks on the devices in front of
the one that is at fault. -/
def CutShort (scene : Value) (index : Nat) (events : List Event) (fault : Fault Place) : Prop :=
  fault.scene? = some index ∧
    match fault.device? with
    | none => events = []
    | some j => ∃ records topics, scene.get? "devices" = some (.array records) ∧
        j < records.length ∧ NameTopics (records.take j) topics ∧
          events = sharedTopics index topics

theorem cutShort_nil {scene : Value} {index : Nat} {check : Check}
    {x : Except (Fault Place) α} (performs : Performs document [check] x)
    (here : check.place = .scene index) {fault : Fault Place} (failed : x = .error fault) :
    CutShort scene index [] fault := by
  obtain ⟨inScene, noDevice⟩ := performs.position
    (fun other member => by rw [List.mem_singleton.mp member, here]) failed
  refine ⟨inScene, ?_⟩
  rw [noDevice]
  rfl

theorem TopicList.size_push (devices : TopicList δ) (topic : String) (device : δ) :
    (devices.push topic device).size = devices.size + 1 := by
  rw [size, toList_push, List.length_append]
  rfl

theorem TopicList.topics_push (devices : TopicList δ) (topic : String) (device : δ) :
    (devices.push topic device).topics = devices.topics ++ [topic] := by
  rw [topics, toList_push, List.map_append]
  rfl

theorem sharedTopics_push (scene : Nat) (devices : TopicList δ) (topic : String) (device : δ) :
    sharedTopics scene (devices.push topic device).topics =
      sharedTopics scene devices.topics ++
        if devices.hasTopic topic then [.sharedTopic topic (.device scene devices.size)] else [] := by
  have length : devices.topics.length = devices.size := List.length_map _
  rw [TopicList.topics_push, sharedTopics_concat, length]
  simp only [devices.hasTopic_iff_mem_topics]

/-- The remarks on all devices read so far, whether the records to come are read or not. -/
theorem ends_readDevices {scene count : Nat} {kind : GroupKind}
    {read : Value → Nat → Place → Except (Fault Place) δ} {topic : δ → String}
    (reads : ∀ record position place, place.node? document = some record →
      Performs document (Check.ofDevice kind record count place) (read record position place))
    (names : ∀ record position place device, read record position place = .ok device →
      record.get? "getTopic" = some (.string (topic device)))
    (devices : TopicList δ) {records : List Value}
    (found : ∀ j, (Place.device scene (devices.size + j)).node? document = records[j]?) :
    (readDevices scene read topic devices.size devices records).Ends
      (fun events all =>
        sharedTopics scene all.topics = sharedTopics scene devices.topics ++ events)
      fun events fault => fault.scene? = some scene ∧ ∃ n topics, n < records.length ∧
        fault.device? = some (devices.size + n) ∧ NameTopics (records.take n) topics ∧
          sharedTopics scene (devices.topics ++ topics) =
            sharedTopics scene devices.topics ++ events := by
  induction records generalizing devices with
  | nil => exact (List.append_nil _).symm
  | cons record records ih =>
      have here : (Place.device scene devices.size).node? document = some record := found 0
      have behind := getElem?_behind (fun j => (Place.device scene j).node? document) found
      rw [readDevices]
      split
      · apply Traced.Ends.bind_lift
        · intro fault failed
          obtain ⟨inScene, atDevice⟩ := (reads record devices.size _ here).position
            (fun _ => Check.place_of_mem_ofDevice) failed
          refine ⟨inScene, 0, [], Nat.succ_pos _, atDevice, .nil, ?_⟩
          rw [List.append_nil, List.append_nil]
        · intro device read
          let next := devices.push (topic device) device
          have remarks := sharedTopics_push scene devices (topic device) device
          have later := ih next (by rw [TopicList.size_push]; exact behind)
          rw [TopicList.size_push] at later
          apply Traced.Ends.remark
          apply later.mono
          · intro events all _ h
            rw [h, remarks, List.append_assoc]
          · rintro events fault _ ⟨inScene, n, topics, low, atDevice, rest, h⟩
            refine ⟨inScene, n + 1, topic device :: topics, Nat.succ_lt_succ low, ?_,
              .cons (names _ _ _ _ read) rest, ?_⟩
            · rw [atDevice, Nat.add_right_comm, Nat.add_assoc]
            · have split : devices.topics ++ topic device :: topics = next.topics ++ topics := by
                rw [TopicList.topics_push, List.append_assoc]
                rfl
              rw [split, h, remarks, List.append_assoc]
      · refine ⟨rfl, 0, [], Nat.succ_pos _, rfl, .nil, ?_⟩
        rw [List.append_nil]
        exact (List.append_nil _).symm

theorem ends_ofScene (kind : GroupKind) {scene : Value} {position : Nat}
    {read : (count : Nat) → Value → Nat → Place → Except (Fault Place) δ} {topic : δ → String}
    (reads : ∀ count record index place, place.node? document = some record →
      Performs document (Check.ofDevice kind record count place) (read count record index place))
    (names : ∀ count record index place device, read count record index place = .ok device →
      record.get? "getTopic" = some (.string (topic device)))
    (found : (Place.scene position).node? document = some scene) :
    (DeviceGroup.ofScene scene position read topic).Ends
      (fun events group => group.id = position ∧
        events = sharedTopics position group.devices.topics)
      (CutShort scene position) := by
  rw [DeviceGroup.ofScene]
  apply Traced.Ends.bind_lift
  · intro fault failed
    exact cutShort_nil (performs_requireText found "name") rfl failed
  intro name _
  apply Traced.Ends.bind_lift
  · intro fault failed
    exact cutShort_nil (performs_requireText found "icon") rfl failed
  intro icon _
  apply Traced.Ends.bind_lift
  · intro fault failed
    exact cutShort_nil (performs_requireItems found "devices") rfl failed
  intro records h
  have list := Value.requireItems_eq_ok_iff.mp h
  have slots (j : Nat) : (Place.device position (0 + j)).node? document = records[j]? := by
    have node : document.item? "scenes" position = some scene := found
    rw [Place.node?, node, Option.bind_some, Value.item?, Value.getItems?_eq_some_iff.mpr list,
      Option.bind_some, Nat.zero_add]
  have devices := ends_readDevices (reads records.length) (names records.length) .empty slots
  have remarks : (readDevices position (read records.length) topic 0 .empty records).Ends
      (fun events all => events = sharedTopics position all.topics)
      (CutShort scene position) := by
    apply devices.mono
    · intro events all _ h
      exact h.symm
    · rintro events fault _ ⟨inScene, n, topics, low, atDevice, rest, h⟩
      have place : fault.device? = some n := by
        rw [atDevice]
        exact congrArg some (Nat.zero_add n)
      refine ⟨inScene, ?_⟩
      rw [place]
      exact ⟨records, topics, list, low, rest, h.symm⟩
  apply remarks.bind
  rintro _ devices _ rfl
  exact ⟨rfl, List.append_nil _⟩

theorem ends_ofKind {kind : GroupKind} {scene : Value} {position : Nat}
    (found : (Place.scene position).node? document = some scene) :
    (Group.ofKind kind scene position).Ends
      (fun events group => events = sharedTopics group.id group.topics)
      (CutShort scene position) := by
  cases kind with
  | switch =>
      apply Traced.Ends.map
      apply (ends_ofScene .switch (fun _ _ index _ here => performs_ofSwitch here index) ?_
        found).mono
      · rintro events group _ ⟨id, remarks⟩
        rw [remarks, ← id]
        rfl
      · exact fun _ _ _ h => h
      · intro _ record index place device read
        exact (SwitchDevice.ofRecord_eq_ok_iff.mp read).getTopic
  | sensor =>
      apply Traced.Ends.map
      apply (ends_ofScene .sensor
        (fun count _ index _ here => performs_ofSensor here index count) ?_ found).mono
      · rintro events group _ ⟨id, remarks⟩
        rw [remarks, ← id]
        rfl
      · exact fun _ _ _ h => h
      · intro _ record index place device read
        exact (SensorDevice.ofRecord_eq_ok_iff.mp read).1.getTopic

/-- The events of a scene that comes to a group, or is passed over. -/
inductive SceneEvents (scene : Value) (index : Nat) : Option Group → List Event → Prop
  | skipped {type : String} : scene.get? "type" = some (.string type) →
      GroupKind.ofSceneType? type = none →
      SceneEvents scene index none [.skippedScene index type]
  | built {group : Group} : sceneKind? scene = some group.kind → group.Copies scene index →
      SceneEvents scene index (some group)
        (sharedTopics group.id group.topics ++
          [.builtGroup group.id group.kind group.name group.deviceCount])

theorem ends_ofScene? {scene : Value} {position : Nat}
    (found : (Place.scene position).node? document = some scene) :
    (Group.ofScene? scene position).Ends
      (fun events group? => SceneEvents scene position group? events)
      (CutShort scene position) := by
  have steps : (Group.ofScene? scene position).Ends
      (fun events group? =>
        match group? with
        | some group => events = sharedTopics group.id group.topics ++
            [.builtGroup group.id group.kind group.name group.deviceCount]
        | none => SceneEvents scene position none events)
      (CutShort scene position) := by
    rw [Group.ofScene?]
    split
    · apply Traced.Ends.bind_lift
      · intro fault failed
        exact cutShort_nil (performs_requireText found "type") rfl failed
      · intro type h
        have text := Value.requireText_eq_ok_iff.mp h
        cases known : GroupKind.ofSceneType? type with
        | none => exact SceneEvents.skipped text known
        | some kind =>
            apply (ends_ofKind found).bind
            rintro _ group _ rfl
            rfl
    · exact ⟨rfl, rfl⟩
  apply steps.mono
  · intro events group? result h
    cases group? with
    | none => exact h
    | some group =>
        obtain ⟨kind, copies⟩ := Group.result_ofScene?_eq_ok_some_iff.mp result
        subst h
        exact .built kind copies
  · exact fun _ _ _ h => h

namespace Event

def isSkip : Event → Bool
  | .skippedScene .. => true
  | _ => false

def isRemark : Event → Bool
  | .sharedTopic .. => true
  | _ => false

def isBuilt : Event → Bool
  | .builtGroup .. => true
  | _ => false

/-- Passing over a scene is a warning; the rest is for debugging. -/
def ProperLevel (event : Event) : Prop :=
  event.entry.level = if event.isSkip then .warn else .debug

end Event

section Counting
variable {scene : Value} {index : Nat}

theorem eq_sharedTopic_of_mem {topics : List String} {event : Event}
    (h : event ∈ sharedTopics index topics) :
    ∃ topic j, event = .sharedTopic topic (.device index j) := by
  obtain ⟨⟨topic, j⟩, _, made⟩ := List.mem_filterMap.mp h
  simp only at made
  split at made
  · cases made
    exact ⟨topic, j, rfl⟩
  · cases made

theorem countP_sharedTopics {p : Event → Bool}
    (other : ∀ topic place, p (.sharedTopic topic place) = false) (topics : List String) :
    (sharedTopics index topics).countP p = 0 := by
  rw [List.countP_eq_zero]
  intro event member
  obtain ⟨topic, j, rfl⟩ := eq_sharedTopic_of_mem member
  rw [other]
  exact Bool.false_ne_true

theorem SceneEvents.countP_isRemark {group : Group} {events : List Event}
    (h : SceneEvents scene index (some group) events) :
    events.countP Event.isRemark + group.topics.toFinset.card = group.deviceCount := by
  cases h with
  | built =>
      have count : group.topics.length = group.deviceCount := by
        cases group <;> exact List.length_map _
      have remarks : (sharedTopics group.id group.topics).countP Event.isRemark =
          (sharedTopics group.id group.topics).length := by
        rw [List.countP_eq_length]
        intro event member
        obtain ⟨topic, j, rfl⟩ := eq_sharedTopic_of_mem member
        rfl
      rw [List.countP_append, remarks, ← count, ← length_sharedTopics group.id group.topics]
      rfl

theorem SceneEvents.countP {group? : Option Group} {events : List Event}
    (h : SceneEvents scene index group? events) :
    events.countP Event.isBuilt = group?.toList.length ∧
      events.countP Event.isBuilt + events.countP Event.isSkip = 1 := by
  cases h with
  | skipped => exact ⟨rfl, rfl⟩
  | built =>
      rw [List.countP_append, List.countP_append, countP_sharedTopics fun _ _ => rfl,
        countP_sharedTopics fun _ _ => rfl]
      exact ⟨rfl, rfl⟩

end Counting

section Levels
variable {index : Nat}

theorem properLevel_sharedTopics {topics : List String} {event : Event}
    (h : event ∈ sharedTopics index topics) : event.ProperLevel := by
  obtain ⟨topic, j, rfl⟩ := eq_sharedTopic_of_mem h
  rfl

theorem SceneEvents.properLevel {scene : Value} {group? : Option Group} {events : List Event}
    (h : SceneEvents scene index group? events) : ∀ event ∈ events, event.ProperLevel := by
  intro event member
  cases h with
  | skipped =>
      rw [List.mem_singleton.mp member]
      rfl
  | built =>
      rcases List.mem_append.mp member with remark | built
      · exact properLevel_sharedTopics remark
      · rw [List.mem_singleton.mp built]
        rfl

theorem CutShort.properLevel {scene : Value} {events : List Event} {fault : Fault Place}
    (h : CutShort scene index events fault) : ∀ event ∈ events, event.ProperLevel := by
  obtain ⟨_, h⟩ := h
  intro event member
  split at h
  · subst h
    cases member
  · obtain ⟨_, topics, _, _, _, rfl⟩ := h
    exact properLevel_sharedTopics member

end Levels

end SceneConfig
