/- The topics to subscribe to are those that the device records name: all of them, in order, and as
   often as they are named. -/
import Mathlib.Algebra.GroupWithZero.Nat
import Mathlib.Data.List.Count
import SceneConfig.Proofs.Document.SceneEvents
import SceneConfig.Proofs.Model.GroupAccess

namespace SceneConfig
open Json (Value)
variable {δ : Type}

namespace Json.Value

/-- The device records of a scene; a scene of unknown type has none. -/
def deviceRecords (scene : Value) : List Value :=
  match scene.getText? "type" with
  | some type =>
    if type ∈ ["Light", "Switch", "Sensor"] then (scene.getItems? "devices").getD [] else []
  | none => []

/-- The device records of all scenes, scene by scene. -/
def allDeviceRecords (document : Value) : List Value :=
  ((document.getItems? "scenes").getD []).flatMap deviceRecords

end Json.Value

namespace TopicList

theorem count_topics (devices : TopicList δ) (topic : String) :
    devices.topics.count topic = (devices.allOn topic).length := by
  rw [topics, allOn, List.length_map, List.count_eq_countP, List.countP_map,
    List.countP_eq_length_filter]
  rfl

end TopicList

namespace Group

def hasTopic (topic : String) : Group → Bool
  | .switch g => g.devices.hasTopic topic
  | .sensor g => g.devices.hasTopic topic

/-- How many devices of the group are declared on the topic. -/
def countOn (topic : String) : Group → Nat
  | .switch g => (g.devices.allOn topic).length
  | .sensor g => (g.devices.allOn topic).length

theorem length_topics (group : Group) : group.topics.length = group.deviceCount := by
  cases group with
  | switch g => exact List.length_map _
  | sensor g => exact List.length_map _

theorem hasTopic_iff (group : Group) (topic : String) :
    group.hasTopic topic = true ↔ topic ∈ group.topics := by
  cases group with
  | switch g => exact g.devices.hasTopic_iff_mem_topics topic
  | sensor g => exact g.devices.hasTopic_iff_mem_topics topic

theorem count_topics (group : Group) (topic : String) :
    group.topics.count topic = group.countOn topic := by
  cases group with
  | switch g => exact g.devices.count_topics topic
  | sensor g => exact g.devices.count_topics topic

end Group

section Records
variable {scene : Value}

theorem deviceRecords_of_unknown (h : sceneKind? scene = none) : scene.deviceRecords = [] := by
  cases text : scene.getText? "type" with
  | none => rw [Value.deviceRecords, text]
  | some type =>
      have unknown : type ∉ ["Light", "Switch", "Sensor"] := by
        intro member
        have known := sceneKind?_isSome_iff.mpr ⟨type, member, Value.getText?_eq_some_iff.mp text⟩
        rw [h] at known
        cases known
      rw [Value.deviceRecords, text]
      exact if_neg unknown

theorem deviceRecords_of_known {kind : GroupKind} {records : List Value}
    (h : sceneKind? scene = some kind) (listed : scene.get? "devices" = some (.array records)) :
    scene.deviceRecords = records := by
  obtain ⟨type, member, text⟩ :=
    sceneKind?_isSome_iff.mp (Option.isSome_iff_exists.mpr ⟨kind, h⟩)
  rw [Value.deviceRecords, Value.getText?_eq_some_iff.mpr text]
  simp only [if_pos member, Value.getItems?_eq_some_iff.mpr listed, Option.getD_some]

theorem flatMap_deviceRecords (start : Nat) (scenes : List Value) :
    scenes.flatMap Value.deviceRecords =
      (knownScenes start scenes).flatMap fun scene => scene.1.deviceRecords := by
  induction scenes generalizing start with
  | nil => rfl
  | cons scene scenes ih =>
      cases known : sceneKind? scene with
      | none =>
          rw [knownScenes_cons_none known, List.flatMap_cons, deviceRecords_of_unknown known,
            List.nil_append, ih]
      | some kind =>
          rw [knownScenes_cons_some known, List.flatMap_cons, List.flatMap_cons, ih]

/-- The topic that an entry stands under is the one its record names. -/
theorem nameTopics_of_entries {copies : Value → Nat → δ → Prop} {topic : δ → String}
    {start : Nat} {records : List Value} {entries : List (String × δ)}
    (names : ∀ record position device, copies record position device →
      record.get? "getTopic" = some (.string (topic device)))
    (h : Entries copies topic start records entries) :
    NameTopics records (entries.map Prod.fst) := by
  induction records generalizing start entries with
  | nil =>
      rw [Entries, List.zipIdx_nil, List.forall₂_nil_left_iff] at h
      subst h
      exact .nil
  | cons record records ih =>
      rw [Entries, List.zipIdx_cons, List.forall₂_cons_left_iff] at h
      obtain ⟨entry, rest, ⟨key, copied⟩, behind, rfl⟩ := h
      refine .cons ?_ (ih behind)
      rw [key]
      exact names _ _ _ copied

theorem Group.Copies.nameTopics {position : Nat} {group : Group}
    (known : sceneKind? scene = some group.kind) (h : group.Copies scene position) :
    NameTopics scene.deviceRecords group.topics := by
  cases group with
  | switch g =>
      obtain ⟨_, _, _, records, listed, entries⟩ := h
      rw [deviceRecords_of_known known listed]
      exact nameTopics_of_entries (fun _ _ _ copied => copied.getTopic) entries
  | sensor g =>
      obtain ⟨_, _, _, records, listed, entries⟩ := h
      rw [deviceRecords_of_known known listed]
      exact nameTopics_of_entries (fun _ _ _ copied => copied.1.getTopic) entries

theorem Groups.nameTopics {start : Nat} {scenes : List Value} {groups : List Group}
    (made : Groups start scenes groups) :
    NameTopics (scenes.flatMap Value.deviceRecords) (groups.flatMap Group.topics) := by
  rw [flatMap_deviceRecords start]
  exact List.rel_flatMap made fun _ _ related => related.2.nameTopics related.1

end Records

/-- No topic of a device record is lost, none is added, and all are as often there as they are
found. -/
structure Model.SubscribesTo (document : Value) (model : Model) : Prop where
  declared : NameTopics document.allDeviceRecords model.subscribeTopics
  length : model.subscribeTopics.length = (model.groups.map Group.deviceCount).sum
  mem : ∀ topic, topic ∈ model.subscribeTopics ↔
    ∃ group ∈ model.groups, group.hasTopic topic = true
  count : ∀ topic, model.subscribeTopics.count topic =
    (model.groups.map (Group.countOn topic)).sum

theorem ofDocument_subscribes {document : Value} {model : Model}
    (accepted : (Model.ofDocument document).result = .ok model) : model.SubscribesTo document := by
  obtain ⟨_, scenes, listed, _, made⟩ := Model.result_ofDocument_eq_ok_iff.mp accepted
  constructor
  case declared =>
    rw [Value.allDeviceRecords, Value.getItems?_eq_some_iff.mpr listed]
    exact made.nameTopics
  case length =>
    rw [Model.subscribeTopics, List.length_flatMap]
    simp only [Group.length_topics]
  case mem =>
    intro topic
    simp only [Model.subscribeTopics, List.mem_flatMap, Group.hasTopic_iff]
  case count =>
    intro topic
    rw [Model.subscribeTopics, List.count_flatMap]
    congr 2
    funext group
    exact group.count_topics topic

/-- Four devices of three scenes are on one topic. -/
theorem ofDocument_subscribes_panel :
    (Model.ofDocument panelDocument).result = .ok panelModel ∧
      panelModel.subscribeTopics = ["air", "door", "air", "air", "air"] ∧
      panelModel.SubscribesTo panelDocument :=
  ⟨rfl, rfl, ofDocument_subscribes rfl⟩

end SceneConfig
