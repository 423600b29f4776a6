/- Access to the groups of a model: by id there is the group of the scene at that position, and the
   two views by kind are what all groups split into. -/
import Mathlib.Data.List.Nodup
import SceneConfig.Proofs.Document.ModelCopies

namespace SceneConfig
open Json (Value)

section Ids
variable {model : Model} {group other : Group}

theorem Model.eq_of_id_eq (ascending : (model.groups.map Group.id).Pairwise (· < ·))
    (here : group ∈ model.groups) (there : other ∈ model.groups) (same : group.id = other.id) :
    group = other :=
  List.inj_on_of_nodup_map (ascending.imp Nat.ne_of_lt) here there same

/-- No id stands for two groups, so the first group found is the only one. -/
theorem Model.group?_eq_some_iff (ascending : (model.groups.map Group.id).Pairwise (· < ·))
    {n : Nat} : model.group? n = some group ↔ group ∈ model.groups ∧ group.id = n := by
  rw [Model.group?]
  constructor
  · intro found
    have id := List.find?_some found
    exact ⟨List.mem_of_find?_eq_some found, of_decide_eq_true id⟩
  · rintro ⟨member, rfl⟩
    cases found : model.groups.find? fun other => other.id = group.id with
    | none => exact absurd (decide_eq_true rfl) (List.find?_eq_none.mp found group member)
    | some other =>
        have id := List.find?_some found
        have same : other.id = group.id := of_decide_eq_true id
        rw [Model.eq_of_id_eq ascending (List.mem_of_find?_eq_some found) member same]

/-- Only the ids of groups find anything. -/
theorem Model.group?_eq_none_iff {n : Nat} :
    model.group? n = none ↔ n ∉ model.groups.map Group.id := by
  simp only [Model.group?, List.find?_eq_none, decide_eq_true_eq, List.mem_map, not_exists, not_and]

end Ids

section Scenes
variable {scenes : List Value} {groups : List Group} {scene : Value} {n : Nat}

theorem Groups.ascending (made : Groups 0 scenes groups) :
    (groups.map Group.id).Pairwise (· < ·) := by
  rw [made.map_id]
  exact knownScenes_pairwise 0 scenes

/-- The ids are the positions of the scenes of known type. -/
theorem Groups.mem_ids_iff (made : Groups 0 scenes groups) :
    n ∈ groups.map Group.id ↔
      ∃ scene, scenes[n]? = some scene ∧ HasType ["Light", "Switch", "Sensor"] scene := by
  simp only [made.map_id, List.mem_map, Prod.exists, exists_eq_right, mem_knownScenes_iff]

theorem Groups.exists_scene (made : Groups 0 scenes groups) {group : Group}
    (member : group ∈ groups) :
    ∃ scene, scenes[group.id]? = some scene ∧ sceneKind? scene = some group.kind ∧
      group.Copies scene group.id := by
  obtain ⟨⟨scene, position⟩, known, kind, copies⟩ := exists_of_forall₂_right made group member
  have same : group.id = position := copies.id_eq
  subst same
  exact ⟨scene, (mem_knownScenes_iff.mp known).1, kind, copies⟩

/-- A scene of known type is found as the group made of it. -/
theorem Model.exists_group_of_scene {model : Model} (made : Groups 0 scenes model.groups)
    {kind : GroupKind} (slot : scenes[n]? = some scene) (known : sceneKind? scene = some kind) :
    ∃ group, model.group? n = some group ∧ group.kind = kind ∧ group.Copies scene n := by
  have listed : n ∈ model.groups.map Group.id :=
    made.mem_ids_iff.mpr
      ⟨scene, slot, sceneKind?_isSome_iff.mp (Option.isSome_iff_exists.mpr ⟨kind, known⟩)⟩
  obtain ⟨group, member, rfl⟩ := List.mem_map.mp listed
  obtain ⟨other, there, kinds, copies⟩ := made.exists_scene member
  rw [slot, Option.some.injEq] at there
  subst there
  rw [known, Option.some.injEq] at kinds
  exact ⟨group, (Model.group?_eq_some_iff made.ascending).mpr ⟨member, rfl⟩, kinds.symm, copies⟩

end Scenes

section Kinds

/-- Two lists of groups in one, by their ids. -/
def mergeById (groups others : List Group) : List Group :=
  groups.merge others fun group other => group.id ≤ other.id

theorem mergeById_pairwise {groups others : List Group}
    (left : groups.Pairwise (·.id ≤ ·.id)) (right : others.Pairwise (·.id ≤ ·.id)) :
    (mergeById groups others).Pairwise (·.id ≤ ·.id) := by
  have sorted := @List.pairwise_merge Group (fun group other => group.id ≤ other.id)
    (fun a b c ab bc => decide_eq_true
      (Nat.le_trans (of_decide_eq_true ab) (of_decide_eq_true bc)))
    (fun a b => by simpa using Nat.le_total a.id b.id) groups others
  simp only [decide_eq_true_eq] at sorted
  exact sorted left right

variable (model : Model)

theorem Model.map_switchGroups :
    model.switchGroups.map Group.switch =
      model.groups.filter fun group => group.kind = .switch := by
  rw [switchGroups, List.map_filterMap, ← List.filterMap_eq_filter]
  congr 1
  funext group
  cases group <;> rfl

theorem Model.map_sensorGroups :
    model.sensorGroups.map Group.sensor =
      model.groups.filter fun group => !decide (group.kind = .switch) := by
  rw [sensorGroups, List.map_filterMap, ← List.filterMap_eq_filter]
  congr 1
  funext group
  cases group <;> rfl

/-- Each group is in one of the views, as often as it is in the model. -/
theorem Model.views_perm :
    (model.switchGroups.map Group.switch ++ model.sensorGroups.map Group.sensor).Perm
      model.groups := by
  rw [map_switchGroups, map_sensorGroups]
  exact List.filter_append_perm _ _

theorem Model.mergeById_views {model : Model}
    (ascending : (model.groups.map Group.id).Pairwise (· < ·)) :
    mergeById (model.switchGroups.map Group.switch) (model.sensorGroups.map Group.sensor) =
      model.groups := by
  have sorted : model.groups.Pairwise (·.id ≤ ·.id) :=
    (List.pairwise_map.mp ascending).imp Nat.le_of_lt
  have perm : (mergeById (model.switchGroups.map Group.switch)
      (model.sensorGroups.map Group.sensor)).Perm model.groups :=
    (List.merge_perm_append _).trans model.views_perm
  apply List.Perm.eq_of_pairwise ?_ ?_ sorted perm
  · intro group other here there le ge
    exact Model.eq_of_id_eq ascending (perm.subset here) there (Nat.le_antisymm le ge)
  · apply mergeById_pairwise
    · rw [map_switchGroups]
      exact sorted.filter _
    · rw [map_sensorGroups]
      exact sorted.filter _

end Kinds

/-- What the accessors of a model give, by the scenes of its document. -/
structure Model.Accesses (document : Value) (model : Model) : Prop where
  ascending : (model.groups.map Group.id).Pairwise (· < ·)
  scenes : ∃ scenes, document.get? "scenes" = some (.array scenes) ∧
    (∀ group ∈ model.groups, group.id < scenes.length) ∧
    ∀ n, (scenes[n]? = none → model.group? n = none) ∧
      ∀ scene, scenes[n]? = some scene →
        (¬HasType ["Light", "Switch", "Sensor"] scene → model.group? n = none) ∧
        (HasType ["Light", "Switch", "Sensor"] scene →
          ∃ group, model.group? n = some group ∧
            (Group.ofScene? scene n).result = .ok (some group))
  own : ∀ group ∈ model.groups, model.group? group.id = some group
  switches : (model.switchGroups.map Group.switch).Sublist model.groups
  sensors : (model.sensorGroups.map Group.sensor).Sublist model.groups
  once : ∀ group ∈ model.groups, (model.switchGroups.map Group.switch).count group +
    (model.sensorGroups.map Group.sensor).count group = 1
  merged : mergeById (model.switchGroups.map Group.switch) (model.sensorGroups.map Group.sensor) =
    model.groups

theorem ofDocument_accesses {document : Value} {model : Model}
    (accepted : (Model.ofDocument document).result = .ok model) : model.Accesses document := by
  obtain ⟨_, scenes, listed, _, made⟩ := Model.result_ofDocument_eq_ok_iff.mp accepted
  have ascending := made.ascending
  constructor
  case ascending => exact ascending
  case scenes =>
    refine ⟨scenes, listed, ?_, fun n => ⟨?_, ?_⟩⟩
    · intro group member
      obtain ⟨scene, slot, _⟩ := made.exists_scene member
      exact (List.getElem?_eq_some_iff.mp slot).1
    · intro outside
      rw [Model.group?_eq_none_iff, made.mem_ids_iff, outside]
      rintro ⟨scene, slot, _⟩
      cases slot
    · intro scene slot
      constructor
      · intro unknown
        rw [Model.group?_eq_none_iff, made.mem_ids_iff, slot]
        rintro ⟨other, same, known⟩
        cases same
        exact unknown known
      · intro type
        obtain ⟨kind, known⟩ := Option.isSome_iff_exists.mp (sceneKind?_isSome_iff.mpr type)
        obtain ⟨group, found, rfl, copies⟩ := Model.exists_group_of_scene made slot known
        exact ⟨group, found, Group.result_ofScene?_eq_ok_some_iff.mpr ⟨known, copies⟩⟩
  case own =>
    intro group member
    exact (Model.group?_eq_some_iff ascending).mpr ⟨member, rfl⟩
  case switches =>
    rw [Model.map_switchGroups]
    exact List.filter_sublist
  case sensors =>
    rw [Model.map_sensorGroups]
    exact List.filter_sublist
  case once =>
    intro group member
    have distinct : model.groups.Nodup := .of_map Group.id (ascending.imp Nat.ne_of_lt)
    rw [← List.count_append, model.views_perm.count_eq, List.count_eq_one_of_mem distinct member]
  case merged => exact Model.mergeById_views ascending

/-- Sensors and switches in turns, with a camera passed over and a light without devices. One topic
is shared by devices of three scenes, and by two sensors of the first. -/
def panelDocument : Value :=
  homeDocument [] [
    .object [("type", .string "Sensor"), ("name", .string "Air"), ("icon", .string "cloud"),
      ("devices", .array [
        .object [("name", .string "Inside"), ("getTopic", .string "air"),
          ("type", .string "Temperature"), ("jsondata", .bool true),
          ("temperature", .string "in.t"), ("humidity", .string "in.h")],
        .object [("name", .string "Door"), ("getTopic", .string "door"),
          ("type", .string "Humidity")],
        .object [("name", .string "Outside"), ("getTopic", .string "air"),
          ("type", .string "Humidity"), ("jsondata", .bool true),
          ("humidity", .string "out.h")]])],
    .object [("type", .string "Camera")],
    .object [("type", .string "Light"), ("name", .string "Hall"), ("icon", .string "bulb"),
      ("devices", .array [])],
    .object [("type", .string "Sensor"), ("name", .string "Cellar"), ("icon", .string "drop"),
      ("devices", .array [
        .object [("name", .string "Damp"), ("getTopic", .string "air"),
          ("type", .string "Humidity"), ("jsondata", .bool false)]])],
    .object [("type", .string "Switch"), ("name", .string "Fans"), ("icon", .string "fan"),
      ("devices", .array [
        .object [("name", .string "Fan"), ("getTopic", .string "air"),
          ("setTopic", .string "fan"), ("onValue", .string "1"),
          ("offValue", .string "0")]])]]

def panelModel : Model where
  wifi := ⟨"home", "secret"⟩
  timezone := ""
  broker := ⟨"10.0.0.5", "panel", "hidden"⟩
  groups := [
    .sensor ⟨0, "Air", "cloud",
      ⟨[("air", ⟨0, "Inside", "air", .temperature, .json, [⟨"temperature", "in.t", "0"⟩]⟩),
        ("door", ⟨1, "Door", "door", .humidity, .raw, []⟩),
        ("air", ⟨2, "Outside", "air", .humidity, .json, [⟨"humidity", "out.h", "0"⟩]⟩)]⟩⟩,
    .switch ⟨2, "Hall", "bulb", ⟨[]⟩⟩,
    .sensor ⟨3, "Cellar", "drop", ⟨[("air", ⟨0, "Damp", "air", .humidity, .raw, []⟩)]⟩⟩,
    .switch ⟨4, "Fans", "fan", ⟨[("air", ⟨0, "Fan", "air", "fan", "1", "0"⟩)]⟩⟩]

/-- The ids have a gap where the camera is, and the kinds take turns. -/
theorem ofDocument_accesses_panel :
    (Model.ofDocument panelDocument).result = .ok panelModel ∧
      panelModel.Accesses panelDocument :=
  ⟨rfl, ofDocument_accesses rfl⟩

end SceneConfig
