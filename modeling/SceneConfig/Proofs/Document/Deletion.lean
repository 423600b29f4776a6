/- Fewer scenes and fewer devices: what is left of an accepted document is accepted.
   Its model is what is left of the model, with ids that count what is left. -/
import SceneConfig.Proofs.Document.Edits
import SceneConfig.Proofs.Document.ModelCopies

namespace SceneConfig
open Json (Value)
variable {α δ : Type}

section Positions
variable (keep : Nat → Bool)

/-- Where the element at a position goes: behind those that stay before it. -/
def newPosition (position : Nat) : Nat :=
  (List.range position).countP keep

/-- The elements that stay, with the positions from `start` on that they had. -/
def staying (start : Nat) (xs : List α) : List (α × Nat) :=
  (xs.zipIdx start).filter fun x => keep x.2

def remaining (xs : List α) : List α :=
  (staying keep 0 xs).map Prod.fst

variable {keep} {start : Nat}

theorem newPosition_succ_of_keep (h : keep start = true) :
    newPosition keep (start + 1) = newPosition keep start + 1 := by
  rw [newPosition, List.range_succ, List.countP_append, List.countP_singleton, if_pos h,
    newPosition]

theorem newPosition_succ_of_drop (h : keep start = false) :
    newPosition keep (start + 1) = newPosition keep start := by
  rw [newPosition, List.range_succ, List.countP_append, List.countP_singleton, h, newPosition]
  rfl

theorem staying_cons_of_keep (h : keep start = true) (x : α) (xs : List α) :
    staying keep start (x :: xs) = (x, start) :: staying keep (start + 1) xs :=
  List.filter_cons_of_pos h

theorem staying_cons_of_drop (h : keep start = false) (x : α) (xs : List α) :
    staying keep start (x :: xs) = staying keep (start + 1) xs :=
  List.filter_cons_of_neg (by simp [h])

theorem length_remaining_le (xs : List α) : (remaining keep xs).length ≤ xs.length := by
  have kept : (remaining keep xs).length ≤ (xs.zipIdx 0).length := by
    rw [remaining, List.length_map]
    exact List.length_filter_le _ _
  rwa [List.length_zipIdx] at kept

end Positions

/-- Which scenes stay, and which devices of the scene at a position. -/
structure Selection where
  scenes : Nat → Bool
  devices : Nat → Nat → Bool

/-- Only devices that stay are left of a scene of known type; another scene stays as it is. -/
def SceneCut (keep : Nat → Bool) (scene other : Value) : Prop :=
  match sceneKind? scene with
  | some _ => ∃ records, scene.get? "devices" = some (.array records) ∧
      Value.Sets "devices" (.array (remaining keep records)) scene other
  | none => other = scene

/-- The scenes that stay, cut in turn; those they are left of had the positions from `start` on. -/
def ScenesCut (selection : Selection) (start : Nat) (scenes others : List Value) : Prop :=
  List.Forall₂ (fun scene => SceneCut (selection.devices scene.2) scene.1)
    (staying selection.scenes start scenes) others

/-- Only scenes that stay are left of the document, and of each the devices that stay. -/
def DocumentCut (selection : Selection) (document other : Value) : Prop :=
  ∃ scenes others, document.get? "scenes" = some (.array scenes) ∧
    ScenesCut selection 0 scenes others ∧ Value.Sets "scenes" (.array others) document other

/-- The entries of devices that stay, each device with the position that it gets. -/
def cutEntries (keep : Nat → Bool) (id : δ → Nat) (move : Nat → δ → δ)
    (entries : List (String × δ)) : List (String × δ) :=
  (entries.filter fun entry => keep (id entry.2)).map fun entry =>
    (entry.1, move (newPosition keep (id entry.2)) entry.2)

def SwitchDevice.move (id : Nat) (device : SwitchDevice) : SwitchDevice :=
  { device with id }

def SensorDevice.move (id : Nat) (device : SensorDevice) : SensorDevice :=
  { device with id }

def DeviceGroup.cut (keep : Nat → Bool) (id : δ → Nat) (move : Nat → δ → δ) (position : Nat)
    (group : DeviceGroup δ) : DeviceGroup δ :=
  { group with id := position, devices := ⟨cutEntries keep id move group.devices.toList⟩ }

/-- The group at its new position, with the devices that stay. -/
def Group.cut (keep : Nat → Bool) (position : Nat) : Group → Group
  | .switch group => .switch (group.cut keep SwitchDevice.id SwitchDevice.move position)
  | .sensor group => .sensor (group.cut keep SensorDevice.id SensorDevice.move position)

def cutGroups (selection : Selection) (groups : List Group) : List Group :=
  (groups.filter fun group => selection.scenes group.id).map fun group =>
    group.cut (selection.devices group.id) (newPosition selection.scenes group.id)

def Model.cut (selection : Selection) (model : Model) : Model :=
  { model with groups := cutGroups selection model.groups }

section Entries
variable {keep : Nat → Bool} {id : δ → Nat} {move : Nat → δ → δ} {topic : δ → String}
  {copies copies' : Value → Nat → δ → Prop}

/-- A record that stays is copied at its new position. -/
theorem Entries.cut (ids : ∀ record position device, copies record position device →
      id device = position)
    (moves : ∀ record position device, copies record position device →
      ∀ n, copies' record n (move n device))
    (topics : ∀ n device, topic (move n device) = topic device) {start : Nat}
    {records : List Value} {entries : List (String × δ)}
    (h : Entries copies topic start records entries) :
    Entries copies' topic (newPosition keep start)
      ((staying keep start records).map Prod.fst) (cutEntries keep id move entries) := by
  induction records generalizing start entries with
  | nil =>
      rw [Entries, List.zipIdx_nil, List.forall₂_nil_left_iff] at h
      subst h
      exact .nil
  | cons record records ih =>
      rw [Entries, List.zipIdx_cons, List.forall₂_cons_left_iff] at h
      obtain ⟨entry, rest, ⟨key, copied⟩, others, rfl⟩ := h
      have here : id entry.2 = start := ids _ _ _ copied
      have behind := ih others
      cases stays : keep start with
      | true =>
          rw [newPosition_succ_of_keep stays] at behind
          rw [staying_cons_of_keep stays, cutEntries, List.filter_cons_of_pos (by rw [here, stays]),
            List.map_cons, List.map_cons, Entries, List.zipIdx_cons, here]
          refine .cons ⟨?_, moves _ _ _ copied _⟩ behind
          rw [topics, ← key]
      | false =>
          rw [newPosition_succ_of_drop stays] at behind
          rw [staying_cons_of_drop stays, cutEntries,
            List.filter_cons_of_neg (by simp [here, stays])]
          exact behind

end Entries

section Cut
variable {keep : Nat → Bool} {scene other : Value} {position : Nat}

/-- Whatever a device needs of the number of devices, it has among fewer. -/
theorem SensorDevice.Fits.mono {count fewer : Nat} {device : SensorDevice}
    (h : device.Fits count) (fewer_le : fewer ≤ count) : device.Fits fewer :=
  fun json combined => Nat.le_trans fewer_le (h json combined)

theorem DeviceGroup.Copies.cut {copies : (count : Nat) → Value → Nat → δ → Prop}
    {topic : δ → String} {id : δ → Nat} {move : Nat → δ → δ} {group : DeviceGroup δ}
    {records : List Value} (h : group.Copies copies topic scene position)
    (ids : ∀ count record position device, copies count record position device →
      id device = position)
    (moves : ∀ count fewer record position device, fewer ≤ count →
      copies count record position device → ∀ n, copies fewer record n (move n device))
    (topics : ∀ n device, topic (move n device) = topic device)
    (listed : scene.get? "devices" = some (.array records))
    (left : Value.Sets "devices" (.array (remaining keep records)) scene other) (n : Nat) :
    (group.cut keep id move n).Copies copies topic other n := by
  obtain ⟨_, name, icon, others, same, entries⟩ := h
  rw [listed] at same
  cases same
  refine ⟨rfl, ?_, ?_, remaining keep records, left.here, ?_⟩
  · rw [left.rest "name" (by decide)]
    exact name
  · rw [left.rest "icon" (by decide)]
    exact icon
  · exact entries.cut (ids _) (fun _ _ _ => moves _ _ _ _ _ (length_remaining_le records)) topics

theorem Group.Copies.cut {group : Group} {records : List Value}
    (h : group.Copies scene position) (listed : scene.get? "devices" = some (.array records))
    (left : Value.Sets "devices" (.array (remaining keep records)) scene other) (n : Nat) :
    (group.cut keep n).Copies other n := by
  cases group with
  | switch group =>
      apply DeviceGroup.Copies.cut h ?_ ?_ ?_ listed left
      · intro count record position device copies
        exact copies.id
      · intro count fewer record position device _ copies n
        exact { copies with id := rfl }
      · intro n device
        rfl
  | sensor group =>
      apply DeviceGroup.Copies.cut h ?_ ?_ ?_ listed left
      · intro count record position device copies
        exact copies.1.id
      · intro count fewer record position device fewer_le copies n
        exact ⟨{ copies.1 with id := rfl }, copies.2.mono fewer_le⟩
      · intro n device
        rfl

theorem Group.kind_cut (group : Group) : (group.cut keep position).kind = group.kind := by
  cases group with
  | switch => rfl
  | sensor => rfl

/-- A cut scene has the type that it had. -/
theorem SceneCut.get?_type (h : SceneCut keep scene other) :
    other.get? "type" = scene.get? "type" := by
  rw [SceneCut] at h
  cases known : sceneKind? scene with
  | none =>
      rw [known] at h
      rw [h]
  | some kind =>
      rw [known] at h
      obtain ⟨_, _, left⟩ := h
      exact left.rest "type" (by decide)

theorem SceneCut.sceneKind?_eq (h : SceneCut keep scene other) :
    sceneKind? other = sceneKind? scene :=
  sceneKind?_congr h.get?_type

/-- A scene that stays makes the cut group at its new position. -/
theorem SceneCut.copies {group : Group} (h : SceneCut keep scene other)
    (made : sceneKind? scene = some group.kind ∧ group.Copies scene position) (n : Nat) :
    sceneKind? other = some (group.cut keep n).kind ∧ (group.cut keep n).Copies other n := by
  refine ⟨?_, ?_⟩
  · rw [h.sceneKind?_eq, made.1, Group.kind_cut]
  · rw [SceneCut, made.1] at h
    obtain ⟨_, listed, left⟩ := h
    exact made.2.cut listed left n

end Cut

section Scenes
variable {selection : Selection} {start : Nat}

theorem cutGroups_cons_of_keep {group : Group} (h : selection.scenes group.id = true)
    (groups : List Group) :
    cutGroups selection (group :: groups) =
      group.cut (selection.devices group.id) (newPosition selection.scenes group.id) ::
        cutGroups selection groups := by
  simp only [cutGroups, List.filter_cons, h, if_true, List.map_cons]

theorem cutGroups_cons_of_drop {group : Group} (h : selection.scenes group.id = false)
    (groups : List Group) : cutGroups selection (group :: groups) = cutGroups selection groups := by
  simp only [cutGroups, List.filter_cons, h, Bool.false_eq_true, if_false]

/-- The scenes that stay make the groups that stay. -/
theorem Groups.cut {scenes others : List Value} {groups : List Group}
    (h : Groups start scenes groups) (cut : ScenesCut selection start scenes others) :
    Groups (newPosition selection.scenes start) others (cutGroups selection groups) := by
  -- On the scenes: one that is deleted takes an old position and no new one, and one that is
  -- passed over takes both and makes no group.
  induction scenes generalizing start groups others with
  | nil =>
      rw [Groups, knownScenes, List.zipIdx_nil, List.filter_nil,
        List.forall₂_nil_left_iff] at h
      rw [ScenesCut, staying, List.zipIdx_nil, List.filter_nil, List.forall₂_nil_left_iff] at cut
      subst h cut
      exact .nil
  | cons scene scenes ih =>
      cases stays : selection.scenes start with
      | false =>
          rw [ScenesCut, staying_cons_of_drop stays] at cut
          rw [← newPosition_succ_of_drop stays]
          cases known : sceneKind? scene with
          | none =>
              rw [Groups, knownScenes_cons_none known] at h
              exact ih h cut
          | some kind =>
              rw [Groups, knownScenes_cons_some known, List.forall₂_cons_left_iff] at h
              obtain ⟨group, rest, made, behind, rfl⟩ := h
              rw [cutGroups_cons_of_drop (by rw [made.2.id_eq, stays])]
              exact ih behind cut
      | true =>
          rw [ScenesCut, staying_cons_of_keep stays, List.forall₂_cons_left_iff] at cut
          obtain ⟨other, others, here, cut, rfl⟩ := cut
          cases known : sceneKind? scene with
          | none =>
              rw [Groups, knownScenes_cons_none known] at h
              rw [Groups, knownScenes_cons_none (here.sceneKind?_eq.trans known),
                ← newPosition_succ_of_keep stays]
              exact ih h cut
          | some kind =>
              rw [Groups, knownScenes_cons_some known, List.forall₂_cons_left_iff] at h
              obtain ⟨group, rest, made, behind, rfl⟩ := h
              have id : group.id = start := made.2.id_eq
              rw [Groups, knownScenes_cons_some (here.sceneKind?_eq.trans known),
                cutGroups_cons_of_keep (by rw [id, stays]), id, ← newPosition_succ_of_keep stays]
              exact .cons (here.copies made _) (ih behind cut)

theorem ScenesCut.hasText {scenes others : List Value}
    (h : ScenesCut selection start scenes others)
    (typed : ∀ scene ∈ scenes, scene.HasText "type") :
    ∀ other ∈ others, other.HasText "type" := by
  intro other member
  obtain ⟨⟨scene, position⟩, stays, cut⟩ := exists_of_forall₂_right h other member
  have scene_mem : scene ∈ scenes :=
    List.fst_mem_of_mem_zipIdx (List.mem_of_mem_filter stays)
  rw [Value.HasText, cut.get?_type]
  exact typed scene scene_mem

end Scenes

theorem Model.CopiesHead.set_scenes {document other value : Value} {model : Model}
    (h : model.CopiesHead document) (set : Value.Sets "scenes" value document other) :
    model.CopiesHead other := by
  obtain ⟨ssid, password, timezone, address, username, secret⟩ := h
  constructor <;> rw [set.rest _ (by decide)] <;> assumption

/-- What is left of an accepted document is accepted, with what is left of the model. -/
theorem ofDocument_cut {selection : Selection} {document other : Value} {model : Model}
    (accepted : (Model.ofDocument document).result = .ok model)
    (cut : DocumentCut selection document other) :
    (Model.ofDocument other).result = .ok (model.cut selection) := by
  rw [Model.result_ofDocument_eq_ok_iff] at accepted ⊢
  obtain ⟨head, scenes, listed, typed, made⟩ := accepted
  obtain ⟨same, others, listed', left, set⟩ := cut
  rw [listed] at listed'
  cases listed'
  exact ⟨{ head.set_scenes set with }, others, set.here, left.hasText typed, made.cut left⟩

/-- All but the scene passed over and the first switch of the sample. -/
def sampleSelection : Selection where
  scenes := fun i => i != 0
  devices := fun i j => i != 1 || j != 0

def cutSample : Value :=
  homeDocument [("timezone", .string "CET-1")] [
    .object [("type", .string "Light"), ("name", .string "Hall"), ("icon", .string "bulb"),
      ("devices", .array [
        .object [("name", .string "Spot"), ("getTopic", .string "hall/get"),
          ("setTopic", .string "hall/spot"), ("onValue", .string "on"),
          ("offValue", .string "off")]])],
    .object [("type", .string "Sensor"), ("name", .string "Air"), ("icon", .string "cloud"),
      ("devices", .array [
        .object [("name", .string "Climate"), ("getTopic", .string "air"),
          ("type", .string "TemperatureHumidity"), ("jsondata", .bool true),
          ("temperature", .string "T"), ("humidity", .string "H")]])]]

theorem documentCut_sample : DocumentCut sampleSelection sampleDocument cutSample := by
  refine ⟨_, _, rfl, ?_, .of_filter rfl rfl⟩
  exact .cons ⟨_, rfl, .of_filter rfl rfl⟩ (.cons ⟨_, rfl, .of_filter rfl rfl⟩ .nil)

/-- The switch that is left becomes the first, and the groups move up by one. -/
theorem ofDocument_cut_sample :
    (Model.ofDocument sampleDocument).result = .ok sampleModel ∧
      DocumentCut sampleSelection sampleDocument cutSample ∧
      (Model.ofDocument cutSample).result = .ok
        { sampleModel with
          groups := [
            .switch ⟨0, "Hall", "bulb",
              ⟨[("hall/get", ⟨0, "Spot", "hall/get", "hall/spot", "on", "off"⟩)]⟩⟩,
            .sensor ⟨1, "Air", "cloud",
              ⟨[("air", ⟨0, "Climate", "air", .temperatureHumidity, .json,
                [⟨"temperature", "T", "0"⟩, ⟨"humidity", "H", "0"⟩]⟩)]⟩⟩] } :=
  ⟨rfl, documentCut_sample, ofDocument_cut rfl documentCut_sample⟩

end SceneConfig
