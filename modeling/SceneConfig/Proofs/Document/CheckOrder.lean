/- The order of the checks: those of a node come before those of what it holds, and nodes come in
   the order of their places. Every document makes its checks in this order. -/
import SceneConfig.Proofs.Document.Ends

namespace SceneConfig
open Json (Value)
variable {document : Value}

/-- What one check looks at in a node. -/
inductive Step where
  | object
  | member (key : String)
  | sensorName
  | alone
deriving DecidableEq

/-- The positions that lead to a node from the root. -/
def Place.path : Place → List Nat
  | .document => []
  | .scene i => [i]
  | .device i j => [i, j]

namespace Step

def ofDocument : List Step :=
  ["wifi", "password", "timezone", "mqttbroker", "mqttusername", "mqttpasswd", "scenes"].map .member

def ofScene : List Step :=
  .object :: ["type", "name", "icon", "devices"].map .member

/-- Steps of switches and steps of sensors; no device takes all of them. -/
def ofDevice : List Step :=
  .object :: ["name", "getTopic", "setTopic", "onValue", "offValue", "type"].map .member ++
    [.sensorName, .member "jsondata", .alone] ++
    ["temperature", "humidity", "pressure", "illuminance"].map .member

end Step

/-- The steps that may be taken at a node, in order. -/
def Place.steps : Place → List Step
  | .document => Step.ofDocument
  | .scene _ => Step.ofScene
  | .device _ _ => Step.ofDevice

structure Checkpoint where
  place : Place
  step : Step
deriving DecidableEq

namespace Checkpoint

def rank (point : Checkpoint) : Nat :=
  point.place.steps.idxOf point.step

/-- Earlier in the document, or an earlier step at the same node. -/
def Before (point other : Checkpoint) : Prop :=
  point.place.path < other.place.path ∨ point.place = other.place ∧ point.rank < other.rank

theorem Before.irrefl (point : Checkpoint) : ¬ point.Before point := by
  intro h
  rcases h with path | ⟨_, rank⟩
  · exact List.lt_irrefl _ path
  · exact Nat.lt_irrefl _ rank

theorem Before.trans {point other last : Checkpoint} (h : point.Before other)
    (h' : other.Before last) : point.Before last := by
  rcases h with path | ⟨place, rank⟩
  · rcases h' with path' | ⟨place', _⟩
    · exact .inl (List.lt_trans path path')
    · exact .inl (place' ▸ path)
  · rcases h' with path' | ⟨place', rank'⟩
    · exact .inl (place ▸ path')
    · exact .inr ⟨place.trans place', Nat.lt_trans rank rank'⟩

end Checkpoint

def Demand.step : Demand → Step
  | .member key _ _ => .member key
  | .object => .object
  | .sensorName => .sensorName
  | .alone _ => .alone

/-- The place of an element of `devices`; only scenes have such elements. -/
def Place.slot (j : Nat) : Place → Place
  | .scene i => .device i j
  | place => place

/-- Where the check was made that reported the fault. The slot of an array is checked at the place
of its element. -/
def Fault.checkpoint : Fault Place → Checkpoint
  | .missing key place => ⟨place, .member key⟩
  | .wrongShape (.member key) place _ => ⟨place, .member key⟩
  | .wrongShape (.scene i) _ _ => ⟨.scene i, .object⟩
  | .wrongShape (.device j) place _ => ⟨place.slot j, .object⟩
  | .unknownSensor _ place => ⟨place, .sensorName⟩
  | .notAlone _ _ place => ⟨place, .alone⟩

namespace Check

def checkpoint (check : Check) : Checkpoint :=
  ⟨check.place, check.demand.step⟩

def Before (check other : Check) : Prop :=
  check.checkpoint.Before other.checkpoint

theorem Reports.checkpoint_eq {check : Check} {fault : Fault Place}
    (h : check.Reports document fault) : fault.checkpoint = check.checkpoint := by
  obtain ⟨place, demand⟩ := check
  obtain ⟨node, _, blames⟩ := h
  simp only at blames
  cases blames <;> rfl

theorem before_of_place {check other : Check} {place place' : Place} (h : check.place = place)
    (h' : other.place = place') (lt : place.path < place'.path) : check.Before other := by
  refine .inl ?_
  rw [checkpoint, checkpoint, h, h']
  exact lt

/-- Checks at one place are in order when their steps are. -/
theorem pairwise_before (place : Place) {checks : List Check}
    (here : ∀ check ∈ checks, check.place = place)
    (steps : (checks.map fun check => place.steps.idxOf check.demand.step).Pairwise (· < ·)) :
    checks.Pairwise Before := by
  apply (List.pairwise_map.mp steps).imp_of_mem
  intro check other member member' lt
  refine .inr ⟨(here check member).trans (here other member').symm, ?_⟩
  rw [Checkpoint.rank, Checkpoint.rank, checkpoint, checkpoint, here check member,
    here other member']
  exact lt

theorem pairwise_ofHead : ofHead.Pairwise Before := by
  apply pairwise_before .document
  · decide
  · decide

theorem place_of_mem_ofRecord {check : Check} {kind : GroupKind} {record : Value} {count : Nat}
    {place : Place} (h : check ∈ ofRecord kind record count place) : check.place = place := by
  rcases List.mem_cons.mp h with rfl | device
  · rfl
  · exact place_of_mem_ofDevice device

/-- Which kind of sensor it is only decides on the readings. -/
theorem pairwise_ofRecord (kind : GroupKind) (record : Value) (count i j : Nat) :
    (ofRecord kind record count (.device i j)).Pairwise Before := by
  apply pairwise_before (.device i j) (fun _ => place_of_mem_ofRecord)
  cases kind with
  | switch => exact of_decide_eq_true rfl
  | sensor =>
      rw [ofRecord, ofDevice, ofSensor, ofReadings]
      split
      · split
        · rename_i kind _
          cases kind <;> exact of_decide_eq_true rfl
        · exact of_decide_eq_true rfl
      · exact of_decide_eq_true rfl

/-- The checks at a scene itself. -/
def ofOwn (scene : Value) (position : Nat) : List Check :=
  [⟨.scene position, .object⟩, text (.scene position) "type"] ++
    if (sceneKind? scene).isSome then
      [text (.scene position) "name", text (.scene position) "icon",
        ⟨.scene position, .member "devices" .list true⟩]
    else []

/-- The checks at the devices of a scene. -/
def ofDevices (scene : Value) (position : Nat) : List Check :=
  let records := (scene.getItems? "devices").getD []
  match sceneKind? scene with
  | some kind => ofRecords kind position records.length 0 records
  | none => []

theorem ofScene_eq (scene : Value) (position : Nat) :
    ofScene scene position = ofOwn scene position ++ ofDevices scene position := by
  rw [ofScene, ofOwn, ofDevices]
  cases sceneKind? scene with
  | none => rfl
  | some kind => rfl

theorem mem_ofScene_iff {check : Check} {scene : Value} {position : Nat} :
    check ∈ ofScene scene position ↔
      check ∈ ofOwn scene position ∨ check ∈ ofDevices scene position := by
  rw [ofScene_eq, List.mem_append]

theorem place_of_mem_ofOwn {check : Check} {scene : Value} {position : Nat}
    (h : check ∈ ofOwn scene position) : check.place = .scene position := by
  rw [ofOwn] at h
  split at h <;> simp only [List.mem_append, List.mem_cons, List.not_mem_nil, or_false] at h
  · rcases h with (rfl | rfl) | rfl | rfl | rfl <;> rfl
  · rcases h with rfl | rfl <;> rfl

theorem pairwise_ofOwn (scene : Value) (position : Nat) :
    (ofOwn scene position).Pairwise Before := by
  apply pairwise_before (.scene position) (fun _ => place_of_mem_ofOwn)
  rw [ofOwn]
  split <;> exact of_decide_eq_true rfl

theorem mem_ofDevices_iff {check : Check} {scene : Value} {position : Nat} :
    check ∈ ofDevices scene position ↔
      ∃ kind j record, sceneKind? scene = some kind ∧ scene.item? "devices" j = some record ∧
        check ∈ ofRecord kind record ((scene.getItems? "devices").getD []).length
          (.device position j) := by
  rw [ofDevices]
  cases sceneKind? scene with
  | none => simp
  | some kind =>
      simp only [ofRecords, List.mem_flatMap, Prod.exists, List.mk_mem_zipIdx_iff_getElem?,
        Value.getElem?_getD_getItems?, Option.some.injEq]
      constructor
      · rintro ⟨record, j, slot, asked⟩
        exact ⟨kind, j, record, rfl, slot, asked⟩
      · rintro ⟨_, j, record, rfl, slot, asked⟩
        exact ⟨record, j, slot, asked⟩

theorem place_of_mem_ofDevices {check : Check} {scene : Value} {position : Nat}
    (h : check ∈ ofDevices scene position) : ∃ j, check.place = .device position j := by
  obtain ⟨_, j, _, _, _, h⟩ := mem_ofDevices_iff.mp h
  exact ⟨j, place_of_mem_ofRecord h⟩

/-- A scene and its devices lie behind the position of the scene. -/
theorem path_of_mem_ofScene {check : Check} {scene : Value} {position : Nat}
    (h : check ∈ ofScene scene position) : ∃ rest, check.place.path = position :: rest := by
  rcases mem_ofScene_iff.mp h with own | device
  · rw [place_of_mem_ofOwn own]
    exact ⟨[], rfl⟩
  · obtain ⟨j, place⟩ := place_of_mem_ofDevices device
    rw [place]
    exact ⟨[j], rfl⟩

/-- The elements of an array are checked in turn. -/
theorem pairwise_elements {checks : Value × Nat → List Check} (items : List Value)
    (each : ∀ item, (checks item).Pairwise Before)
    (apart : ∀ item later, item.2 < later.2 →
      ∀ check ∈ checks item, ∀ other ∈ checks later, check.Before other) :
    (items.zipIdx.flatMap checks).Pairwise Before := by
  have positions : items.zipIdx.Pairwise fun item later => item.2 < later.2 := by
    rw [← List.pairwise_map, List.zipIdx_map_snd]
    exact List.pairwise_lt_range' 1
  rw [List.pairwise_flatMap]
  exact ⟨fun item _ => each item, positions.imp fun lt => apart _ _ lt⟩

theorem pairwise_ofDevices (scene : Value) (position : Nat) :
    (ofDevices scene position).Pairwise Before := by
  rw [ofDevices]
  cases sceneKind? scene with
  | none => exact .nil
  | some kind =>
      apply pairwise_elements
      · intro record
        exact pairwise_ofRecord _ _ _ _ _
      · intro record later lt check asked other asked'
        exact before_of_place (place_of_mem_ofRecord asked) (place_of_mem_ofRecord asked')
          (List.Lex.cons (.rel lt))

theorem pairwise_ofScene (scene : Value) (position : Nat) :
    (ofScene scene position).Pairwise Before := by
  rw [ofScene_eq, List.pairwise_append]
  refine ⟨pairwise_ofOwn _ _, pairwise_ofDevices _ _, ?_⟩
  intro check own other device
  obtain ⟨j, place⟩ := place_of_mem_ofDevices device
  exact before_of_place (place_of_mem_ofOwn own) place (List.Lex.cons .nil)

theorem place_of_mem_ofHead : ∀ check ∈ ofHead, check.place = .document := by
  decide

/-- A document asks for its checks in order. -/
theorem pairwise_ofDocument (document : Value) : (ofDocument document).Pairwise Before := by
  rw [ofDocument, List.pairwise_append]
  refine ⟨pairwise_ofHead, ?_, ?_⟩
  · apply pairwise_elements
    · intro scene
      exact pairwise_ofScene _ _
    · intro scene later lt check asked other asked'
      obtain ⟨rest, path⟩ := path_of_mem_ofScene asked
      obtain ⟨rest', path'⟩ := path_of_mem_ofScene asked'
      refine .inl ?_
      rw [checkpoint, checkpoint, path, path']
      exact .rel lt
  · intro check head other inside
    obtain ⟨i, scene, _, asked⟩ := mem_ofScenes inside
    obtain ⟨rest, path⟩ := path_of_mem_ofScene asked
    refine .inl ?_
    rw [checkpoint, checkpoint, place_of_mem_ofHead check head, path]
    exact .nil

theorem mem_ofDocument_iff {check : Check} :
    check ∈ ofDocument document ↔ check ∈ ofHead ∨
      ∃ i scene, document.item? "scenes" i = some scene ∧
        (check ∈ ofOwn scene i ∨ check ∈ ofDevices scene i) := by
  simp only [ofDocument, List.mem_append, ofScenes, List.mem_flatMap, Prod.exists,
    List.mk_mem_zipIdx_iff_getElem?, Value.getElem?_getD_getItems?, mem_ofScene_iff]
  rw [exists_comm]

theorem mem_ofDocument_of_own {check : Check} {scene : Value} {i : Nat}
    (found : document.item? "scenes" i = some scene) (h : check ∈ ofOwn scene i) :
    check ∈ ofDocument document :=
  mem_ofDocument_iff.mpr (.inr ⟨i, scene, found, .inl h⟩)

theorem mem_ofDocument_of_devices {check : Check} {scene : Value} {i : Nat}
    (found : document.item? "scenes" i = some scene) (h : check ∈ ofDevices scene i) :
    check ∈ ofDocument document :=
  mem_ofDocument_iff.mpr (.inr ⟨i, scene, found, .inr h⟩)

end Check

/-- The check that reports a fault is the earliest that does not pass. -/
theorem FirstFault.earliest {fault : Fault Place}
    (h : FirstFault document (Check.ofDocument document) fault) :
    ∃ check ∈ Check.ofDocument document, check.Reports document fault ∧
      ∀ other ∈ Check.ofDocument document,
        check.Before other ∨ other = check ∨ other.Passes document := by
  obtain ⟨before, check, after, split, passes, _, reports⟩ := h
  have sorted := Check.pairwise_ofDocument document
  rw [split] at sorted ⊢
  refine ⟨check, List.mem_append_right before List.mem_cons_self, reports, ?_⟩
  intro other member
  rcases List.mem_append.mp member with earlier | rest
  · exact .inr (.inr (passes other earlier))
  · rcases List.mem_cons.mp rest with same | later
    · exact .inr (.inl same)
    · have behind := (List.pairwise_append.mp sorted).2.1
      exact .inl (List.rel_of_pairwise_cons behind later)

/-- Compiling makes its checks in order and stops at the first that fails. -/
structure ChecksInOrder (document : Value) : Prop where
  sorted : (Check.ofDocument document).Pairwise Check.Before
  performed : Performs document (Check.ofDocument document) (Model.ofDocument document).result
  stopped : ∀ fault, (Model.ofDocument document).result = .error fault →
    ∃ check ∈ Check.ofDocument document, check.checkpoint = fault.checkpoint ∧
      ¬ check.Passes document ∧
      ∀ earlier ∈ Check.ofDocument document, earlier.Before check → earlier.Passes document

theorem firstFault_of_rejected {fault : Fault Place}
    (rejected : (Model.ofDocument document).result = .error fault) :
    FirstFault document (Check.ofDocument document) fault := by
  have performed : Performs document (Check.ofDocument document)
      (Model.ofDocument document).result := performs_ofDocument
  rwa [rejected] at performed

theorem checksInOrder (document : Value) : ChecksInOrder document := by
  refine ⟨Check.pairwise_ofDocument document, performs_ofDocument, ?_⟩
  intro fault rejected
  obtain ⟨check, asked, reports, reached⟩ := (firstFault_of_rejected rejected).earliest
  refine ⟨check, asked, reports.checkpoint_eq.symm, reports.not_passes, ?_⟩
  intro earlier member before
  rcases reached earlier member with after | rfl | passes
  · exact absurd (before.trans after) (Checkpoint.Before.irrefl _)
  · exact absurd before (Checkpoint.Before.irrefl _)
  · exact passes

end SceneConfig
