/- The checks that a document has to pass, in the order in which compiling makes them.
   Of the checks of a document, those of a scene depend on its type, those of a sensor on its
   type and flag. A fault is reported for the first check that fails. -/
import SceneConfig.Proofs.Document.Places
import SceneConfig.Proofs.Document.SceneCopies

namespace SceneConfig
open Json (Value)
variable {α : Type}

def Shape.Fits : Shape → Value → Prop
  | .text, value => ∃ s, value = .string s
  | .flag, value => ∃ b, value = .bool b
  | .list, value => ∃ items, value = .array items
  | .record, value => ∃ members, value = .object members

/-- What is asked of one node. -/
inductive Demand where
  /-- A member of this type; one that is not required may be absent. -/
  | member (key : String) (shape : Shape) (required : Bool)
  | object
  | sensorName
  /-- The device is one of `count`, which a combined sensor may not be unless it is alone. -/
  | alone (count : Nat)

namespace Demand

def Met (node : Value) : Demand → Prop
  | .member key shape required =>
    (required = false ∧ node.get? key = none) ∨
      ∃ value, node.get? key = some value ∧ shape.Fits value
  | .object => Shape.record.Fits node
  | .sensorName => ∃ kind : SensorKind, node.get? "type" = some (.string kind.name)
  | .alone count =>
    count ≤ 1 ∨ node.get? "type" ≠ some (.string SensorKind.temperatureHumidity.name)

/-- The fault that a node at a place has when it does not do what is asked of it. The slot of an
array is blamed on the node that holds the array. -/
inductive Blames (node : Value) : Demand → Place → Fault Place → Prop
  | missing {key shape place} : node.get? key = none →
      Blames node (.member key shape true) place (.missing key place)
  | wrongShape {key shape required place value} : node.get? key = some value →
      ¬ shape.Fits value →
      Blames node (.member key shape required) place (.wrongShape (.member key) place shape)
  | scene {i} : ¬ Shape.record.Fits node →
      Blames node .object (.scene i) (.wrongShape (.scene i) .document .record)
  | device {i j} : ¬ Shape.record.Fits node →
      Blames node .object (.device i j) (.wrongShape (.device j) (.scene i) .record)
  | unknownSensor {name place} : node.get? "type" = some (.string name) →
      (∀ kind : SensorKind, kind.name ≠ name) →
      Blames node .sensorName place (.unknownSensor name place)
  | notAlone {kind count place} : node.get? "type" = some (.string kind.name) →
      kind = .temperatureHumidity → 1 < count →
      Blames node (.alone count) place (.notAlone kind count place)

theorem Blames.not_met {node : Value} {demand : Demand} {place : Place} {fault : Fault Place}
    (h : Blames node demand place fault) : ¬ demand.Met node := by
  cases h with
  | missing absent =>
      intro h
      rcases h with ⟨optional, _⟩ | ⟨value, present, _⟩
      · cases optional
      · rw [absent] at present
        cases present
  | wrongShape present misfit =>
      intro h
      rcases h with ⟨_, absent⟩ | ⟨other, same, fits⟩
      · rw [present] at absent
        cases absent
      · rw [present] at same
        cases same
        exact misfit fits
  | scene misfit => exact misfit
  | device misfit => exact misfit
  | unknownSensor text unknown =>
      intro h
      obtain ⟨kind, same⟩ := h
      rw [text] at same
      cases same
      exact unknown kind rfl
  | notAlone text combined crowded =>
      subst combined
      intro h
      rcases h with alone | other
      · exact Nat.not_le.mpr crowded alone
      · exact other text

end Demand

structure Check where
  place : Place
  demand : Demand

namespace Check

def Passes (document : Value) (check : Check) : Prop :=
  ∃ node, check.place.node? document = some node ∧ check.demand.Met node

def Reports (document : Value) (check : Check) (fault : Fault Place) : Prop :=
  ∃ node, check.place.node? document = some node ∧ check.demand.Blames node check.place fault

theorem Reports.not_passes {document : Value} {check : Check} {fault : Fault Place}
    (h : check.Reports document fault) : ¬ check.Passes document := by
  obtain ⟨node, found, blames⟩ := h
  intro h
  obtain ⟨other, same, met⟩ := h
  rw [found] at same
  cases same
  exact blames.not_met met

def text (place : Place) (key : String) : Check := ⟨place, .member key .text true⟩

def ofHead : List Check :=
  [text .document "wifi", text .document "password",
    ⟨.document, .member "timezone" .text false⟩, text .document "mqttbroker",
    text .document "mqttusername", text .document "mqttpasswd",
    ⟨.document, .member "scenes" .list true⟩]

def ofSwitch (place : Place) : List Check :=
  ["name", "getTopic", "setTopic", "onValue", "offValue"].map (text place)

/-- The readings of a sensor are only asked for when its record says that it sends JSON. -/
def ofReadings (record : Value) (count : Nat) (place : Place) : List Check :=
  if record.getFlag? "jsondata" = some true then
    ⟨place, .alone count⟩ ::
      match (record.getText? "type").bind SensorKind.ofName? with
      | some kind => kind.readingKeys.map (text place)
      | none => []
  else []

def ofSensor (record : Value) (count : Nat) (place : Place) : List Check :=
  [text place "name", text place "getTopic", text place "type", ⟨place, .sensorName⟩,
    ⟨place, .member "jsondata" .flag false⟩] ++ ofReadings record count place

def ofDevice (kind : GroupKind) (record : Value) (count : Nat) (place : Place) : List Check :=
  match kind with
  | .switch => ofSwitch place
  | .sensor => ofSensor record count place

/-- The checks of a record among `count` records of a scene of this kind. -/
def ofRecord (kind : GroupKind) (record : Value) (count : Nat) (place : Place) : List Check :=
  ⟨place, .object⟩ :: ofDevice kind record count place

def ofRecords (kind : GroupKind) (scene count start : Nat) (records : List Value) : List Check :=
  (records.zipIdx start).flatMap fun record =>
    ofRecord kind record.1 count (.device scene record.2)

/-- The checks of what a scene of known kind holds. -/
def ofGroup (kind : GroupKind) (scene : Value) (position : Nat) : List Check :=
  let records := (scene.getItems? "devices").getD []
  [text (.scene position) "name", text (.scene position) "icon",
    ⟨.scene position, .member "devices" .list true⟩] ++
    ofRecords kind position records.length 0 records

def ofScene (scene : Value) (position : Nat) : List Check :=
  [⟨.scene position, .object⟩, text (.scene position) "type"] ++
    match sceneKind? scene with
    | some kind => ofGroup kind scene position
    | none => []

def ofScenes (start : Nat) (scenes : List Value) : List Check :=
  (scenes.zipIdx start).flatMap fun scene => ofScene scene.1 scene.2

/-- Every check of a document, in order. -/
def ofDocument (document : Value) : List Check :=
  ofHead ++ ofScenes 0 ((document.getItems? "scenes").getD [])

end Check

/-- The fault is that of the first check that fails. -/
def FirstFault (document : Value) (checks : List Check) (fault : Fault Place) : Prop :=
  ∃ before check after, checks = before ++ check :: after ∧
    (∀ earlier ∈ before, earlier.Passes document) ∧ ¬ check.Passes document ∧
      check.Reports document fault

/-- A reader makes these checks: it succeeds when all pass and else reports the first that fails. -/
def Performs (document : Value) (checks : List Check) : Except (Fault Place) α → Prop
  | .ok _ => ∀ check ∈ checks, check.Passes document
  | .error fault => FirstFault document checks fault

end SceneConfig
