/- A rejected document: the fault is that of the first check that fails, and it is true.
   The location of the fault, read from the root of the document, leads to the node that is
   blamed and to no other; read at that node, the field is what is blamed in it. -/
import SceneConfig.Proofs.Document.DocumentChecks

namespace SceneConfig
open Json (Value)
variable {document : Value}

/-- The place is that of `record`, one of the devices `records` of a sensor scene. -/
def AmongSensors (document : Value) (place : Place) (record : Value) (records : List Value) :
    Prop :=
  ∃ i j scene, place = .device i j ∧ (Place.scene i).node? document = some scene ∧
    HasType ["Sensor"] scene ∧ scene.get? "devices" = some (.array records) ∧
      records[j]? = some record

/-- A member that is asked for has no bracket in its key, as the slots of arrays have. -/
def Demand.Bare : Demand → Prop
  | .member key _ _ => '[' ∉ key.toList
  | .object | .sensorName | .alone _ => True

/-- Only the record of a sensor is asked for this. -/
def Demand.OfSensor : Demand → Prop
  | .member _ _ _ => False
  | .object => False
  | .sensorName => True
  | .alone _ => True

namespace Check

theorem mem_ofRecords {check : Check} {kind : GroupKind} {scene count : Nat}
    {records : List Value} (h : check ∈ ofRecords kind scene count 0 records) :
    ∃ j record, records[j]? = some record ∧
      check ∈ ofRecord kind record count (.device scene j) := by
  obtain ⟨⟨record, j⟩, member, h⟩ := List.mem_flatMap.mp h
  exact ⟨j, record, List.mk_mem_zipIdx_iff_getElem?.mp member, h⟩

theorem mem_ofScenes {check : Check} {scenes : List Value} (h : check ∈ ofScenes 0 scenes) :
    ∃ i scene, scenes[i]? = some scene ∧ check ∈ ofScene scene i := by
  obtain ⟨⟨scene, i⟩, member, h⟩ := List.mem_flatMap.mp h
  exact ⟨i, scene, List.mk_mem_zipIdx_iff_getElem?.mp member, h⟩

theorem bare_ofReadings (record : Value) (count : Nat) (place : Place) :
    ∀ check ∈ ofReadings record count place, check.demand.Bare := by
  rw [ofReadings]
  split
  · rw [List.forall_mem_cons]
    refine ⟨trivial, ?_⟩
    cases (record.getText? "type").bind SensorKind.ofName? with
    | none => exact List.forall_mem_nil _
    | some kind =>
        have bare : ∀ key ∈ kind.readingKeys, '[' ∉ key.toList := by cases kind <;> decide
        exact List.forall_mem_map.mpr bare
  · exact List.forall_mem_nil _

theorem bare_ofRecord (kind : GroupKind) (record : Value) (count : Nat) (place : Place) :
    ∀ check ∈ ofRecord kind record count place, check.demand.Bare := by
  rw [ofRecord, List.forall_mem_cons]
  refine ⟨trivial, ?_⟩
  cases kind with
  | switch => simp [ofDevice, ofSwitch, text, Demand.Bare]
  | sensor =>
      rw [ofDevice, ofSensor, List.forall_mem_append]
      exact ⟨by simp [text, Demand.Bare], bare_ofReadings record count place⟩

theorem bare_ofScene (scene : Value) (position : Nat) :
    ∀ check ∈ ofScene scene position, check.demand.Bare := by
  rw [ofScene, List.forall_mem_append]
  refine ⟨by simp [text, Demand.Bare], ?_⟩
  cases sceneKind? scene with
  | none => exact List.forall_mem_nil _
  | some kind =>
      change ∀ check ∈ ofGroup kind scene position, check.demand.Bare
      rw [ofGroup, List.forall_mem_append]
      refine ⟨by simp [text, Demand.Bare], ?_⟩
      intro check member
      obtain ⟨j, record, _, own⟩ := mem_ofRecords member
      exact bare_ofRecord kind record _ _ check own

theorem bare_ofDocument (document : Value) : ∀ check ∈ ofDocument document, check.demand.Bare := by
  rw [ofDocument, List.forall_mem_append]
  refine ⟨by simp [ofHead, text, Demand.Bare], ?_⟩
  intro check member
  obtain ⟨i, scene, _, own⟩ := mem_ofScenes member
  exact bare_ofScene scene i check own

theorem mem_ofDevice {check : Check} {kind : GroupKind} {record : Value} {count : Nat}
    {place : Place} (h : check ∈ ofDevice kind record count place)
    (asked : check.demand.OfSensor) : kind = .sensor ∧ check ∈ ofSensor record count place := by
  cases kind with
  | switch =>
      obtain ⟨key, _, rfl⟩ := List.mem_map.mp h
      cases asked
  | sensor => exact ⟨rfl, h⟩

theorem mem_ofReadings {check : Check} {record : Value} {count : Nat} {place : Place}
    (h : check ∈ ofReadings record count place) (asked : check.demand.OfSensor) :
    check = ⟨place, .alone count⟩ ∧ record.get? "jsondata" = some (.bool true) := by
  rw [ofReadings] at h
  split at h
  · rename_i flag
    refine ⟨?_, Value.getFlag?_eq_some_iff.mp flag⟩
    rcases List.mem_cons.mp h with same | reading
    · exact same
    · split at reading
      · obtain ⟨key, _, rfl⟩ := List.mem_map.mp reading
        cases asked
      · cases reading
  · cases h

theorem mem_ofSensor {check : Check} {record : Value} {count : Nat} {place : Place}
    (h : check ∈ ofSensor record count place) (asked : check.demand.OfSensor) :
    check = ⟨place, .sensorName⟩ ∨
      check = ⟨place, .alone count⟩ ∧ record.get? "jsondata" = some (.bool true) := by
  rcases List.mem_append.mp h with member | reading
  · simp only [List.mem_cons, List.not_mem_nil, or_false] at member
    rcases member with rfl | rfl | rfl | rfl | rfl
    · cases asked
    · cases asked
    · cases asked
    · exact .inl rfl
    · cases asked
  · exact .inr (mem_ofReadings reading asked)

theorem mem_ofGroup {check : Check} {kind : GroupKind} {scene : Value} {position : Nat}
    (h : check ∈ ofGroup kind scene position) (asked : check.demand.OfSensor) :
    kind = .sensor ∧ ∃ records j record, scene.get? "devices" = some (.array records) ∧
      records[j]? = some record ∧
        check ∈ ofSensor record records.length (.device position j) := by
  rcases List.mem_append.mp h with member | inside
  · simp only [List.mem_cons, List.not_mem_nil, or_false] at member
    rcases member with rfl | rfl | rfl <;> cases asked
  · obtain ⟨j, record, slot, h⟩ := mem_ofRecords inside
    rcases List.mem_cons.mp h with rfl | device
    · cases asked
    · obtain ⟨sensor, h⟩ := mem_ofDevice device asked
      rw [Value.getElem?_getD_getItems?] at slot
      obtain ⟨records, list, slot⟩ := Value.item?_eq_some_iff.mp slot
      rw [Value.getItems?_eq_some_iff.mpr list] at h
      exact ⟨sensor, records, j, record, list, slot, h⟩

/-- What is only asked of sensors is asked at a record of a sensor scene. -/
theorem mem_ofDocument {check : Check} (h : check ∈ ofDocument document)
    (asked : check.demand.OfSensor) :
    ∃ record records, AmongSensors document check.place record records ∧
      check ∈ ofSensor record records.length check.place := by
  rcases List.mem_append.mp h with member | inside
  · simp only [ofHead, List.mem_cons, List.not_mem_nil, or_false] at member
    rcases member with rfl | rfl | rfl | rfl | rfl | rfl | rfl <;> cases asked
  · obtain ⟨i, scene, slot, h⟩ := mem_ofScenes inside
    have found : (Place.scene i).node? document = some scene := by
      rw [Place.node?, ← Value.getElem?_getD_getItems?]
      exact slot
    rcases List.mem_append.mp h with member | group
    · simp only [List.mem_cons, List.not_mem_nil, or_false] at member
      rcases member with rfl | rfl <;> cases asked
    · cases known : sceneKind? scene with
      | none =>
          rw [known] at group
          cases group
      | some kind =>
          rw [known] at group
          obtain ⟨rfl, records, j, record, list, slot, h⟩ := mem_ofGroup group asked
          have place : check.place = .device i j := by
            rcases mem_ofSensor h asked with rfl | ⟨rfl, _⟩
            · rfl
            · rfl
          rw [place]
          exact ⟨record, records, ⟨i, j, scene, rfl, found, sceneKind?_eq_some_iff.mp known, list,
            slot⟩, h⟩

end Check

theorem AmongSensors.found {place : Place} {record : Value} {records : List Value}
    (h : AmongSensors document place record records) : place.node? document = some record := by
  obtain ⟨i, j, scene, rfl, scenes, _, list, slot⟩ := h
  exact Option.bind_eq_some_iff.mpr ⟨scene, scenes, Value.item?_eq_some_iff.mpr ⟨_, list, slot⟩⟩

/-- What is of the wrong shape: a member of the node, or an element of one of its arrays. -/
def Subject.node? (node : Value) : Subject → Option Value
  | .member key => node.get? key
  | .scene i => node.item? "scenes" i
  | .device j => node.item? "devices" j

/-- The phrase, read as a type of JSON value. -/
def Shape.NamedBy (phrase : String) : Shape → Prop
  | .text => phrase = "a string"
  | .flag => phrase = "a boolean"
  | .list => phrase = "an array"
  | .record => phrase = "an object"

theorem Shape.namedBy_phrase_iff {shape expected : Shape} :
    shape.NamedBy expected.phrase ↔ shape = expected := by
  cases shape <;> cases expected <;> simp [NamedBy, phrase]

/-- What the texts of a fault say holds of the node that its location leads to. -/
def Fault.TrueOf (document node : Value) : Fault Place → Prop
  | .missing key _ => node.get? key = none
  | .wrongShape subject place expected =>
    ∃ value, subject.node? node = some value ∧
      (∀ other, FieldOf place.text node subject.text other ↔ other = value) ∧
      (∀ shape : Shape, shape.NamedBy expected.phrase ↔ shape = expected) ∧
      ¬ expected.Fits value
  | .unknownSensor name place =>
    (∃ records, AmongSensors document place node records) ∧
      node.get? "type" = some (.string name) ∧ ∀ kind : SensorKind, kind.name ≠ name
  | .notAlone kind count place =>
    ∃ records, AmongSensors document place node records ∧ records.length = count ∧ 1 < count ∧
      node.get? "type" = some (.string kind.name) ∧ kind = .temperatureHumidity ∧
        node.get? "jsondata" = some (.bool true) ∧
          Fault.notAloneReason kind count = "TemperatureHumidity JSON sensor must be the only " ++
            "device of its scene, found " ++ toString records.length ++ " devices"

theorem Fault.notAloneReason_eq (count : Nat) :
    Fault.notAloneReason .temperatureHumidity count =
      "TemperatureHumidity JSON sensor must be the only " ++
        "device of its scene, found " ++ toString count ++ " devices" := by
  rw [← String.toList_inj]
  unfold notAloneReason
  simp [SensorKind.name, ToString.toString]

/-- A check of the document only reports what is so of the node at the place of the fault. -/
theorem Check.Reports.trueOf {check : Check} {fault : Fault Place}
    (h : check.Reports document fault) (member : check ∈ Check.ofDocument document) :
    ∃ node, fault.place.node? document = some node ∧ fault.TrueOf document node := by
  have bare := Check.bare_ofDocument document check member
  obtain ⟨place, demand⟩ := check
  obtain ⟨node, found, blames⟩ := h
  simp only at found blames
  cases blames with
  | missing absent => exact ⟨node, found, absent⟩
  | @wrongShape key _ _ _ value present misfit =>
      have field : FieldOf place.text node key value := .member bare present
      exact ⟨node, found, value, present, field.only, fun _ => Shape.namedBy_phrase_iff, misfit⟩
  | @scene i misfit =>
      have field : FieldOf "document" document (Subject.scene i).text node :=
        .scene i rfl rfl found
      exact ⟨document, rfl, node, found, field.only, fun _ => Shape.namedBy_phrase_iff, misfit⟩
  | @device i j misfit =>
      obtain ⟨scene, slot, inside⟩ := Option.bind_eq_some_iff.mp found
      have field : FieldOf (Place.scene i).text scene (Subject.device j).text node :=
        .device i j rfl rfl inside
      exact ⟨scene, slot, node, inside, field.only, fun _ => Shape.namedBy_phrase_iff, misfit⟩
  | unknownSensor text unknown =>
      obtain ⟨record, records, among, _⟩ := Check.mem_ofDocument member trivial
      have same : node = record := Option.some.inj (found.symm.trans among.found)
      subst same
      exact ⟨node, found, ⟨records, among⟩, text, unknown⟩
  -- That the device sends JSON is known from the check being made at all.
  | notAlone text combined crowded =>
      obtain ⟨record, records, among, inside⟩ := Check.mem_ofDocument member trivial
      have same : node = record := Option.some.inj (found.symm.trans among.found)
      subst same
      rcases Check.mem_ofSensor inside trivial with other | ⟨alone, flag⟩
      · cases other
      · cases alone
        subst combined
        exact ⟨node, found, records, among, rfl, crowded, text, rfl, flag,
          Fault.notAloneReason_eq records.length⟩

/-- The fault is that of the first check that fails. Its location leads to the node at its place and
to no other, and of that node its texts are true. -/
structure Diagnoses (document : Value) (fault : Fault Place) : Prop where
  first : FirstFault document (Check.ofDocument document) fault
  blamed : ∃ node, fault.place.node? document = some node ∧
    (∀ other, LeadsTo document fault.place.text other ↔ other = node) ∧
    fault.TrueOf document node

/-- A rejection names the first check that fails, and its texts lead to what is blamed and no
further. -/
theorem ofDocument_first_fault {fault : Fault Place}
    (h : (Model.ofDocument document).result = .error fault) : Diagnoses document fault := by
  have performed : Performs document (Check.ofDocument document)
      (Model.ofDocument document).result := performs_ofDocument
  rw [h] at performed
  refine ⟨performed, ?_⟩
  obtain ⟨before, check, after, split, _, _, reports⟩ := performed
  have member : check ∈ Check.ofDocument document := by
    rw [split]
    exact List.mem_append_right before List.mem_cons_self
  obtain ⟨node, found, truth⟩ := reports.trueOf member
  exact ⟨node, found, Place.leadsTo_text found, truth⟩

/-- A combined sensor behind another device. -/
def crowdedScene : Value :=
  .object [("type", .string "Sensor"), ("name", .string "Air"), ("icon", .string "cloud"),
    ("devices", .array [
      .object [("name", .string "Porch"), ("getTopic", .string "porch"),
        ("type", .string "Temperature")],
      .object [("name", .string "Climate"), ("getTopic", .string "air"),
        ("type", .string "TemperatureHumidity"), ("jsondata", .bool true),
        ("temperature", .string "T"), ("humidity", .null)]])]

/-- A text where a device should be. -/
def brokenScene : Value :=
  .object [("type", .string "Light"), ("name", .string "Hall"), ("icon", .string "bulb"),
    ("devices", .array [.string "Lamp"])]

/-- Behind a camera, another scene. -/
def behindCamera (scene : Value) : Value :=
  homeDocument [] [.object [("type", .string "Camera")], scene]

def crowdedDocument : Value :=
  behindCamera crowdedScene

/-- The sensor is blamed for its company, before its null reading is looked at. A text in the place
of a device is blamed on its scene, and one in the place of a scene on the document. -/
theorem ofDocument_first_fault_crowded :
    let company : Fault Place := .notAlone .temperatureHumidity 2 (.device 1 1)
    let device : Fault Place := .wrongShape (.device 0) (.scene 1) .record
    let scene : Fault Place := .wrongShape (.scene 1) .document .record
    ((Model.ofDocument crowdedDocument).result = .error company ∧
        Diagnoses crowdedDocument company) ∧
      ((Model.ofDocument (behindCamera brokenScene)).result = .error device ∧
        device.message = "Field 'devices[0]' in scenes[1] must be an object" ∧
        Diagnoses (behindCamera brokenScene) device) ∧
      (Model.ofDocument (behindCamera (.string "Hall"))).result = .error scene ∧
        scene.message = "Field 'scenes[1]' in document must be an object" ∧
        Diagnoses (behindCamera (.string "Hall")) scene :=
  ⟨⟨rfl, ofDocument_first_fault rfl⟩, ⟨rfl, rfl, ofDocument_first_fault rfl⟩,
    rfl, rfl, ofDocument_first_fault rfl⟩

end SceneConfig
