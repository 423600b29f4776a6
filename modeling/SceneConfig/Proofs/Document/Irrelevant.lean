/- Members that are never read: a document without them compiles to the same model or fault, after
   the same events. Which members count depends on the type of a scene, and on the type and flag of
   a sensor. -/
import SceneConfig.Proofs.Document.Alike
import SceneConfig.Proofs.Document.ModelCopies

namespace SceneConfig
open Json (Value lookup)

namespace Json.Value

/-- An object without the members under other keys. -/
def keep (keys : List String) : Value → Value
  | .object members => .object (members.filter fun member => member.1 ∈ keys)
  | v => v

def onItems (f : Value → Value) : Value → Value
  | .array items => .array (items.map f)
  | v => v

/-- Applies `f` to the elements of the array under `key`. -/
def mapItems (key : String) (f : Value → Value) : Value → Value
  | .object members =>
    .object (members.map fun member =>
      (member.1, if member.1 = key then member.2.onItems f else member.2))
  | v => v

end Json.Value

def SwitchDevice.strip (record : Value) : Value :=
  record.keep ["name", "getTopic", "setTopic", "onValue", "offValue"]

/-- Only a sensor that sends JSON has readings to look for, those of its kind. -/
def SensorDevice.readings (record : Value) : List String :=
  if record.getFlag? "jsondata" = some true then
    match (record.getText? "type").bind SensorKind.ofName? with
    | some kind => kind.readingKeys
    | none => []
  else []

def SensorDevice.strip (record : Value) : Value :=
  record.keep (["name", "getTopic", "type", "jsondata"] ++ readings record)

def stripRecord : GroupKind → Value → Value
  | .switch => SwitchDevice.strip
  | .sensor => SensorDevice.strip

/-- A scene that names an unknown type has only its type. -/
def sceneMembers (scene : Value) : List String :=
  if (scene.getText? "type").isSome ∧ sceneKind? scene = none then ["type"]
  else ["type", "name", "icon", "devices"]

def stripScene (scene : Value) : Value :=
  match sceneKind? scene with
  | some kind => (scene.keep (sceneMembers scene)).mapItems "devices" (stripRecord kind)
  | none => scene.keep (sceneMembers scene)

def stripDocument (document : Value) : Value :=
  (document.keep ["wifi", "password", "timezone", "mqttbroker", "mqttusername", "mqttpasswd",
    "scenes"]).mapItems "scenes" stripScene

/-- A map that leaves the keys alone commutes with looking up. -/
theorem Json.lookup_map (key : String) (f : String → Value → Value)
    (members : List (String × Value)) :
    lookup key (members.map fun member => (member.1, f member.1 member.2)) =
      (lookup key members).map (f key) := by
  induction members with
  | nil => rfl
  | cons member members ih =>
      rw [List.map_cons, lookup, ih, lookup]
      cases lookup key members with
      | some v => rfl
      | none =>
          by_cases h : member.1 = key
          · subst h
            simp only [Option.map_none, if_true, Option.map_some]
          · simp only [Option.map_none, if_neg h]

namespace Json.Value
variable {v : Value} {key : String} {keys : List String} {f : Value → Value}

theorem get?_keep (kept : key ∈ keys) : (v.keep keys).get? key = v.get? key := by
  cases v with
  | object members =>
      apply lookup_filter
      rintro member rfl
      exact decide_eq_true kept
  | null | bool | number | string | array => rfl

theorem isObject_keep : (v.keep keys).isObject = v.isObject := by
  cases v <;> rfl

theorem isObject_mapItems : (v.mapItems key f).isObject = v.isObject := by
  cases v <;> rfl

theorem get?_mapItems (other : String) :
    (v.mapItems key f).get? other =
      if other = key then (v.get? other).map (onItems f) else v.get? other := by
  cases v with
  | object members =>
      have mapped := lookup_map other (fun k v => if k = key then v.onItems f else v) members
      refine mapped.trans ?_
      by_cases same : other = key
      · simp only [if_pos same]
        rfl
      · simp only [if_neg same, Option.map_id']
        rfl
  | null | bool | number | string | array => simp [mapItems, get?]

theorem get?_mapItems_of_ne {other : String} (h : other ≠ key) :
    (v.mapItems key f).get? other = v.get? other := by
  rw [get?_mapItems, if_neg h]

end Json.Value

section
variable {α : Type} {v w : Value} {key : String}

theorem membersAgree_of_get? {view : Value → Option α} (same : w.get? key = v.get? key) :
    MembersAgree view Eq key v w := by
  constructor
  · rw [Value.has, Value.has, same]
  · rw [same]
    cases (v.get? key).bind view with
    | some a => exact .some rfl
    | none => exact .none

/-- An array whose elements are stripped agrees with what it was. -/
theorem listsAgree_mapItems {R : Value → Value → Prop} {f : Value → Value}
    (stripped : ∀ item, R item (f item)) (kept : w.get? key = v.get? key) :
    ListsAgree R key v (w.mapItems key f) := by
  have mapped : (w.mapItems key f).get? key = (v.get? key).map (Value.onItems f) := by
    rw [Value.get?_mapItems, if_pos rfl, kept]
  constructor
  · rw [Value.has, Value.has, mapped, Option.isSome_map]
  · rw [mapped]
    cases v.get? key with
    | none => exact .none
    | some member =>
        cases member with
        | array items =>
            refine .some ?_
            rw [List.forall₂_map_right_iff]
            exact List.forall₂_same.mpr fun item _ => stripped item
        | null | bool | number | string | object => exact .none

end

theorem SwitchDevice.agree_strip (record : Value) :
    SwitchesAgree record (SwitchDevice.strip record) :=
  ⟨Value.isObject_keep.symm, fun _ member => membersAgree_of_get? (Value.get?_keep member)⟩

theorem SensorDevice.agree_strip (record : Value) :
    SensorsAgree record (SensorDevice.strip record) := by
  have kept (key : String) (member : key ∈ ["name", "getTopic", "type", "jsondata"]) :
      (SensorDevice.strip record).get? key = record.get? key :=
    Value.get?_keep (List.mem_append_left _ member)
  refine ⟨Value.isObject_keep.symm, ?_, membersAgree_of_get? (kept "jsondata" (by decide)), ?_⟩
  · intro key member
    exact membersAgree_of_get? (kept key (List.mem_append_left ["jsondata"] member))
  · intro flag kind type key member
    apply membersAgree_of_get?
    apply Value.get?_keep
    rw [SensorDevice.readings, if_pos flag, type, Option.bind_some, SensorKind.ofName?_name]
    exact List.mem_append_right _ member

theorem agree_stripRecord (kind : GroupKind) (record : Value) :
    RecordsAgree kind record (stripRecord kind record) := by
  cases kind with
  | switch => exact SwitchDevice.agree_strip record
  | sensor => exact SensorDevice.agree_strip record

theorem agree_stripScene (scene : Value) : ScenesAgree scene (stripScene scene) := by
  have type : "type" ∈ sceneMembers scene := by
    rw [sceneMembers]
    split <;> decide
  rw [stripScene]
  cases known : sceneKind? scene with
  | none =>
      refine ⟨Value.isObject_keep.symm, membersAgree_of_get? (Value.get?_keep type), ?_, ?_⟩
      · rw [known]
        nofun
      · rw [known]
        nofun
  | some kind =>
      have members : sceneMembers scene = ["type", "name", "icon", "devices"] := by
        rw [sceneMembers, known]
        simp
      have kept (key : String) (member : key ∈ ["type", "name", "icon"]) :
          ((scene.keep (sceneMembers scene)).mapItems "devices" (stripRecord kind)).get? key =
            scene.get? key := by
        have other : key ≠ "devices" := by
          rintro rfl
          revert member
          decide
        rw [members, Value.get?_mapItems_of_ne other]
        exact Value.get?_keep (List.mem_append_left ["devices"] member)
      refine ⟨?_, membersAgree_of_get? (kept "type" (by decide)), ?_, ?_⟩
      · rw [Value.isObject_mapItems, Value.isObject_keep]
      · intro _ key member
        exact membersAgree_of_get? (kept key (List.mem_cons_of_mem "type" member))
      · intro kind' same
        rw [known] at same
        cases same
        rw [members]
        exact listsAgree_mapItems (agree_stripRecord kind) (Value.get?_keep (by decide))

theorem agree_stripDocument (document : Value) :
    DocumentsAgree Eq document (stripDocument document) := by
  have kept (key : String) (member : key ∈ ["wifi", "password", "timezone", "mqttbroker",
      "mqttusername", "mqttpasswd"]) : (stripDocument document).get? key = document.get? key := by
    have other : key ≠ "scenes" := by
      rintro rfl
      revert member
      decide
    rw [stripDocument, Value.get?_mapItems_of_ne other]
    exact Value.get?_keep (List.mem_append_left ["scenes"] member)
  refine ⟨?_, ?_, listsAgree_mapItems agree_stripScene (Value.get?_keep (by decide))⟩
  · intro key member
    refine membersAgree_of_get? (kept key ?_)
    revert member
    simp only [List.mem_cons, List.not_mem_nil, or_false]
    rintro (rfl | rfl | rfl | rfl) <;> simp
  · intro key member
    refine membersAgree_of_get? (kept key ?_)
    revert member
    simp only [List.mem_cons, List.not_mem_nil, or_false]
    rintro (rfl | rfl) <;> simp

/-- What is stripped never matters, so documents that are alike once stripped compile alike. -/
theorem ofDocument_strip (document : Value) :
    Model.ofDocument (stripDocument document) = Model.ofDocument document ∧
      ∀ other, (stripDocument document).Alike (stripDocument other) →
        Model.ofDocument document = Model.ofDocument other := by
  have stripped (d : Value) : Model.ofDocument d = Model.ofDocument (stripDocument d) :=
    (agree_stripDocument d).ofDocument_eq
  refine ⟨(stripped document).symm, ?_⟩
  intro other alike
  rw [stripped document, stripped other]
  exact (documentsAgree_of_alike alike).ofDocument_eq

/-- The sample with members that nothing reads: in the root, in a camera, in a switch that names a
sensor type, and in a combined sensor a pressure of the wrong type. -/
def clutteredDocument : Value :=
  homeDocument [("version", .ofNat 2), ("timezone", .string "CET-1")] [
    .object [("type", .string "Camera"), ("name", .ofNat 7), ("devices", .string "none")],
    .object [("type", .string "Light"), ("name", .string "Hall"), ("icon", .string "bulb"),
      ("floor", .ofNat 1),
      ("devices", .array [
        .object [("name", .string "Lamp"), ("type", .string "Pressure"),
          ("getTopic", .string "hall/get"), ("setTopic", .string "hall/lamp"),
          ("onValue", .string "1"), ("offValue", .string "0")],
        .object [("name", .string "Spot"), ("getTopic", .string "hall/get"),
          ("setTopic", .string "hall/spot"), ("onValue", .string "on"),
          ("offValue", .string "off"), ("jsondata", .null)]])],
    .object [("type", .string "Sensor"), ("name", .string "Air"), ("icon", .string "cloud"),
      ("devices", .array [
        .object [("name", .string "Climate"), ("getTopic", .string "air"),
          ("type", .string "TemperatureHumidity"), ("jsondata", .bool true),
          ("temperature", .string "T"), ("humidity", .string "H"), ("pressure", .ofNat 3)]])]]

/-- Stripping takes the clutter away and leaves what the sample is left with. -/
theorem ofDocument_strip_cluttered :
    (stripDocument clutteredDocument).Alike (stripDocument sampleDocument) ∧
      Model.ofDocument clutteredDocument = Model.ofDocument sampleDocument := by
  have same : stripDocument clutteredDocument = stripDocument sampleDocument := by rfl
  have alike : (stripDocument clutteredDocument).Alike (stripDocument sampleDocument) := by
    rw [same]
    exact .refl _
  exact ⟨alike, (ofDocument_strip clutteredDocument).2 sampleDocument alike⟩

end SceneConfig
