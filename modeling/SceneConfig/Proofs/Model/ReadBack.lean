/- Reading a dump back. Its text is that of the serialized model, and the serialized model shows
   every field but the passwords; so a dump tells two models apart if anything else does. -/
import SceneConfig.Proofs.Document.DeviceCopies
import SceneConfig.Proofs.Json.Pretty
import SceneConfig.Proofs.Model.Secrets
import SceneConfig.Tool.Run

namespace SceneConfig
open Json (Readable Value readable_array_iff readable_string)

section Decoding

def Json.Value.nat? : Value → Option Nat
  | .number ⟨.ofNat n, 0⟩ => some n
  | _ => none

def Json.Value.getNat? (v : Value) (key : String) : Option Nat :=
  (v.get? key).bind nat?

def SwitchDevice.ofJson? (v : Value) : Option SwitchDevice := do
  let id ← v.getNat? "id"
  let name ← v.getText? "name"
  let getTopic ← v.getText? "get_topic"
  let setTopic ← v.getText? "set_topic"
  let onValue ← v.getText? "on_value"
  let offValue ← v.getText? "off_value"
  return { id, name, getTopic, setTopic, onValue, offValue }

def Encoding.ofTag? (tag : String) : Option Encoding :=
  [.raw, .json].find? fun encoding => encoding.tag = tag

def MappedValue.ofJson? (v : Value) : Option MappedValue := do
  let key ← v.getText? "key"
  let jsonPath ← v.getText? "json_path"
  let placeholder ← v.getText? "default"
  return { key, jsonPath, placeholder }

def SensorDevice.ofJson? (v : Value) : Option SensorDevice := do
  let id ← v.getNat? "id"
  let name ← v.getText? "name"
  let getTopic ← v.getText? "get_topic"
  let kind ← (v.getText? "kind").bind SensorKind.ofName?
  let encoding ← (v.getText? "encoding").bind Encoding.ofTag?
  let mappedValues ← (v.getItems? "mapped_values").bind (·.mapM MappedValue.ofJson?)
  return { id, name, getTopic, kind, encoding, mappedValues }

variable {δ : Type}

/-- A device behind its topic. -/
def TopicList.entryOfJson? (read : Value → Option δ) : Value → Option (String × δ)
  | .array [.string topic, device] => (read device).map (topic, ·)
  | _ => none

def DeviceGroup.ofJson? (read : Value → Option δ) (v : Value) : Option (DeviceGroup δ) := do
  let id ← v.getNat? "id"
  let name ← v.getText? "name"
  let icon ← v.getText? "icon"
  let entries ← (v.getItems? "devices").bind (·.mapM (TopicList.entryOfJson? read))
  return { id, name, icon, devices := ⟨entries⟩ }

def GroupKind.ofTag? (tag : String) : Option GroupKind :=
  [.switch, .sensor].find? fun kind => kind.tag = tag

def Group.ofJson? (v : Value) : Option Group := do
  match ← (v.getText? "kind").bind GroupKind.ofTag? with
  | .switch => (DeviceGroup.ofJson? SwitchDevice.ofJson? v).map .switch
  | .sensor => (DeviceGroup.ofJson? SensorDevice.ofJson? v).map .sensor

/-- The model that is shown, with no passwords. -/
def Model.ofJson? (v : Value) : Option Model := do
  let wifi ← v.get? "wifi"
  let ssid ← wifi.getText? "ssid"
  let timezone ← v.getText? "timezone"
  let broker ← v.get? "broker"
  let address ← broker.getText? "address"
  let username ← broker.getText? "username"
  let groups ← (v.getItems? "groups").bind (·.mapM Group.ofJson?)
  return { wifi := ⟨ssid, ""⟩, timezone, broker := ⟨address, username, ""⟩, groups }

end Decoding

theorem mapM_map_eq_some {α : Type} {write : α → Value} {read : Value → Option α}
    (h : ∀ a, read (write a) = some a) (as : List α) : (as.map write).mapM read = some as := by
  induction as with
  | nil => rfl
  | cons a as ih => rw [List.map_cons, List.mapM_cons, h, ih]; rfl

theorem SwitchDevice.ofJson?_toJson (device : SwitchDevice) :
    SwitchDevice.ofJson? device.toJson = some device := rfl

theorem MappedValue.ofJson?_toJson (value : MappedValue) :
    MappedValue.ofJson? value.toJson = some value := rfl

theorem Encoding.ofTag?_tag (encoding : Encoding) :
    Encoding.ofTag? encoding.tag = some encoding := by
  cases encoding <;> rfl

theorem SensorDevice.ofJson?_toJson (device : SensorDevice) :
    SensorDevice.ofJson? device.toJson = some device := by
  have kind : (device.toJson.getText? "kind").bind SensorKind.ofName? = some device.kind :=
    SensorKind.ofName?_name device.kind
  have encoding : (device.toJson.getText? "encoding").bind Encoding.ofTag? =
      some device.encoding := Encoding.ofTag?_tag device.encoding
  have values : (device.toJson.getItems? "mapped_values").bind (·.mapM MappedValue.ofJson?) =
      some device.mappedValues := mapM_map_eq_some MappedValue.ofJson?_toJson device.mappedValues
  rw [SensorDevice.ofJson?, kind, encoding, values]
  rfl

theorem TopicList.entryOfJson?_entry {δ : Type} {write : δ → Value} {read : Value → Option δ}
    (h : ∀ device, read (write device) = some device) (entry : String × δ) :
    TopicList.entryOfJson? read (.array [.string entry.1, write entry.2]) = some entry := by
  rw [TopicList.entryOfJson?, h]
  rfl

theorem DeviceGroup.ofJson?_members {δ : Type} {write : δ → Value} {read : Value → Option δ}
    (h : ∀ device, read (write device) = some device) (group : DeviceGroup δ) (kind : Value) :
    DeviceGroup.ofJson? read (.object (("kind", kind) :: group.members write)) = some group := by
  have entries : ((Value.object (("kind", kind) :: group.members write)).getItems? "devices").bind
      (·.mapM (TopicList.entryOfJson? read)) = some group.devices.toList :=
    mapM_map_eq_some (TopicList.entryOfJson?_entry h) group.devices.toList
  rw [DeviceGroup.ofJson?, entries]
  rfl

theorem GroupKind.ofTag?_tag (kind : GroupKind) : GroupKind.ofTag? kind.tag = some kind := by
  cases kind <;> rfl

theorem Group.ofJson?_toJson (group : Group) : Group.ofJson? group.toJson = some group := by
  have kind : (group.toJson.getText? "kind").bind GroupKind.ofTag? = some group.kind := by
    cases group <;> exact GroupKind.ofTag?_tag _
  rw [Group.ofJson?, kind]
  cases group with
  | switch g =>
      have members := DeviceGroup.ofJson?_members SwitchDevice.ofJson?_toJson g
      exact congrArg (Option.map Group.switch) (members _)
  | sensor g =>
      have members := DeviceGroup.ofJson?_members SensorDevice.ofJson?_toJson g
      exact congrArg (Option.map Group.sensor) (members _)

namespace Model

def withoutPasswords (model : Model) : Model :=
  { model with
    wifi := { model.wifi with password := "" }
    broker := { model.broker with password := "" } }

theorem ofJson?_toJson (model : Model) :
    Model.ofJson? model.toJson = some model.withoutPasswords := by
  have groups : (model.toJson.getItems? "groups").bind (·.mapM Group.ofJson?) =
      some model.groups := mapM_map_eq_some Group.ofJson?_toJson model.groups
  rw [Model.ofJson?, groups]
  rfl

theorem withoutPasswords_eq_iff {model other : Model} :
    model.withoutPasswords = other.withoutPasswords ↔ model.EqUpToSecrets other := by
  constructor
  · intro same
    simp only [withoutPasswords, Model.mk.injEq, AccessPoint.mk.injEq, Broker.mk.injEq] at same
    obtain ⟨⟨ssid, _⟩, timezone, ⟨address, username, _⟩, groups⟩ := same
    exact ⟨ssid, timezone, address, username, groups⟩
  · intro h
    simp only [withoutPasswords, h.ssid, h.timezone, h.address, h.username, h.groups]

end Model

section Readability

/-- Every id in the model, of groups and of devices. -/
def Group.ids : Group → List Nat
  | .switch g => g.id :: g.devices.devices.map SwitchDevice.id
  | .sensor g => g.id :: g.devices.devices.map SensorDevice.id

def Model.ids (model : Model) : List Nat :=
  model.groups.flatMap Group.ids

theorem SwitchDevice.readable_toJson {device : SwitchDevice} (small : device.id < 2 ^ 64)
    (depth : Nat) : Readable (depth + 1) device.toJson := by
  simpa [toJson] using small

theorem MappedValue.readable_toJson (value : MappedValue) (depth : Nat) :
    Readable (depth + 1) value.toJson := by
  simp [toJson]

theorem SensorDevice.readable_toJson {device : SensorDevice} (small : device.id < 2 ^ 64)
    (depth : Nat) : Readable (depth + 3) device.toJson := by
  simpa [toJson, MappedValue.readable_toJson] using small

theorem TopicList.readable_toJson {δ : Type} {depth : Nat} {write : δ → Value}
    {devices : TopicList δ} (h : ∀ device ∈ devices.devices, Readable depth (write device)) :
    Readable (depth + 2) (devices.toJson write) := by
  simp only [TopicList.devices, List.forall_mem_map] at h
  simp only [toJson, readable_array_iff, List.forall_mem_map, List.forall_mem_cons,
    readable_string, true_and, List.not_mem_nil, false_imp_iff, implies_true, and_true]
  exact h

theorem DeviceGroup.readable_members {δ : Type} {depth : Nat} {write : δ → Value}
    {group : DeviceGroup δ} (small : group.id < 2 ^ 64)
    (h : ∀ device ∈ group.devices.devices, Readable depth (write device)) (kind : String) :
    Readable (depth + 3) (.object (("kind", .string kind) :: group.members write)) := by
  simpa [members, TopicList.readable_toJson h] using small

theorem Group.readable_toJson {group : Group} (small : ∀ id ∈ group.ids, id < 2 ^ 64)
    (depth : Nat) : Readable (depth + 6) group.toJson := by
  cases group with
  | switch g =>
      obtain ⟨id, ids⟩ := List.forall_mem_cons.mp small
      apply DeviceGroup.readable_members id
      intro device member
      exact SwitchDevice.readable_toJson (ids _ (List.mem_map_of_mem member)) (depth + 2)
  | sensor g =>
      obtain ⟨id, ids⟩ := List.forall_mem_cons.mp small
      apply DeviceGroup.readable_members id
      intro device member
      exact SensorDevice.readable_toJson (ids _ (List.mem_map_of_mem member)) depth

/-- Eight levels at most, far below the limit. -/
theorem Model.readable_toJson {model : Model} (small : ∀ id ∈ model.ids, id < 2 ^ 64)
    (depth : Nat) : Readable (depth + 8) model.toJson := by
  have groups (group : Group) (member : group ∈ model.groups) :
      Readable (depth + 6) group.toJson := by
    apply Group.readable_toJson
    intro id found
    exact small id (List.mem_flatMap_of_mem member found)
  simpa [toJson] using groups

end Readability

theorem Model.parseDocument_dump {model : Model} (small : ∀ id ∈ model.ids, id < 2 ^ 64) :
    parseDocument model.dump = .ok model.toJson := by
  have read := Json.parse_pretty (Model.readable_toJson small 119)
  rw [parseDocument, dump, read]
  rfl

/-- The end of the line that is printed behind a dump is no part of it. -/
theorem Model.parseDocument_render_dump {model : Model} (small : ∀ id ∈ model.ids, id < 2 ^ 64)
    (path : String) : parseDocument (Tool.render .dump path model) = .ok model.toJson := by
  have ends : Json.Blank "\n".toList := by
    intro c member
    cases List.mem_singleton.mp member
    rfl
  have read := Json.parse_pretty_append (Model.readable_toJson small 119) ends
  rw [parseDocument, Tool.render, dump, read]
  rfl

theorem Model.dump_eq_iff {model other : Model} (small : ∀ id ∈ model.ids, id < 2 ^ 64)
    (small' : ∀ id ∈ other.ids, id < 2 ^ 64) :
    model.dump = other.dump ↔ model.EqUpToSecrets other := by
  constructor
  · intro same
    have parsed : (.ok model.toJson : Except LoadError Value) = .ok other.toJson := by
      rw [← Model.parseDocument_dump small, ← Model.parseDocument_dump small', same]
    have read : some model.withoutPasswords = some other.withoutPasswords := by
      rw [← Model.ofJson?_toJson, ← Model.ofJson?_toJson, Except.ok.inj parsed]
    exact withoutPasswords_eq_iff.mp (Option.some.inj read)
  · intro h
    exact h.dump_eq

/-- The text that is printed, with or without its last newline, is read as the serialized model;
the serialized model gives back all but the passwords; and two dumps are equal exactly where all
but the passwords is equal. -/
theorem dump_readBack {model : Model} (small : ∀ id ∈ model.ids, id < 2 ^ 64) :
    parseDocument model.dump = .ok model.toJson ∧
      (∀ path, parseDocument (Tool.render .dump path model) = .ok model.toJson) ∧
      Model.ofJson? model.toJson = some model.withoutPasswords ∧
      ∀ other : Model, (∀ id ∈ other.ids, id < 2 ^ 64) →
        (model.dump = other.dump ↔ model.EqUpToSecrets other) := by
  refine ⟨Model.parseDocument_dump small, Model.parseDocument_render_dump small,
    model.ofJson?_toJson, ?_⟩
  intro other small'
  exact Model.dump_eq_iff small small'

/-- Strings that look like the text around them, and two devices on one topic. -/
def oddModel : Model where
  wifi := ⟨"\"\x7d, \\", "secret"⟩
  timezone := "\x00\x08\t\n\x0c\r\x1f\x7f"
  broker := ⟨"☃", "\\u0041", "hidden"⟩
  groups := [
    .sensor ⟨3, "", "]",
      ⟨[("T", ⟨0, "a", "T", .humidity, .json, [⟨"humidity", "/", "0"⟩]⟩)]⟩⟩,
    .switch ⟨4, "[", "\x7b",
      ⟨[("t", ⟨0, "é", "t", "s", "1", "0"⟩), ("t", ⟨1, "😀", "t", "", "", ""⟩)]⟩⟩]

theorem dump_readBack_odd :
    (∀ id ∈ oddModel.ids, id < 2 ^ 64) ∧
      (∀ path, parseDocument (Tool.render .dump path oddModel) = .ok oddModel.toJson) ∧
      Model.ofJson? oddModel.toJson = some oddModel.withoutPasswords ∧
      oddModel.dump = oddModel.withoutPasswords.dump ∧
      oddModel.dump ≠ { oddModel with timezone := "" }.dump := by
  have small : ∀ id ∈ oddModel.ids, id < 2 ^ 64 := by decide
  obtain ⟨_, printed, decoded, only⟩ := dump_readBack small
  refine ⟨small, printed, decoded, (only oddModel.withoutPasswords small).mpr ?_, ?_⟩
  · exact ⟨rfl, rfl, rfl, rfl, rfl⟩
  · intro same
    have timezone := ((only { oddModel with timezone := "" } small).mp same).timezone
    exact absurd timezone (by decide)

end SceneConfig
