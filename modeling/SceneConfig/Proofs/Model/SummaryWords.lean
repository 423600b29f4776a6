/- The lines of a summary, word by word. The words hold neither spaces nor line ends, unless a text
   of the model does. -/
import SceneConfig.Model.Summary
import SceneConfig.Proofs.Text.Lines

namespace SceneConfig
variable {δ : Type}

section Texts

def SwitchDevice.texts (device : SwitchDevice) : List String :=
  [device.name, device.getTopic, device.setTopic, device.onValue, device.offValue]

def MappedValue.texts (value : MappedValue) : List String :=
  [value.key, value.jsonPath, value.placeholder]

def SensorDevice.texts (device : SensorDevice) : List String :=
  device.name :: device.getTopic :: device.mappedValues.flatMap MappedValue.texts

def DeviceGroup.texts (texts : δ → List String) (group : DeviceGroup δ) : List String :=
  group.name :: group.icon ::
    group.devices.toList.flatMap fun (topic, device) => topic :: texts device

def Group.texts : Group → List String
  | .switch g => g.texts SwitchDevice.texts
  | .sensor g => g.texts SensorDevice.texts

/-- Every text in the model but the passwords. -/
def Model.texts (model : Model) : List String :=
  model.wifi.ssid :: model.timezone :: model.broker.address :: model.broker.username ::
    model.groups.flatMap Group.texts

theorem DeviceGroup.forall_mem_texts_iff {texts : δ → List String} {group : DeviceGroup δ}
    {p : String → Prop} :
    (∀ text ∈ group.texts texts, p text) ↔ p group.name ∧ p group.icon ∧
      ∀ entry ∈ group.devices.toList, ∀ text ∈ entry.1 :: texts entry.2, p text := by
  simp only [DeviceGroup.texts, List.forall_mem_cons, List.forall_mem_flatMap]

theorem Group.name_mem_texts (group : Group) : group.name ∈ group.texts := by
  cases group <;> exact List.mem_cons_self

theorem Group.icon_mem_texts (group : Group) : group.icon ∈ group.texts := by
  cases group <;> exact List.mem_cons_of_mem _ List.mem_cons_self

theorem Model.forall_mem_texts_of_group {model : Model} {p : String → Prop}
    (h : ∀ text ∈ model.texts, p text) {group : Group} (member : group ∈ model.groups) :
    ∀ text ∈ group.texts, p text := by
  intro text own
  have among : text ∈ model.groups.flatMap Group.texts :=
    List.mem_flatMap.mpr ⟨group, member, own⟩
  simp only [texts, List.forall_mem_cons] at h
  exact h.2.2.2.2 text among

end Texts

section Words

def SwitchDevice.words (topic : String) (device : SwitchDevice) : List String :=
  ["", "", "", "", toString device.id, device.name, "get=" ++ topic, "set=" ++ device.setTopic,
    "on=" ++ device.onValue, "off=" ++ device.offValue]

/-- Those of a raw sensor, and the first ones of a JSON sensor. -/
def SensorDevice.words (topic : String) (device : SensorDevice) : List String :=
  ["", "", "", "", toString device.id, device.name, "get=" ++ topic, "kind=" ++ device.kind.name]

/-- What stands behind the words of a JSON sensor. -/
def SensorDevice.readingsText (device : SensorDevice) : String :=
  "json[" ++ ", ".intercalate (device.mappedValues.map MappedValue.summary) ++ "]"

def Group.words (group : Group) : List String :=
  ["", "", "[" ++ toString group.id ++ "]", group.kind.name, "\"" ++ group.name ++ "\"",
    "icon=" ++ group.icon]

theorem SwitchDevice.summary_eq (topic : String) (device : SwitchDevice) :
    device.summary topic = " ".intercalate (device.words topic) := by
  rw [← String.toList_inj]
  unfold summary
  simp [words, ToString.toString]

theorem SensorDevice.summary_of_raw (topic : String) {device : SensorDevice}
    (raw : device.encoding = .raw) :
    device.summary topic = " ".intercalate (device.words topic) := by
  rw [← String.toList_inj]
  unfold summary
  simp [words, raw, ToString.toString]

theorem SensorDevice.summary_of_json (topic : String) {device : SensorDevice}
    (json : device.encoding = .json) :
    device.summary topic = " ".intercalate (device.words topic) ++ " " ++ device.readingsText := by
  rw [← String.toList_inj]
  unfold summary
  simp [words, readingsText, json, ToString.toString]

theorem Group.heading_eq (group : Group) : group.heading = " ".intercalate group.words := by
  rw [← String.toList_inj]
  unfold heading
  simp [words, ToString.toString]

end Words

section Separators
variable {c : Char} (separator : c = ' ' ∨ c = '\n')
include separator

theorem SensorKind.notMem_name (kind : SensorKind) : c ∉ kind.name.toList := by
  rcases separator with rfl | rfl <;> cases kind <;> decide

theorem GroupKind.notMem_name (kind : GroupKind) : c ∉ kind.name.toList := by
  rcases separator with rfl | rfl <;> cases kind <;> decide

theorem SwitchDevice.notMem_words {topic : String} {device : SwitchDevice}
    (free : ∀ text ∈ topic :: device.texts, c ∉ text.toList) :
    ∀ word ∈ device.words topic, c ∉ word.toList := by
  simp only [texts, List.forall_mem_cons] at free
  rcases separator with rfl | rfl <;> simp [words, free, Text.notMem_toDigits]

theorem MappedValue.notMem_summary {value : MappedValue}
    (free : ∀ text ∈ value.texts, c ∉ text.toList) : c ∉ value.summary.toList := by
  simp only [texts, List.forall_mem_cons] at free
  unfold summary
  rcases separator with rfl | rfl <;> simp [free, ToString.toString]

theorem SensorDevice.notMem_words {topic : String} {device : SensorDevice}
    (free : ∀ text ∈ topic :: device.texts, c ∉ text.toList) :
    ∀ word ∈ device.words topic, c ∉ word.toList := by
  have kind := device.kind.notMem_name separator
  simp only [texts, List.forall_mem_cons] at free
  rcases separator with rfl | rfl <;> simp [words, free, kind, Text.notMem_toDigits]

theorem SensorDevice.notMem_readings {device : SensorDevice}
    (free : ∀ text ∈ device.texts, c ∉ text.toList) :
    ∀ reading ∈ device.mappedValues.map MappedValue.summary, c ∉ reading.toList := by
  intro reading member
  obtain ⟨value, there, rfl⟩ := List.mem_map.mp member
  apply MappedValue.notMem_summary separator
  intro text own
  apply free text
  exact List.mem_cons_of_mem _ (List.mem_cons_of_mem _ (List.mem_flatMap.mpr ⟨value, there, own⟩))

theorem Group.notMem_words {group : Group} (free : ∀ text ∈ group.texts, c ∉ text.toList) :
    ∀ word ∈ group.words, c ∉ word.toList := by
  have kind := group.kind.notMem_name separator
  have name := free _ group.name_mem_texts
  have icon := free _ group.icon_mem_texts
  rcases separator with rfl | rfl <;> simp [words, name, icon, kind, Text.notMem_toDigits]

end Separators

end SceneConfig
