/- The lines of a summary: four for the model, and for each group its heading and a line for each of
   its devices. -/
import SceneConfig.Proofs.Model.Subscriptions
import SceneConfig.Proofs.Model.SummaryWords

namespace SceneConfig

section OneLine

theorem SwitchDevice.newline_notMem_summary {topic : String} {device : SwitchDevice}
    (free : ∀ text ∈ topic :: device.texts, '\n' ∉ text.toList) :
    '\n' ∉ (device.summary topic).toList := by
  rw [summary_eq]
  exact Text.notMem_intercalate (by decide) (notMem_words (.inr rfl) free)

theorem SensorDevice.newline_notMem_summary {topic : String} {device : SensorDevice}
    (free : ∀ text ∈ topic :: device.texts, '\n' ∉ text.toList) :
    '\n' ∉ (device.summary topic).toList := by
  have words : '\n' ∉ (" ".intercalate (device.words topic)).toList :=
    Text.notMem_intercalate (by decide) (notMem_words (.inr rfl) free)
  cases encoding : device.encoding with
  | raw => rwa [summary_of_raw topic encoding]
  | json =>
      have readings : '\n' ∉ (", ".intercalate
          (device.mappedValues.map MappedValue.summary)).toList :=
        Text.notMem_intercalate (by decide)
          (notMem_readings (.inr rfl) (List.forall_mem_cons.mp free).2)
      rw [summary_of_json topic encoding, readingsText]
      simp only [String.toList_append, List.mem_append, not_or]
      exact ⟨⟨words, by decide⟩, ⟨by decide, readings⟩, by decide⟩

theorem Group.newline_notMem_heading {group : Group}
    (free : ∀ text ∈ group.texts, '\n' ∉ text.toList) : '\n' ∉ group.heading.toList := by
  rw [heading_eq]
  exact Text.notMem_intercalate (by decide) (notMem_words (.inr rfl) free)

theorem Group.newline_notMem_deviceLines {group : Group}
    (free : ∀ text ∈ group.texts, '\n' ∉ text.toList) :
    ∀ line ∈ group.deviceLines, '\n' ∉ line.toList := by
  cases group with
  | switch g =>
      obtain ⟨_, _, entries⟩ := DeviceGroup.forall_mem_texts_iff.mp free
      rw [deviceLines, List.forall_mem_map]
      intro entry member
      exact SwitchDevice.newline_notMem_summary (entries entry member)
  | sensor g =>
      obtain ⟨_, _, entries⟩ := DeviceGroup.forall_mem_texts_iff.mp free
      rw [deviceLines, List.forall_mem_map]
      intro entry member
      exact SensorDevice.newline_notMem_summary (entries entry member)

theorem Model.newline_notMem_headLines {model : Model}
    (free : ∀ text ∈ model.texts, '\n' ∉ text.toList) :
    ∀ line ∈ model.headLines, '\n' ∉ line.toList := by
  simp only [texts, List.forall_mem_cons] at free
  obtain ⟨ssid, timezone, address, username, _⟩ := free
  have shown : '\n' ∉ model.shownTimezone.toList := by
    rw [shownTimezone]
    split
    · decide
    · exact timezone
  unfold headLines
  simp [ssid, shown, address, username, ToString.toString, Text.notMem_toDigits]

theorem Model.newline_notMem_summaryLines {model : Model}
    (free : ∀ text ∈ model.texts, '\n' ∉ text.toList) :
    ∀ line ∈ model.summaryLines, '\n' ∉ line.toList := by
  intro line member
  rcases List.mem_append.mp member with head | behind
  · exact newline_notMem_headLines free line head
  · obtain ⟨group, there, shown⟩ := List.mem_flatMap.mp behind
    have own := Model.forall_mem_texts_of_group free there
    rcases List.mem_cons.mp shown with rfl | device
    · exact Group.newline_notMem_heading own
    · exact Group.newline_notMem_deviceLines own line device

theorem Model.lines_summary {model : Model} (free : ∀ text ∈ model.texts, '\n' ∉ text.toList) :
    Text.lines model.summary = model.summaryLines :=
  Text.lines_join (newline_notMem_summaryLines free)

end OneLine

section Shape

/-- The line of a switch under a topic. -/
def SwitchDevice.ShownBy (topic : String) (device : SwitchDevice) (line : String) : Prop :=
  line = "    " ++ toString device.id ++ " " ++ device.name ++ " get=" ++ topic ++
    " set=" ++ device.setTopic ++ " on=" ++ device.onValue ++ " off=" ++ device.offValue

/-- The line of a sensor under a topic. That of a JSON sensor ends in its mapped values. -/
inductive SensorDevice.ShownBy (topic : String) (device : SensorDevice) : String → Prop
  | raw : device.encoding = .raw →
      ShownBy topic device ("    " ++ toString device.id ++ " " ++ device.name ++ " get=" ++
        topic ++ " kind=" ++ device.kind.name)
  | json {pairs : List String} : device.encoding = .json →
      List.Forall₂ (fun value pair => pair = value.key ++ "<-" ++ value.jsonPath)
        device.mappedValues pairs →
      ShownBy topic device ("    " ++ toString device.id ++ " " ++ device.name ++ " get=" ++
        topic ++ " kind=" ++ device.kind.name ++ " json[" ++ ", ".intercalate pairs ++ "]")

/-- The lines of a group, those of its entries right behind its heading. -/
inductive Group.ShownBy : Group → List String → Prop
  | switch {g : DeviceGroup SwitchDevice} {heading : String} {lines : List String} :
      heading = "  [" ++ toString g.id ++ "] Switch \"" ++ g.name ++ "\" icon=" ++ g.icon →
      List.Forall₂ (fun entry line => entry.2.ShownBy entry.1 line) g.devices.toList lines →
      ShownBy (.switch g) (heading :: lines)
  | sensor {g : DeviceGroup SensorDevice} {heading : String} {lines : List String} :
      heading = "  [" ++ toString g.id ++ "] Sensor \"" ++ g.name ++ "\" icon=" ++ g.icon →
      List.Forall₂ (fun entry line => entry.2.ShownBy entry.1 line) g.devices.toList lines →
      ShownBy (.sensor g) (heading :: lines)

theorem SwitchDevice.shownBy_summary (topic : String) (device : SwitchDevice) :
    device.ShownBy topic (device.summary topic) := by
  rw [ShownBy, ← String.toList_inj]
  unfold summary
  simp [ToString.toString]

theorem SensorDevice.shownBy_summary (topic : String) (device : SensorDevice) :
    device.ShownBy topic (device.summary topic) := by
  cases encoding : device.encoding with
  | raw =>
      have line : device.summary topic = "    " ++ toString device.id ++ " " ++ device.name ++
          " get=" ++ topic ++ " kind=" ++ device.kind.name := by
        rw [← String.toList_inj]
        unfold summary
        simp [encoding, ToString.toString]
      rw [line]
      exact .raw encoding
  | json =>
      have line : device.summary topic = "    " ++ toString device.id ++ " " ++ device.name ++
          " get=" ++ topic ++ " kind=" ++ device.kind.name ++ " json[" ++
            ", ".intercalate (device.mappedValues.map MappedValue.summary) ++ "]" := by
        rw [← String.toList_inj]
        unfold summary
        simp [encoding, ToString.toString]
      rw [line]
      apply SensorDevice.ShownBy.json encoding
      rw [List.forall₂_map_right_iff, List.forall₂_same]
      intro value _
      rfl

theorem Group.shownBy_summary (group : Group) : group.ShownBy group.summary := by
  cases group with
  | switch g =>
      refine .switch ?_ ?_
      · rw [← String.toList_inj]
        unfold heading
        simp [id, kind, GroupKind.name, name, icon, ToString.toString]
      · rw [deviceLines, List.forall₂_map_right_iff, List.forall₂_same]
        rintro ⟨topic, device⟩ _
        exact device.shownBy_summary topic
  | sensor g =>
      refine .sensor ?_ ?_
      · rw [← String.toList_inj]
        unfold heading
        simp [id, kind, GroupKind.name, name, icon, ToString.toString]
      · rw [deviceLines, List.forall₂_map_right_iff, List.forall₂_same]
        rintro ⟨topic, device⟩ _
        exact device.shownBy_summary topic

theorem Model.shownBy_summaries (model : Model) :
    List.Forall₂ Group.ShownBy model.groups (model.groups.map Group.summary) := by
  rw [List.forall₂_map_right_iff, List.forall₂_same]
  intro group _
  exact group.shownBy_summary

theorem Group.length_deviceLines (group : Group) :
    group.deviceLines.length = group.topics.length := by
  cases group <;> simp only [deviceLines, topics, TopicList.topics, List.length_map]

/-- Each line of a device stands for one topic. -/
theorem Model.sum_deviceLines (model : Model) :
    (model.groups.map fun group => group.deviceLines.length).sum =
      model.subscribeTopics.length := by
  simp only [subscribeTopics, List.length_flatMap, Group.length_deviceLines]

theorem Group.length_summary (group : Group) : group.summary.length = 1 + group.deviceCount := by
  rw [summary, List.length_cons, length_deviceLines, length_topics, Nat.add_comm]

theorem length_flatMap_summary (groups : List Group) :
    (groups.flatMap Group.summary).length =
      groups.length + (groups.map Group.deviceCount).sum := by
  induction groups with
  | nil => rfl
  | cons group groups ih =>
      rw [List.flatMap_cons, List.length_append, ih, group.length_summary, List.length_cons,
        List.map_cons, List.sum_cons]
      omega

theorem Model.length_summaryLines (model : Model) :
    model.summaryLines.length =
      4 + model.groups.length + (model.groups.map Group.deviceCount).sum := by
  rw [summaryLines, List.length_append, length_flatMap_summary, Nat.add_assoc]
  rfl

theorem Model.sum_deviceCount (model : Model) :
    (model.groups.map Group.deviceCount).sum = model.subscribeTopics.length := by
  simp only [← sum_deviceLines, Group.length_deviceLines, Group.length_topics]

end Shape

/-- What the lines of a text show of a model, and how many there are. -/
structure Model.SummarizedBy (model : Model) (text : String) : Prop where
  ended : text.toList.getLast? = some '\n'
  shown : ∃ blocks, List.Forall₂ Group.ShownBy model.groups blocks ∧
    Text.lines text = ["WiFi:     " ++ model.wifi.ssid,
      "Timezone: " ++ (if model.timezone = "" then "(none)" else model.timezone),
      "Broker:   " ++ model.broker.address ++ " (user " ++ model.broker.username ++ ")",
      "Groups:   " ++ toString model.groups.length] ++ blocks.flatten
  count : (Text.lines text).length =
    4 + model.groups.length + (model.groups.map Group.deviceCount).sum
  subscribed : (Text.lines text).length =
    4 + model.groups.length + model.subscribeTopics.length

theorem Model.summary_summarizes {model : Model}
    (free : ∀ text ∈ model.texts, '\n' ∉ text.toList) : model.SummarizedBy model.summary := by
  have lines := Model.lines_summary free
  have count : (Text.lines model.summary).length =
      4 + model.groups.length + (model.groups.map Group.deviceCount).sum := by
    rw [lines, model.length_summaryLines]
  constructor
  case ended => exact Text.getLast?_join (List.cons_ne_nil _ _)
  case shown =>
    refine ⟨model.groups.map Group.summary, model.shownBy_summaries, ?_⟩
    rw [lines, summaryLines, List.flatMap_def]
    rfl
  case count => exact count
  case subscribed => rw [count, model.sum_deviceCount]

/-- A model that no document compiles to: ids out of order, a topic that is not that of its device,
a raw sensor with a mapped value and a JSON sensor without any. -/
def looseModel : Model where
  wifi := ⟨"home net", "x\ny"⟩
  timezone := ""
  broker := ⟨"10.0.0.5", "panel", "\n"⟩
  groups := [
    .switch ⟨7, "Hall", "bulb", ⟨[]⟩⟩,
    .sensor ⟨3, "Air \"in\"", "", ⟨[
      ("air", ⟨9, "Both", "elsewhere", .temperatureHumidity, .json,
        [⟨"t", "a, b", "-"⟩, ⟨"h", "", "0"⟩]⟩),
      ("air", ⟨9, "Raw", "air", .pressure, .raw, [⟨"p", "p", "0"⟩]⟩),
      ("", ⟨0, "None", "", .humidity, .json, []⟩)]⟩⟩,
    .switch ⟨3, "Fans", "fan", ⟨[("f", ⟨0, "Fan", "f", "g", "1", "0"⟩)]⟩⟩]

theorem Model.summary_summarizes_loose :
    (∀ text ∈ looseModel.texts, '\n' ∉ text.toList) ∧
      looseModel.SummarizedBy looseModel.summary ∧
      (Text.lines looseModel.summary).length = 4 + 3 + 4 ∧
      Text.lines looseModel.summary = [
        "WiFi:     home net",
        "Timezone: (none)",
        "Broker:   10.0.0.5 (user panel)",
        "Groups:   3",
        "  [7] Switch \"Hall\" icon=bulb",
        "  [3] Sensor \"Air \"in\"\" icon=",
        "    9 Both get=air kind=TemperatureHumidity json[t<-a, b, h<-]",
        "    9 Raw get=air kind=Pressure",
        "    0 None get= kind=Humidity json[]",
        "  [3] Switch \"Fans\" icon=fan",
        "    0 Fan get=f set=g on=1 off=0"] := by
  have free : ∀ text ∈ looseModel.texts, '\n' ∉ text.toList := by decide
  have summarized := Model.summary_summarizes free
  exact ⟨free, summarized, summarized.count, (Model.lines_summary free).trans (by decide)⟩

end SceneConfig
