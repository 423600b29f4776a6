/- Compiled models with the same summary differ at most in their passwords, if their texts hold no
   spaces and no line ends. Quotes, brackets, commas and arrows in them do no harm. -/
import SceneConfig.Proofs.Document.WellFormed
import SceneConfig.Proofs.Model.Secrets
import SceneConfig.Proofs.Model.SummaryLines

namespace SceneConfig
open Json (Value)
variable {α β : Type}

section Devices

theorem SwitchDevice.cutAt_summary {topic : String} {device : SwitchDevice}
    (free : ∀ text ∈ topic :: device.texts, ' ' ∉ text.toList) :
    Text.cutAt ' ' (device.summary topic) = device.words topic := by
  rw [summary_eq]
  exact Text.cutAt_intercalate (List.cons_ne_nil _ _) (notMem_words (.inl rfl) free)

/-- The line of a switch tells its entry, as the topic stands in the device too. -/
theorem SwitchDevice.entry_eq_of_summary_eq {entry other : String × SwitchDevice}
    (key : entry.2.getTopic = entry.1) (key' : other.2.getTopic = other.1)
    (free : ∀ text ∈ entry.1 :: entry.2.texts, ' ' ∉ text.toList)
    (free' : ∀ text ∈ other.1 :: other.2.texts, ' ' ∉ text.toList)
    (same : entry.2.summary entry.1 = other.2.summary other.1) : entry = other := by
  have words : entry.2.words entry.1 = other.2.words other.1 := by
    rw [← cutAt_summary free, same, cutAt_summary free']
  simp only [SwitchDevice.words, List.cons.injEq, String.append_right_inj, true_and,
    and_true] at words
  obtain ⟨id, name, topic, setTopic, onValue, offValue⟩ := words
  have device : entry.2 = other.2 := by
    rw [SwitchDevice.mk.injEq]
    exact ⟨Text.number_injective id, name, by rw [key, topic, key'], setTopic, onValue, offValue⟩
  exact Prod.ext topic device

theorem SensorDevice.cutAt_words {topic : String} {device : SensorDevice}
    (free : ∀ text ∈ topic :: device.texts, ' ' ∉ text.toList) :
    Text.cutAt ' ' (" ".intercalate (device.words topic)) = device.words topic :=
  Text.cutAt_intercalate (List.cons_ne_nil _ _) (notMem_words (.inl rfl) free)

/-- What is behind the words tells a JSON sensor from a raw one. -/
def SensorDevice.wordsBehind (device : SensorDevice) : List String :=
  match device.encoding with
  | .raw => []
  | .json => Text.cutAt ' ' device.readingsText

theorem SensorDevice.cutAt_summary {topic : String} {device : SensorDevice}
    (free : ∀ text ∈ topic :: device.texts, ' ' ∉ text.toList) :
    Text.cutAt ' ' (device.summary topic) = device.words topic ++ device.wordsBehind := by
  rw [wordsBehind]
  cases encoding : device.encoding with
  | raw => rw [summary_of_raw topic encoding, cutAt_words free, List.append_nil]
  | json =>
      have cut := Text.cutAt_append (c := ' ') (" ".intercalate (device.words topic))
        device.readingsText
      rw [cutAt_words free] at cut
      rw [summary_of_json topic encoding]
      exact cut

theorem MappedValue.list_eq {values others : List MappedValue}
    (keys : values.map key = others.map key)
    (zero : ∀ value ∈ values, value.placeholder = "0")
    (zero' : ∀ value ∈ others, value.placeholder = "0")
    (same : values.map summary = others.map summary) : values = others := by
  induction values generalizing others with
  | nil => exact (List.map_eq_nil_iff.mp keys.symm).symm
  | cons value values ih =>
      obtain ⟨other, others, rfl, key, keys⟩ := List.map_eq_cons_iff.mp keys.symm
      obtain ⟨here, behind⟩ := List.cons.inj same
      obtain ⟨none, rest⟩ := List.forall_mem_cons.mp zero
      obtain ⟨none', rest'⟩ := List.forall_mem_cons.mp zero'
      have path : value.key ++ "<-" ++ value.jsonPath = other.key ++ "<-" ++ other.jsonPath := here
      rw [key, String.append_right_inj] at path
      have value_eq : value = other := by
        rw [MappedValue.mk.injEq]
        exact ⟨key.symm, path, none.trans none'.symm⟩
      rw [value_eq, ih keys.symm rest rest' behind]

/-- Sensors of one kind have the same readings, so the paths are all that is to be told. -/
theorem SensorDevice.mappedValues_eq {device other : SensorDevice} (kind : device.kind = other.kind)
    (json : device.encoding = .json) (json' : other.encoding = .json)
    (wellFormed : device.WellFormed) (wellFormed' : other.WellFormed)
    (free : ∀ text ∈ device.texts, ' ' ∉ text.toList)
    (free' : ∀ text ∈ other.texts, ' ' ∉ text.toList)
    (same : device.readingsText = other.readingsText) :
    device.mappedValues = other.mappedValues := by
  obtain ⟨keys, zero⟩ := wellFormed.json json
  obtain ⟨keys', zero'⟩ := wellFormed'.json json'
  have sameKeys : device.mappedValues.map MappedValue.key =
      other.mappedValues.map MappedValue.key := by rw [keys, keys', kind]
  have length : (device.mappedValues.map MappedValue.summary).length =
      (other.mappedValues.map MappedValue.summary).length := by
    simpa only [List.length_map] using congrArg List.length sameKeys
  rw [readingsText, readingsText, String.append_left_inj, String.append_right_inj] at same
  exact MappedValue.list_eq sameKeys zero zero' (Text.eq_of_intercalate_comma
    (notMem_readings (.inl rfl) free) (notMem_readings (.inl rfl) free') length same)

theorem SensorDevice.reports_eq {device other : SensorDevice} (kind : device.kind = other.kind)
    (wellFormed : device.WellFormed) (wellFormed' : other.WellFormed)
    (free : ∀ text ∈ device.texts, ' ' ∉ text.toList)
    (free' : ∀ text ∈ other.texts, ' ' ∉ text.toList)
    (same : device.wordsBehind = other.wordsBehind) :
    device.encoding = other.encoding ∧ device.mappedValues = other.mappedValues := by
  unfold wordsBehind at same
  cases encoding : device.encoding with
  | raw =>
      cases encoding' : other.encoding with
      | raw => exact ⟨rfl, by rw [wellFormed.raw encoding, wellFormed'.raw encoding']⟩
      | json =>
          rw [encoding, encoding'] at same
          exact absurd same.symm (Text.cutAt_ne_nil _ _)
  | json =>
      cases encoding' : other.encoding with
      | raw =>
          rw [encoding, encoding'] at same
          exact absurd same (Text.cutAt_ne_nil _ _)
      | json =>
          rw [encoding, encoding'] at same
          exact ⟨rfl, mappedValues_eq kind encoding encoding' wellFormed wellFormed' free free'
            (Text.cutAt_injective same)⟩

theorem SensorDevice.entry_eq_of_summary_eq {entry other : String × SensorDevice}
    (key : entry.2.getTopic = entry.1) (key' : other.2.getTopic = other.1)
    (wellFormed : entry.2.WellFormed) (wellFormed' : other.2.WellFormed)
    (free : ∀ text ∈ entry.1 :: entry.2.texts, ' ' ∉ text.toList)
    (free' : ∀ text ∈ other.1 :: other.2.texts, ' ' ∉ text.toList)
    (same : entry.2.summary entry.1 = other.2.summary other.1) : entry = other := by
  have words : entry.2.words entry.1 ++ entry.2.wordsBehind =
      other.2.words other.1 ++ other.2.wordsBehind := by
    rw [← cutAt_summary free, same, cutAt_summary free']
  obtain ⟨front, behind⟩ := List.append_inj words rfl
  simp only [SensorDevice.words, List.cons.injEq, String.append_right_inj, true_and,
    and_true] at front
  obtain ⟨id, name, topic, kind⟩ := front
  have kind := SensorKind.name_injective kind
  obtain ⟨encoding, mappedValues⟩ := reports_eq kind wellFormed wellFormed'
    (List.forall_mem_cons.mp free).2 (List.forall_mem_cons.mp free').2 behind
  have device : entry.2 = other.2 := by
    rw [SensorDevice.mk.injEq]
    exact ⟨Text.number_injective id, name, by rw [key, topic, key'], kind, encoding, mappedValues⟩
  exact Prod.ext topic device

end Devices

section Groups

/-- The third character tells the line of a device from a heading. -/
def indented (line : String) : Bool :=
  line.toList[2]? = some ' '

theorem Group.indented_heading (group : Group) : indented group.heading = false := by
  unfold indented heading
  simp [ToString.toString]

theorem Group.indented_of_mem_deviceLines {group : Group} :
    ∀ line ∈ group.deviceLines, indented line = true := by
  cases group with
  | switch g =>
      rw [deviceLines, List.forall_mem_map]
      intro entry _
      unfold indented SwitchDevice.summary
      simp [ToString.toString]
  | sensor g =>
      rw [deviceLines, List.forall_mem_map]
      intro entry _
      unfold indented SensorDevice.summary
      simp [ToString.toString]

/-- The next heading ends the lines of the devices. -/
theorem Group.takeWhile_deviceLines (group : Group) (groups : List Group) :
    (group.deviceLines ++ groups.flatMap Group.summary).takeWhile indented =
      group.deviceLines := by
  have heading : (groups.flatMap Group.summary).takeWhile indented = [] := by
    cases groups with
    | nil => rfl
    | cons next groups =>
        rw [List.flatMap_cons, summary, List.cons_append, List.takeWhile_cons_of_neg]
        simp [next.indented_heading]
  rw [List.takeWhile_append_of_pos indented_of_mem_deviceLines, heading, List.append_nil]

theorem groups_eq_of_flatMap_summary {groups others : List Group}
    (tells : ∀ group ∈ groups, ∀ other ∈ others, group.summary = other.summary → group = other)
    (same : groups.flatMap Group.summary = others.flatMap Group.summary) : groups = others := by
  induction groups generalizing others with
  | nil =>
      cases others with
      | nil => rfl
      | cons other others => cases same
  | cons group groups ih =>
      cases others with
      | nil => cases same
      | cons other others =>
          rw [List.flatMap_cons, List.flatMap_cons, Group.summary, Group.summary, List.cons_append,
            List.cons_append, List.cons.injEq] at same
          obtain ⟨heading, behind⟩ := same
          have devices : group.deviceLines = other.deviceLines := by
            rw [← group.takeWhile_deviceLines groups, behind, other.takeWhile_deviceLines]
          have summaries : group.summary = other.summary := by
            rw [Group.summary, heading, devices, Group.summary]
          rw [devices] at behind
          have first := tells group List.mem_cons_self other List.mem_cons_self summaries
          have rest := ih (fun group member other among =>
            tells group (List.mem_cons_of_mem _ member) other (List.mem_cons_of_mem _ among))
            (List.append_cancel_left behind)
          rw [first, rest]

/-- Lists are the same if their images are, under a function that tells their members apart. -/
theorem eq_of_map_eq_map {f : α → β} {xs ys : List α}
    (tells : ∀ x ∈ xs, ∀ y ∈ ys, f x = f y → x = y) (same : xs.map f = ys.map f) : xs = ys := by
  induction xs generalizing ys with
  | nil => exact (List.map_eq_nil_iff.mp same.symm).symm
  | cons x xs ih =>
      obtain ⟨y, ys, rfl, here, behind⟩ := List.map_eq_cons_iff.mp same.symm
      rw [tells x List.mem_cons_self y List.mem_cons_self here.symm]
      rw [ih (fun x member y among =>
        tells x (List.mem_cons_of_mem _ member) y (List.mem_cons_of_mem _ among)) behind.symm]

theorem DeviceGroup.Indexed.getTopic_eq {δ : Type} {id : δ → Nat} {topic : δ → String}
    {group : DeviceGroup δ} (indexed : group.Indexed id topic) :
    ∀ entry ∈ group.devices.toList, topic entry.2 = entry.1 := by
  intro entry member
  obtain ⟨j, found⟩ := List.mem_iff_getElem?.mp member
  exact (indexed j entry found).2

theorem Group.cutAt_heading {group : Group} (free : ∀ text ∈ group.texts, ' ' ∉ text.toList) :
    Text.cutAt ' ' group.heading = group.words := by
  rw [heading_eq]
  exact Text.cutAt_intercalate (List.cons_ne_nil _ _) (notMem_words (.inl rfl) free)

theorem GroupKind.name_injective {kind other : GroupKind} (h : kind.name = other.name) :
    kind = other := by
  revert h
  cases kind <;> cases other <;> decide

theorem Group.words_injective {group other : Group} (same : group.words = other.words) :
    group.id = other.id ∧ group.kind = other.kind ∧ group.name = other.name ∧
      group.icon = other.icon := by
  simp only [words, List.cons.injEq, String.append_left_inj, String.append_right_inj, true_and,
    and_true] at same
  obtain ⟨id, kind, name, icon⟩ := same
  exact ⟨Text.number_injective id, GroupKind.name_injective kind, name, icon⟩

theorem DeviceGroup.eq_of_entries_eq {δ : Type} {group other : DeviceGroup δ}
    (id : group.id = other.id) (name : group.name = other.name) (icon : group.icon = other.icon)
    (entries : group.devices.toList = other.devices.toList) : group = other := by
  rw [DeviceGroup.mk.injEq, TopicList.mk.injEq]
  exact ⟨id, name, icon, entries⟩

theorem Group.eq_of_summary_eq {group other : Group} (wellFormed : group.WellFormed)
    (wellFormed' : other.WellFormed) (free : ∀ text ∈ group.texts, ' ' ∉ text.toList)
    (free' : ∀ text ∈ other.texts, ' ' ∉ text.toList) (same : group.summary = other.summary) :
    group = other := by
  obtain ⟨headings, lines⟩ := List.cons.inj same
  have words : group.words = other.words := by
    rw [← cutAt_heading free, headings, cutAt_heading free']
  obtain ⟨id, kind, name, icon⟩ := words_injective words
  cases group with
  | switch g =>
      cases other with
      | switch h =>
          obtain ⟨_, _, entries⟩ := DeviceGroup.forall_mem_texts_iff.mp free
          obtain ⟨_, _, entries'⟩ := DeviceGroup.forall_mem_texts_iff.mp free'
          rw [DeviceGroup.eq_of_entries_eq id name icon]
          apply eq_of_map_eq_map ?_ lines
          intro entry member other among
          exact SwitchDevice.entry_eq_of_summary_eq (wellFormed.getTopic_eq entry member)
            (wellFormed'.getTopic_eq other among) (entries entry member) (entries' other among)
      | sensor h => cases kind
  | sensor g =>
      cases other with
      | switch h => cases kind
      | sensor h =>
          obtain ⟨_, _, entries⟩ := DeviceGroup.forall_mem_texts_iff.mp free
          obtain ⟨_, _, entries'⟩ := DeviceGroup.forall_mem_texts_iff.mp free'
          rw [DeviceGroup.eq_of_entries_eq id name icon]
          apply eq_of_map_eq_map ?_ lines
          intro entry member other among
          exact SensorDevice.entry_eq_of_summary_eq (wellFormed.indexed.getTopic_eq entry member)
            (wellFormed'.indexed.getTopic_eq other among) (wellFormed.devices entry member)
            (wellFormed'.devices other among) (entries entry member) (entries' other among)

end Groups

section Models
variable {model other : Model}

/-- No text but the passwords holds a space or a line end, and no time zone looks like none. -/
structure Model.Plain (model : Model) : Prop where
  spaces : ∀ text ∈ model.texts, ' ' ∉ text.toList
  lineEnds : ∀ text ∈ model.texts, '\n' ∉ text.toList
  timezone : model.timezone ≠ "(none)"

theorem Model.Plain.timezone_eq (plain : model.Plain) (plain' : other.Plain)
    (same : model.shownTimezone = other.shownTimezone) : model.timezone = other.timezone := by
  unfold shownTimezone at same
  split at same
  · next none =>
    split at same
    · next none' => rw [none, none']
    · exact absurd same.symm plain'.timezone
  · split at same
    · exact absurd same plain.timezone
    · exact same

def Model.brokerWords (model : Model) : List String :=
  ["Broker:", "", "", model.broker.address, "(user", model.broker.username ++ ")"]

theorem Model.brokerLine_eq (model : Model) :
    "Broker:   " ++ model.broker.address ++ " (user " ++ model.broker.username ++ ")" =
      " ".intercalate model.brokerWords := by
  rw [← String.toList_inj]
  simp [brokerWords]

theorem Model.Plain.cutAt_brokerLine (plain : model.Plain) :
    Text.cutAt ' ' (" ".intercalate model.brokerWords) = model.brokerWords := by
  have free := plain.spaces
  simp only [texts, List.forall_mem_cons] at free
  apply Text.cutAt_intercalate (List.cons_ne_nil _ _)
  simp [free]

theorem Model.Plain.head_eq (plain : model.Plain) (plain' : other.Plain)
    (same : model.headLines = other.headLines) :
    model.wifi.ssid = other.wifi.ssid ∧ model.timezone = other.timezone ∧
      model.broker.address = other.broker.address ∧
        model.broker.username = other.broker.username := by
  obtain ⟨ssid, rest⟩ := List.cons.inj same
  obtain ⟨timezone, rest⟩ := List.cons.inj rest
  have broker : " ".intercalate model.brokerWords = " ".intercalate other.brokerWords := by
    rw [← model.brokerLine_eq, ← other.brokerLine_eq]
    exact (List.cons.inj rest).1
  have words : model.brokerWords = other.brokerWords := by
    rw [← plain.cutAt_brokerLine, broker, plain'.cutAt_brokerLine]
  simp only [brokerWords, List.cons.injEq, String.append_left_inj, true_and, and_true] at words
  exact ⟨(String.append_right_inj _).mp ssid,
    plain.timezone_eq plain' ((String.append_right_inj _).mp timezone), words⟩

theorem Model.Plain.groups_eq (plain : model.Plain) (plain' : other.Plain)
    (wellFormed : model.WellFormed) (wellFormed' : other.WellFormed)
    (same : model.groups.flatMap Group.summary = other.groups.flatMap Group.summary) :
    model.groups = other.groups := by
  apply groups_eq_of_flatMap_summary ?_ same
  intro group member group' among
  exact Group.eq_of_summary_eq (wellFormed.groups group member) (wellFormed'.groups group' among)
    (Model.forall_mem_texts_of_group plain.spaces member)
    (Model.forall_mem_texts_of_group plain'.spaces among)

end Models

/-- What a summary shows is the whole model but the passwords. -/
theorem ofDocument_summary_eq_iff {document document' : Value} {model model' : Model}
    (accepted : (Model.ofDocument document).result = .ok model)
    (accepted' : (Model.ofDocument document').result = .ok model')
    (plain : model.Plain) (plain' : model'.Plain) :
    model.summary = model'.summary ↔ model.EqUpToSecrets model' := by
  constructor
  · intro same
    have lines : model.summaryLines = model'.summaryLines := by
      rw [← Model.lines_summary plain.lineEnds, same, Model.lines_summary plain'.lineEnds]
    obtain ⟨head, behind⟩ := List.append_inj lines rfl
    obtain ⟨ssid, timezone, address, username⟩ := plain.head_eq plain' head
    have wellFormed := (Model.result_ofDocument_eq_ok_iff.mp accepted).wellFormed
    have wellFormed' := (Model.result_ofDocument_eq_ok_iff.mp accepted').wellFormed
    exact ⟨ssid, timezone, address, username,
      plain.groups_eq plain' wellFormed wellFormed' behind⟩
  · intro same
    exact same.summary_eq

/-- Texts that look like the text around them, or like nothing. -/
def quaintDocument (password secret temperature humidity : String) : Value :=
  .object [("wifi", .string "\"home\""), ("password", .string password),
    ("mqttbroker", .string "10.0.0.5(user"), ("mqttusername", .string ")"),
    ("mqttpasswd", .string secret),
    ("scenes", .array [
      .object [("type", .string "Camera")],
      .object [("type", .string "Sensor"), ("name", .string "\"icon="), ("icon", .string "]"),
        ("devices", .array [
          .object [("name", .string "get="), ("getTopic", .string "kind=Humidity"),
            ("type", .string "TemperatureHumidity"), ("jsondata", .bool true),
            ("temperature", .string temperature), ("humidity", .string humidity)]])],
      .object [("type", .string "Light"), ("name", .string ""), ("icon", .string ""),
        ("devices", .array [
          .object [("name", .string ""), ("getTopic", .string ""), ("setTopic", .string "on="),
            ("onValue", .string "json[a<-b]"), ("offValue", .string "")]])]])]

def quaintModel (password secret temperature humidity : String) : Model where
  wifi := ⟨"\"home\"", password⟩
  timezone := ""
  broker := ⟨"10.0.0.5(user", ")", secret⟩
  groups := [
    .sensor ⟨1, "\"icon=", "]", ⟨[("kind=Humidity", ⟨0, "get=", "kind=Humidity",
      .temperatureHumidity, .json,
      [⟨"temperature", temperature, "0"⟩, ⟨"humidity", humidity, "0"⟩]⟩)]⟩⟩,
    .switch ⟨2, "", "", ⟨[("", ⟨0, "", "", "on=", "json[a<-b]", ""⟩)]⟩⟩]

/-- Where only the passwords differ, the summaries do not; where a comma has moved, they do. -/
theorem ofDocument_summary_eq_iff_quaint :
    (∀ password secret temperature humidity,
      (Model.ofDocument (quaintDocument password secret temperature humidity)).result =
        .ok (quaintModel password secret temperature humidity)) ∧
      (quaintModel "p w" "" "a," "b").Plain ∧ (quaintModel "" "\n" "a," "b").Plain ∧
      (quaintModel "" "\n" "a" ",b").Plain ∧
      (quaintModel "p w" "" "a," "b").summary = (quaintModel "" "\n" "a," "b").summary ∧
      (quaintModel "p w" "" "a," "b").summary ≠ (quaintModel "" "\n" "a" ",b").summary := by
  have accepted (password secret temperature humidity : String) :
      (Model.ofDocument (quaintDocument password secret temperature humidity)).result =
        .ok (quaintModel password secret temperature humidity) := rfl
  have plain : (quaintModel "p w" "" "a," "b").Plain := ⟨by decide, by decide, by decide⟩
  have secrets : (quaintModel "" "\n" "a," "b").Plain := ⟨by decide, by decide, by decide⟩
  have comma : (quaintModel "" "\n" "a" ",b").Plain := ⟨by decide, by decide, by decide⟩
  refine ⟨accepted, plain, secrets, comma, ?_, ?_⟩
  · exact (ofDocument_summary_eq_iff (accepted _ _ _ _) (accepted _ _ _ _) plain secrets).mpr
      ⟨rfl, rfl, rfl, rfl, rfl⟩
  · intro same
    have groups := ((ofDocument_summary_eq_iff (accepted _ _ _ _) (accepted _ _ _ _) plain
      comma).mp same).groups
    exact absurd groups (by decide)

end SceneConfig
