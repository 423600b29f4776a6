/- Two documents that agree on what is read of them compile alike.
   Which members are read depends on the type of a scene, and on the type and flag of a sensor. -/
import SceneConfig.Proofs.Document.Agreement
import SceneConfig.Proofs.Document.SceneCopies
import SceneConfig.Proofs.Model.Secrets

namespace SceneConfig
open Json (Value)
variable {π δ : Type}

structure SwitchesAgree (v w : Value) : Prop where
  isObject : v.isObject = w.isObject
  texts : ∀ key ∈ ["name", "getTopic", "setTopic", "onValue", "offValue"], TextsAgree key v w

/-- The readings count only where JSON is sent, and only those of the kind that is named. -/
structure SensorsAgree (v w : Value) : Prop where
  isObject : v.isObject = w.isObject
  texts : ∀ key ∈ ["name", "getTopic", "type"], TextsAgree key v w
  flag : MembersAgree Value.flag? Eq "jsondata" v w
  readings : v.getFlag? "jsondata" = some true → ∀ kind : SensorKind,
    v.getText? "type" = some kind.name → ∀ key ∈ kind.readingKeys, TextsAgree key v w

def RecordsAgree : GroupKind → Value → Value → Prop
  | .switch => SwitchesAgree
  | .sensor => SensorsAgree

/-- In a scene of unknown type nothing else counts. -/
structure ScenesAgree (v w : Value) : Prop where
  isObject : v.isObject = w.isObject
  type : TextsAgree "type" v w
  texts : (sceneKind? v).isSome → ∀ key ∈ ["name", "icon"], TextsAgree key v w
  devices : ∀ kind, sceneKind? v = some kind → ListsAgree (RecordsAgree kind) "devices" v w

/-- Passwords need only be related by `R`. -/
structure DocumentsAgree (R : String → String → Prop) (v w : Value) : Prop where
  texts : ∀ key ∈ ["wifi", "timezone", "mqttbroker", "mqttusername"], TextsAgree key v w
  secrets : ∀ key ∈ ["password", "mqttpasswd"], MembersAgree Value.text? R key v w
  scenes : ListsAgree ScenesAgree "scenes" v w

theorem SwitchesAgree.ofRecord_eq {v w : Value} (h : SwitchesAgree v w) (id : Nat) (place : π) :
    SwitchDevice.ofRecord v id place = SwitchDevice.ofRecord w id place := by
  have name := h.texts "name" (by decide)
  have getTopic := h.texts "getTopic" (by decide)
  have setTopic := h.texts "setTopic" (by decide)
  have onValue := h.texts "onValue" (by decide)
  have offValue := h.texts "offValue" (by decide)
  simp only [SwitchDevice.ofRecord, name.requireText_eq, getTopic.requireText_eq,
    setTopic.requireText_eq, onValue.requireText_eq, offValue.requireText_eq]

namespace SensorsAgree
variable {v w : Value} {place : π}

theorem readMappedValues_eq (h : SensorsAgree v w) {kind : SensorKind} {encoding : Encoding}
    (hk : SensorDevice.readKind v place = .ok kind)
    (he : SensorDevice.readEncoding v place = .ok encoding) (count : Nat) :
    SensorDevice.readMappedValues v kind encoding count place =
      SensorDevice.readMappedValues w kind encoding count place := by
  cases encoding with
  | raw => rfl
  | json =>
      have type := Value.getText?_eq_some_iff.mpr (SensorDevice.readKind_eq_ok_iff.mp hk)
      have flag : v.getFlag? "jsondata" = some true :=
        Value.getFlag?_eq_some_iff.mpr ((SensorDevice.readEncoding_eq_ok_iff.mp he).2.mp rfl)
      have reading (key : String) (member : key ∈ kind.readingKeys) :
          MappedValue.ofRecord v place key = MappedValue.ofRecord w place key := by
        rw [MappedValue.ofRecord, (h.readings flag kind type key member).requireText_eq,
          MappedValue.ofRecord]
      rw [SensorDevice.readMappedValues_json, SensorDevice.readMappedValues_json]
      generalize kind.readingKeys = keys at reading
      congr 1
      funext _
      induction keys with
      | nil => rfl
      | cons key keys ih =>
          rw [List.mapM_cons, List.mapM_cons, reading key List.mem_cons_self,
            ih fun other member => reading other (List.mem_cons_of_mem key member)]

theorem ofRecord_eq (h : SensorsAgree v w) (id count : Nat) :
    SensorDevice.ofRecord v id count place = SensorDevice.ofRecord w id count place := by
  have name := h.texts "name" (by decide)
  have getTopic := h.texts "getTopic" (by decide)
  have kind : SensorDevice.readKind v place = SensorDevice.readKind w place := by
    rw [SensorDevice.readKind, (h.texts "type" (by decide)).requireText_eq, SensorDevice.readKind]
  have encoding : SensorDevice.readEncoding v place = SensorDevice.readEncoding w place := by
    rw [SensorDevice.readEncoding, h.flag.optionalFlag_eq, SensorDevice.readEncoding]
  simp only [SensorDevice.ofRecord, bind_eq, name.requireText_eq, getTopic.requireText_eq,
    ← kind, ← encoding]
  -- What is read of the readings hangs on the kind and the encoding read before.
  apply bind_congr_ok
  intro _ _
  apply bind_congr_ok
  intro _ _
  apply bind_congr_ok
  intro kind hk
  apply bind_congr_ok
  intro encoding he
  rw [h.readMappedValues_eq hk he]

end SensorsAgree

theorem readDevices_congr {scene : Nat} {read : Value → Nat → Place → Except (Fault Place) δ}
    {topic : δ → String} {R : Value → Value → Prop}
    (objects : ∀ v w, R v w → v.isObject = w.isObject)
    (reads : ∀ v w, R v w → read v = read w) {records others : List Value}
    (h : List.Forall₂ R records others) (index : Nat) (devices : TopicList δ) :
    readDevices scene read topic index devices records =
      readDevices scene read topic index devices others := by
  induction h generalizing index devices with
  | nil => rfl
  | cons first rest ih =>
      rw [readDevices, readDevices, objects _ _ first, reads _ _ first]
      simp only [ih]

theorem DeviceGroup.ofScene_congr {scene other : Value} {id : Nat}
    {read : (count : Nat) → Value → Nat → Place → Except (Fault Place) δ} {topic : δ → String}
    {R : Value → Value → Prop} (objects : ∀ v w, R v w → v.isObject = w.isObject)
    (reads : ∀ count v w, R v w → read count v = read count w)
    (texts : ∀ key ∈ ["name", "icon"], TextsAgree key scene other)
    (devices : ListsAgree R "devices" scene other) :
    DeviceGroup.ofScene scene id read topic = DeviceGroup.ofScene other id read topic := by
  have name := texts "name" (by decide)
  have icon := texts "icon" (by decide)
  apply Traced.Agree.eq
  rw [DeviceGroup.ofScene, name.requireText_eq, icon.requireText_eq, DeviceGroup.ofScene]
  apply (Traced.Agree.refl _).bind
  rintro _ name rfl
  apply (Traced.Agree.refl _).bind
  rintro _ icon rfl
  apply (Traced.Agree.lift devices.requireItems).bind
  intro records others same
  rw [same.length_eq, readDevices_congr objects (reads _) same]
  exact .refl _

theorem Group.ofKind_congr {kind : GroupKind} {scene other : Value}
    (texts : ∀ key ∈ ["name", "icon"], TextsAgree key scene other)
    (devices : ListsAgree (RecordsAgree kind) "devices" scene other) (id : Nat) :
    Group.ofKind kind scene id = Group.ofKind kind other id := by
  cases kind with
  | switch =>
      have reads (v w : Value) (h : SwitchesAgree v w) :
          (SwitchDevice.ofRecord v : Nat → Place → _) = SwitchDevice.ofRecord w := by
        funext id place
        exact h.ofRecord_eq id place
      rw [Group.ofKind, DeviceGroup.ofScene_congr (fun _ _ h => h.isObject) (fun _ => reads) texts
        devices, Group.ofKind]
  | sensor =>
      have reads (count : Nat) (v w : Value) (h : SensorsAgree v w) :
          (fun id (place : Place) => SensorDevice.ofRecord v id count place) =
            fun id place => SensorDevice.ofRecord w id count place := by
        funext id place
        exact h.ofRecord_eq id count
      rw [Group.ofKind, DeviceGroup.ofScene_congr (fun _ _ h => h.isObject) reads texts devices,
        Group.ofKind]

theorem ScenesAgree.ofScene?_eq {scene other : Value} (h : ScenesAgree scene other)
    (index : Nat) : Group.ofScene? scene index = Group.ofScene? other index := by
  rw [Group.ofScene?, Group.ofScene?, h.isObject, ← h.type.requireText_eq]
  split
  · apply Traced.bind_congr_ok
    intro type ht
    have text := Value.getText?_eq_some_iff.mpr (Value.requireText_eq_ok_iff.mp ht)
    cases hk : GroupKind.ofSceneType? type with
    | none => rfl
    | some kind =>
        have known : sceneKind? scene = some kind := by rw [sceneKind?, text, Option.bind_some, hk]
        have texts := h.texts (by rw [known]; rfl)
        simp only [Group.ofKind_congr texts (h.devices kind known)]
  · rfl

theorem Group.ofScenes_congr {scenes others : List Value}
    (h : List.Forall₂ ScenesAgree scenes others) (start : Nat) :
    Group.ofScenes start scenes = Group.ofScenes start others := by
  induction h generalizing start with
  | nil => rfl
  | cons first rest ih => rw [Group.ofScenes, first.ofScene?_eq, ih, Group.ofScenes]

theorem DocumentsAgree.readHead {R : String → String → Prop} {document other : Value}
    (h : DocumentsAgree R document other) :
    Agree Eq (fun (wifi, timezone, broker, scenes) (wifi', timezone', broker', scenes') =>
        (∀ groups, Model.EqUpToSecrets ⟨wifi, timezone, broker, groups⟩
          ⟨wifi', timezone', broker', groups⟩) ∧
          R wifi.password wifi'.password ∧ R broker.password broker'.password ∧
            List.Forall₂ ScenesAgree scenes scenes')
      (Model.readHead document) (Model.readHead other) := by
  have wifi : Agree Eq (fun (a b : AccessPoint) => a.ssid = b.ssid ∧ R a.password b.password)
      (AccessPoint.ofDocument document) (AccessPoint.ofDocument other) := by
    apply (h.texts "wifi" (by decide)).requireText.bind
    rintro ssid _ rfl
    apply (h.secrets "password" (by decide)).requireText.bind
    intro password password' related
    exact .ok ⟨rfl, related⟩
  have broker : Agree Eq (fun (a b : Broker) =>
      (a.address = b.address ∧ a.username = b.username) ∧ R a.password b.password)
      (Broker.ofDocument document) (Broker.ofDocument other) := by
    apply (h.texts "mqttbroker" (by decide)).requireText.bind
    rintro address _ rfl
    apply (h.texts "mqttusername" (by decide)).requireText.bind
    rintro username _ rfl
    apply (h.secrets "mqttpasswd" (by decide)).requireText.bind
    intro password password' related
    exact .ok ⟨⟨rfl, rfl⟩, related⟩
  apply wifi.bind
  rintro wifi wifi' ⟨ssid, password⟩
  rw [(h.texts "timezone" (by decide)).optionalText_eq]
  apply (Agree.refl _).bind
  rintro timezone? _ rfl
  apply broker.bind
  rintro broker broker' ⟨⟨address, username⟩, secret⟩
  apply h.scenes.requireItems.bind
  intro scenes scenes' same
  exact .ok ⟨fun _ => ⟨ssid, rfl, address, username, rfl⟩, password, secret, same⟩

/-- The models differ at most in their passwords, which are related. -/
theorem DocumentsAgree.ofDocument {R : String → String → Prop} {document other : Value}
    (h : DocumentsAgree R document other) :
    Traced.Agree (fun model model' => model.EqUpToSecrets model' ∧
        R model.wifi.password model'.wifi.password ∧
          R model.broker.password model'.broker.password)
      (Model.ofDocument document) (Model.ofDocument other) := by
  apply (Traced.Agree.lift h.readHead).bind
  rintro ⟨wifi, timezone, broker, scenes⟩ ⟨wifi', timezone', broker', scenes'⟩
    ⟨same, password, secret, agree⟩
  simp only [Group.ofScenes_congr agree, agree.length_eq]
  apply (Traced.Agree.refl _).bind
  rintro groups _ rfl
  apply (Traced.Agree.refl _).bind
  intro _ _ _
  exact .pure ⟨same groups, password, secret⟩

theorem DocumentsAgree.ofDocument_eq {document other : Value}
    (h : DocumentsAgree Eq document other) :
    Model.ofDocument document = Model.ofDocument other := by
  apply Traced.Agree.eq
  apply h.ofDocument.mono
  intro model model' related
  obtain ⟨same, wifi, broker⟩ := related
  exact same.eq wifi broker

end SceneConfig
