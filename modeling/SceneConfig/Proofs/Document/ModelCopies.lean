/- When a model copies a document, as compiling sees it and position by position.
   Scenes of unknown type shift the places of groups in the model but not their ids. -/
import SceneConfig.Proofs.Document.SceneCopies

namespace SceneConfig
open Json (Value)
variable {α β : Type}

/-- All but the groups: the strings of the document. -/
structure Model.CopiesHead (document : Value) (model : Model) : Prop where
  ssid : document.get? "wifi" = some (.string model.wifi.ssid)
  password : document.get? "password" = some (.string model.wifi.password)
  timezone : ∃ timezone? : Option String,
    document.get? "timezone" = timezone?.map Value.string ∧ model.timezone = timezone?.getD ""
  address : document.get? "mqttbroker" = some (.string model.broker.address)
  username : document.get? "mqttusername" = some (.string model.broker.username)
  secret : document.get? "mqttpasswd" = some (.string model.broker.password)

structure Model.Copies (document : Value) (model : Model) : Prop where
  head : model.CopiesHead document
  groups : ∃ scenes, document.get? "scenes" = some (.array scenes) ∧
    (∀ scene ∈ scenes, scene.HasText "type") ∧ Groups 0 scenes model.groups

/-- The head does not depend on the groups. -/
theorem Model.readHead_eq_ok_iff (groups : List Group) {document : Value} {wifi : AccessPoint}
    {timezone : String} {broker : Broker} {scenes : List Value} :
    Model.readHead document = .ok (wifi, timezone, broker, scenes) ↔
      Model.CopiesHead document { wifi, timezone, broker, groups } ∧
        document.get? "scenes" = some (.array scenes) := by
  simp only [Model.readHead, AccessPoint.ofDocument, Broker.ofDocument, bind_eq, bind_eq_ok_iff,
    Value.requireText_eq_ok_iff, Value.requireItems_eq_ok_iff, Value.optionalText_eq_ok_iff]
  constructor
  · intro h
    obtain ⟨_, ⟨ssid, hs, password, hp, same⟩, timezone?, ht, _,
      ⟨address, ha, username, hu, secret, hb, same'⟩, scenes, hd, same''⟩ := h
    cases same
    cases same'
    cases same''
    exact ⟨⟨hs, hp, ⟨timezone?, ht, rfl⟩, ha, hu, hb⟩, hd⟩
  · intro h
    obtain ⟨⟨hs, hp, ⟨timezone?, ht, hz⟩, ha, hu, hb⟩, hd⟩ := h
    subst hz
    exact ⟨_, ⟨_, hs, _, hp, rfl⟩, timezone?, ht, _, ⟨_, ha, _, hu, _, hb, rfl⟩, scenes, hd, rfl⟩

theorem Model.result_ofDocument_eq_ok_iff {document : Value} {model : Model} :
    (Model.ofDocument document).result = .ok model ↔ model.Copies document := by
  simp only [Model.result_ofDocument, bind_eq_ok_iff, map_eq_ok_iff,
    Group.result_ofScenes_eq_ok_iff]
  constructor
  · intro h
    obtain ⟨⟨wifi, timezone, broker, scenes⟩, read, groups, made, rfl⟩ := h
    obtain ⟨head, list⟩ := (Model.readHead_eq_ok_iff groups).mp read
    exact ⟨head, scenes, list, made⟩
  · intro h
    obtain ⟨head, scenes, list, made⟩ := h
    exact ⟨_, (Model.readHead_eq_ok_iff model.groups).mpr ⟨head, list⟩, _, made, rfl⟩

theorem exists_of_forall₂_right {R : α → β → Prop} {xs : List α} {ys : List β}
    (h : List.Forall₂ R xs ys) : ∀ y ∈ ys, ∃ x ∈ xs, R x y := by
  induction h with
  | nil =>
      intro y hy
      cases hy
  | cons first rest ih =>
      intro y hy
      rcases List.mem_cons.mp hy with rfl | later
      · exact ⟨_, List.mem_cons_self, first⟩
      · obtain ⟨x, hx, related⟩ := ih y later
        exact ⟨x, List.mem_cons_of_mem _ hx, related⟩

/-- The model says what the document says, scene by scene and record by record. -/
structure Model.Faithful (document : Value) (model : Model) : Prop where
  head : model.CopiesHead document
  groups : ∃ scenes, document.get? "scenes" = some (.array scenes) ∧
    (model.groups.map Group.id).Pairwise (· < ·) ∧
    (∀ position, position ∈ model.groups.map Group.id ↔
      ∃ scene, scenes[position]? = some scene ∧ HasType ["Light", "Switch", "Sensor"] scene) ∧
    ∀ group ∈ model.groups, ∃ scene, scenes[group.id]? = some scene ∧
      (group.kind = .switch ↔ HasType ["Light", "Switch"] scene) ∧ group.Copies scene group.id

theorem ofDocument_faithful {document : Value} {model : Model}
    (h : (Model.ofDocument document).result = .ok model) : model.Faithful document := by
  obtain ⟨head, scenes, hs, _, made⟩ := Model.result_ofDocument_eq_ok_iff.mp h
  refine ⟨head, scenes, hs, ?_, ?_, ?_⟩
  · rw [made.map_id]
    exact knownScenes_pairwise 0 scenes
  · intro position
    simp only [made.map_id, List.mem_map, Prod.exists, exists_eq_right, mem_knownScenes_iff]
  · intro group member
    obtain ⟨⟨scene, position⟩, known, kind, copies⟩ := exists_of_forall₂_right made group member
    have same : group.id = position := copies.id_eq
    subst same
    refine ⟨scene, (mem_knownScenes_iff.mp known).1, ?_, copies⟩
    have switch : sceneKind? scene = some .switch ↔ HasType ["Light", "Switch"] scene :=
      sceneKind?_eq_some_iff
    rw [← switch, kind, Option.some.injEq]

/-- The access point and the broker of one home. -/
def homeMembers : List (String × Value) :=
  [("wifi", .string "home"), ("password", .string "secret"), ("mqttbroker", .string "10.0.0.5"),
    ("mqttusername", .string "panel"), ("mqttpasswd", .string "hidden")]

/-- The scenes of the home, behind its other members. -/
def homeDocument (others : List (String × Value)) (scenes : List Value) : Value :=
  .object (homeMembers ++ others ++ [("scenes", .array scenes)])

/-- A scene passed over, two switches on one topic, and a combined sensor alone in its scene. -/
def sampleDocument : Value :=
  homeDocument [("timezone", .string "CET-1")] [
    .object [("type", .string "Camera"), ("devices", .null)],
    .object [("type", .string "Light"), ("name", .string "Hall"), ("icon", .string "bulb"),
      ("devices", .array [
        .object [("name", .string "Lamp"), ("getTopic", .string "hall/get"),
          ("setTopic", .string "hall/lamp"), ("onValue", .string "1"),
          ("offValue", .string "0")],
        .object [("name", .string "Spot"), ("getTopic", .string "hall/get"),
          ("setTopic", .string "hall/spot"), ("onValue", .string "on"),
          ("offValue", .string "off")]])],
    .object [("type", .string "Sensor"), ("name", .string "Air"), ("icon", .string "cloud"),
      ("devices", .array [
        .object [("name", .string "Climate"), ("getTopic", .string "air"),
          ("type", .string "TemperatureHumidity"), ("jsondata", .bool true),
          ("temperature", .string "T"), ("humidity", .string "H")]])]]

def sampleModel : Model where
  wifi := ⟨"home", "secret"⟩
  timezone := "CET-1"
  broker := ⟨"10.0.0.5", "panel", "hidden"⟩
  groups := [
    .switch ⟨1, "Hall", "bulb",
      ⟨[("hall/get", ⟨0, "Lamp", "hall/get", "hall/lamp", "1", "0"⟩),
        ("hall/get", ⟨1, "Spot", "hall/get", "hall/spot", "on", "off"⟩)]⟩⟩,
    .sensor ⟨2, "Air", "cloud",
      ⟨[("air", ⟨0, "Climate", "air", .temperatureHumidity, .json,
        [⟨"temperature", "T", "0"⟩, ⟨"humidity", "H", "0"⟩]⟩)]⟩⟩]

/-- The groups of the sample are those of its second and third scene. -/
theorem ofDocument_faithful_sample :
    (Model.ofDocument sampleDocument).result = .ok sampleModel ∧
      sampleModel.Faithful sampleDocument :=
  ⟨rfl, ofDocument_faithful rfl⟩

end SceneConfig
