/- Compiling performs the checks of a document.
   A loop over an array performs the checks of its elements in turn, from the places where the
   elements lie. -/
import SceneConfig.Proofs.Document.DeviceChecks
import SceneConfig.Proofs.Document.ModelCopies

namespace SceneConfig
open Json (Value)
variable {δ : Type} {document : Value}

/-- What lies at positions from `start` on, without the first of it. -/
theorem getElem?_behind {α : Type} (lookup : Nat → Option α) {start : Nat} {x : α} {xs : List α}
    (found : ∀ j, lookup (start + j) = (x :: xs)[j]?) :
    ∀ j, lookup (start + 1 + j) = xs[j]? := by
  intro j
  rw [Nat.add_assoc, Nat.add_comm 1 j]
  exact found (j + 1)

/-- One check: the slot of an array holds an object. -/
theorem performs_object {α : Type} {node : Value} {place : Place}
    (found : place.node? document = some node) {checks : List Check} {fault : Fault Place}
    {x : Except (Fault Place) α}
    (blames : ¬ Shape.record.Fits node → Demand.object.Blames node place fault)
    (inside : node.isObject = true → Performs document checks x) :
    Performs document (⟨place, .object⟩ :: checks) (if node.isObject then x else .error fault) := by
  cases node with
  | object members =>
      have passes : Check.Passes document ⟨place, .object⟩ := ⟨_, found, members, rfl⟩
      have head : Performs document [⟨place, .object⟩] (.ok () : Except (Fault Place) Unit) := by
        intro check member
        rw [List.mem_singleton.mp member]
        exact passes
      exact head.bind fun _ _ => inside rfl
  | null | bool | number | string | array =>
      have reports : Check.Reports document ⟨place, .object⟩ fault :=
        ⟨_, found, blames fun ⟨members, same⟩ => nomatch same⟩
      refine ⟨[], _, checks, rfl, ?_, reports.not_passes, reports⟩
      intro check member
      cases member

theorem performs_readDevices {scene count : Nat} {kind : GroupKind}
    {read : Value → Nat → Place → Except (Fault Place) δ} {topic : δ → String}
    (reads : ∀ record position place, place.node? document = some record →
      Performs document (Check.ofDevice kind record count place) (read record position place))
    {index : Nat} {records : List Value} {devices : TopicList δ}
    (found : ∀ j, (Place.device scene (index + j)).node? document = records[j]?) :
    Performs document (Check.ofRecords kind scene count index records)
      (readDevices scene read topic index devices records).result := by
  -- The records lie at the positions from `index` on; the devices read so far change no check.
  induction records generalizing index devices with
  | nil => exact performs_pure _
  | cons record records ih =>
      have here : (Place.device scene index).node? document = some record := found 0
      have behind := getElem?_behind (fun j => (Place.device scene j).node? document) found
      rw [result_readDevices_cons, Check.ofRecords, List.zipIdx_cons, List.flatMap_cons,
        Check.ofRecord, List.cons_append]
      apply performs_object here .device
      intro _
      apply (reads record index _ here).bind
      intro device _
      exact ih behind

theorem performs_ofGroup {kind : GroupKind} {scene : Value} {position : Nat}
    {read : (count : Nat) → Value → Nat → Place → Except (Fault Place) δ} {topic : δ → String}
    (reads : ∀ count record index place, place.node? document = some record →
      Performs document (Check.ofDevice kind record count place) (read count record index place))
    (found : (Place.scene position).node? document = some scene) :
    Performs document (Check.ofGroup kind scene position)
      (DeviceGroup.ofScene scene position read topic).result := by
  rw [DeviceGroup.result_ofScene, Check.ofGroup]
  apply (performs_requireText found "name").bind
  intro name _
  apply (performs_requireText found "icon").bind
  intro icon _
  apply (performs_requireItems found "devices").bind
  intro records h
  have items := Value.getItems?_eq_some_iff.mpr (Value.requireItems_eq_ok_iff.mp h)
  rw [items, Option.getD_some]
  apply Performs.map
  apply performs_readDevices (reads records.length)
  intro j
  have scenes : document.item? "scenes" position = some scene := found
  rw [Place.node?, scenes, Nat.zero_add, Option.bind_some, Value.item?, items, Option.bind_some]

theorem performs_ofKind {kind : GroupKind} {scene : Value} {position : Nat}
    (found : (Place.scene position).node? document = some scene) :
    Performs document (Check.ofGroup kind scene position)
      (Group.ofKind kind scene position).result := by
  cases kind with
  | switch =>
      rw [Group.result_ofKind_switch]
      apply Performs.map
      exact performs_ofGroup (fun _ _ index _ here => performs_ofSwitch here index) found
  | sensor =>
      rw [Group.result_ofKind_sensor]
      apply Performs.map
      exact performs_ofGroup (fun count _ index _ here => performs_ofSensor here index count) found

theorem performs_ofScene {scene : Value} {position : Nat}
    (found : (Place.scene position).node? document = some scene) :
    Performs document (Check.ofScene scene position) (Group.ofScene? scene position).result := by
  rw [Group.result_ofScene?, Check.ofScene]
  apply performs_object found .scene
  intro _
  apply (performs_requireText found "type").bind
  intro type h
  have text := Value.getText?_eq_some_iff.mpr (Value.requireText_eq_ok_iff.mp h)
  rw [sceneKind?, text, Option.bind_some]
  cases GroupKind.ofSceneType? type with
  | none => exact performs_pure _
  | some kind => exact (performs_ofKind found).map some

theorem performs_ofScenes {start : Nat} {scenes : List Value}
    (found : ∀ i, (Place.scene (start + i)).node? document = scenes[i]?) :
    Performs document (Check.ofScenes start scenes) (Group.ofScenes start scenes).result := by
  induction scenes generalizing start with
  | nil => exact performs_pure _
  | cons scene scenes ih =>
      have here : (Place.scene start).node? document = some scene := found 0
      have behind := getElem?_behind (fun i => (Place.scene i).node? document) found
      rw [Group.result_ofScenes_cons, Check.ofScenes, List.zipIdx_cons, List.flatMap_cons]
      apply (performs_ofScene here).bind
      intro group? _
      exact (ih behind).map _

theorem performs_ofHead :
    Performs document Check.ofHead (Model.readHead document) := by
  have root : Place.document.node? document = some document := rfl
  have wifi : Performs document [Check.text .document "wifi", Check.text .document "password"]
      (AccessPoint.ofDocument document) := by
    apply (performs_requireText root "wifi").bind
    intro ssid _
    apply (performs_requireText root "password").bind
    intro password _
    exact performs_pure _
  have broker : Performs document [Check.text .document "mqttbroker",
      Check.text .document "mqttusername", Check.text .document "mqttpasswd"]
      (Broker.ofDocument document) := by
    apply (performs_requireText root "mqttbroker").bind
    intro address _
    apply (performs_requireText root "mqttusername").bind
    intro username _
    apply (performs_requireText root "mqttpasswd").bind
    intro password _
    exact performs_pure _
  apply wifi.bind
  intro wifi _
  apply (performs_optionalText root "timezone").bind
  intro timezone _
  apply broker.bind
  intro broker _
  apply (performs_requireItems root "scenes").bind
  intro scenes _
  exact performs_pure _

/-- Compiling performs all checks of the document. -/
theorem performs_ofDocument :
    Performs document (Check.ofDocument document) (Model.ofDocument document).result := by
  rw [Model.result_ofDocument, Check.ofDocument]
  apply performs_ofHead.bind
  rintro ⟨wifi, timezone, broker, scenes⟩ h
  obtain ⟨_, list⟩ := (Model.readHead_eq_ok_iff []).mp h
  have items : document.getItems? "scenes" = some scenes := Value.getItems?_eq_some_iff.mpr list
  rw [items, Option.getD_some]
  apply Performs.map
  apply performs_ofScenes
  intro i
  rw [Place.node?, Nat.zero_add, Value.item?, items, Option.bind_some]

end SceneConfig
