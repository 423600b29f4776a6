/- The results of the document readers, freed from their traces.
   Each equation follows the steps of one reader, and later proofs open a reader only by it. -/
import SceneConfig.Document.Model

namespace SceneConfig
open Json (Value)
variable {δ ε α β : Type}

theorem bind_eq (x : Except ε α) (f : α → Except ε β) : x >>= f = x.bind f := rfl

theorem bind_eq_ok_iff {x : Except ε α} {f : α → Except ε β} {b : β} :
    x.bind f = .ok b ↔ ∃ a, x = .ok a ∧ f a = .ok b := by
  cases x with
  | ok a => simp only [Except.bind, Except.ok.injEq, exists_eq_left']
  | error e => simp only [Except.bind, reduceCtorEq, false_and, exists_false]

theorem map_eq_ok_iff {x : Except ε α} {f : α → β} {b : β} :
    x.map f = .ok b ↔ ∃ a, x = .ok a ∧ f a = b := by
  cases x with
  | ok a => simp only [Except.map, Except.ok.injEq, exists_eq_left']
  | error e => simp only [Except.map, reduceCtorEq, false_and, exists_false]

theorem Traced.result_map (f : α → β) (x : Traced ε α) : (f <$> x).result = x.result.map f := by
  change (Traced.bind x (Traced.pure ∘ f)).result = _
  unfold Traced.bind
  cases x.result with
  | ok a => rfl
  | error e => rfl

theorem result_readDevices_nil (scene : Nat)
    (read : Value → Nat → Place → Except (Fault Place) δ) (topic : δ → String) (index : Nat)
    (devices : TopicList δ) :
    (readDevices scene read topic index devices []).result = .ok devices := rfl

/-- A shared topic is only remarked on, so the result of a step is that of its record. -/
theorem result_readDevices_cons (scene : Nat)
    (read : Value → Nat → Place → Except (Fault Place) δ) (topic : δ → String) (index : Nat)
    (devices : TopicList δ) (record : Value) (records : List Value) :
    (readDevices scene read topic index devices (record :: records)).result =
      if record.isObject then
        (read record index (.device scene index)).bind fun device =>
          (readDevices scene read topic (index + 1) (devices.push (topic device) device)
            records).result
      else .error (.wrongShape (.device index) (.scene scene) .record) := by
  rw [readDevices]
  split
  · rw [Traced.result_bind, Traced.result_lift]
    congr 1
    funext device
    split
    · simp only [Traced.result_bind, Traced.result_emit, Except.bind]
    · rfl
  · rfl

theorem DeviceGroup.result_ofScene (scene : Value) (id : Nat)
    (read : (count : Nat) → Value → Nat → Place → Except (Fault Place) δ)
    (topic : δ → String) :
    (DeviceGroup.ofScene scene id read topic).result =
      (scene.requireText "name" (.scene id)).bind fun name =>
        (scene.requireText "icon" (.scene id)).bind fun icon =>
          (scene.requireItems "devices" (.scene id)).bind fun records =>
            (readDevices id (read records.length) topic 0 .empty records).result.map
              fun devices => { id, name, icon, devices } := by
  simp only [DeviceGroup.ofScene, Traced.result_bind, Traced.result_lift, Traced.result_pure]
  rfl

namespace Group

/-- A switch is read alike whatever the number of devices in its scene. -/
theorem result_ofKind_switch (scene : Value) (id : Nat) :
    (Group.ofKind .switch scene id).result =
      (DeviceGroup.ofScene scene id (fun _ => SwitchDevice.ofRecord)
        SwitchDevice.getTopic).result.map .switch := by
  rw [Group.ofKind, Traced.result_map]

theorem result_ofKind_sensor (scene : Value) (id : Nat) :
    (Group.ofKind .sensor scene id).result =
      (DeviceGroup.ofScene scene id
        (fun count record id place => SensorDevice.ofRecord record id count place)
        SensorDevice.getTopic).result.map .sensor := by
  rw [Group.ofKind, Traced.result_map]

theorem result_ofScene? (scene : Value) (index : Nat) :
    (Group.ofScene? scene index).result =
      if scene.isObject then
        (scene.requireText "type" (.scene index)).bind fun type =>
          match GroupKind.ofSceneType? type with
          | some kind => (Group.ofKind kind scene index).result.map some
          | none => .ok none
      else .error (.wrongShape (.scene index) .document .record) := by
  rw [Group.ofScene?]
  split
  · rw [Traced.result_bind, Traced.result_lift]
    congr 1
    funext type
    cases GroupKind.ofSceneType? type with
    | some kind => exact Traced.result_bind _ _
    | none => rfl
  · rfl

theorem result_ofScenes_nil (start : Nat) : (Group.ofScenes start []).result = .ok [] := rfl

theorem result_ofScenes_cons (start : Nat) (scene : Value) (scenes : List Value) :
    (Group.ofScenes start (scene :: scenes)).result =
      (Group.ofScene? scene start).result.bind fun group? =>
        (Group.ofScenes (start + 1) scenes).result.map (group?.toList ++ ·) := by
  simp only [Group.ofScenes, Traced.result_bind, Traced.result_pure]
  rfl

end Group

theorem Model.result_ofDocument (document : Value) :
    (Model.ofDocument document).result =
      (Model.readHead document).bind fun (wifi, timezone, broker, scenes) =>
        (Group.ofScenes 0 scenes).result.map fun groups => { wifi, timezone, broker, groups } := by
  simp only [Model.ofDocument, Traced.result_bind, Traced.result_lift, Traced.result_emit,
    Traced.result_pure]
  rfl

end SceneConfig
