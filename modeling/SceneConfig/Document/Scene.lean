/- Reading scenes into groups.
   A scene of unknown type yields no group but keeps its position, so ids may have gaps. -/
import SceneConfig.Document.Device
import SceneConfig.Document.Trace

namespace SceneConfig
open Json (Value)
variable {δ : Type}

/-- Reads device records in order, the first at position `index`, behind the devices read so far. -/
def readDevices (scene : Nat) (read : Value → Nat → Place → Except (Fault Place) δ)
    (topic : δ → String) :
    (index : Nat) → TopicList δ → List Value → Traced (Fault Place) (TopicList δ)
  | _, devices, [] => pure devices
  | index, devices, record :: records =>
    if record.isObject then do
      let device ← .lift (read record index (.device scene index))
      if devices.hasTopic (topic device) then
        .emit (.sharedTopic (topic device) (.device scene index))
      readDevices scene read topic (index + 1) (devices.push (topic device) device) records
    else .lift (.error (.wrongShape (.device index) (.scene scene) .record))

/-- Reads the members of a scene of known type. Its devices may depend on their number. -/
def DeviceGroup.ofScene (scene : Value) (id : Nat)
    (read : (count : Nat) → Value → Nat → Place → Except (Fault Place) δ)
    (topic : δ → String) : Traced (Fault Place) (DeviceGroup δ) := do
  let name ← .lift (scene.requireText "name" (.scene id))
  let icon ← .lift (scene.requireText "icon" (.scene id))
  let records ← .lift (scene.requireItems "devices" (.scene id))
  let devices ← readDevices id (read records.length) topic 0 .empty records
  return { id, name, icon, devices }

namespace Group

def ofKind (kind : GroupKind) (scene : Value) (id : Nat) : Traced (Fault Place) Group :=
  match kind with
  | .switch =>
    .switch <$> DeviceGroup.ofScene scene id (fun _ => SwitchDevice.ofRecord)
      SwitchDevice.getTopic
  | .sensor =>
    .sensor <$> DeviceGroup.ofScene scene id
      (fun count record id place => SensorDevice.ofRecord record id count place)
      SensorDevice.getTopic

/-- The group of one scene; none for a scene of unknown type. -/
def ofScene? (scene : Value) (index : Nat) : Traced (Fault Place) (Option Group) :=
  if scene.isObject then do
    let type ← .lift (scene.requireText "type" (.scene index))
    match GroupKind.ofSceneType? type with
    | some kind => do
      let group ← ofKind kind scene index
      .emit (.builtGroup group.id group.kind group.name group.deviceCount)
      return some group
    | none => do
      .emit (.skippedScene index type)
      return none
  else .lift (.error (.wrongShape (.scene index) .document .record))

/-- The groups of a list of scenes, the first of them at position `start`. -/
def ofScenes (start : Nat) : List Value → Traced (Fault Place) (List Group)
  | [] => pure []
  | scene :: scenes => do
    let group? ← ofScene? scene start
    let groups ← ofScenes (start + 1) scenes
    return group?.toList ++ groups

end Group

end SceneConfig
