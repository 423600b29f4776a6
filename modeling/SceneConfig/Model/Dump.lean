/- A model as JSON, without its passwords. Members stand in a fixed order. -/
import SceneConfig.Json.Printer
import SceneConfig.Model.Basic

namespace SceneConfig
open Json (Value)

def SwitchDevice.toJson (device : SwitchDevice) : Value :=
  .object [("id", .ofNat device.id), ("name", .string device.name),
    ("get_topic", .string device.getTopic), ("set_topic", .string device.setTopic),
    ("on_value", .string device.onValue), ("off_value", .string device.offValue)]

def Encoding.tag : Encoding → String
  | .raw => "raw"
  | .json => "json"

def MappedValue.toJson (value : MappedValue) : Value :=
  .object [("key", .string value.key), ("json_path", .string value.jsonPath),
    ("default", .string value.placeholder)]

def SensorDevice.toJson (device : SensorDevice) : Value :=
  .object [("id", .ofNat device.id), ("name", .string device.name),
    ("get_topic", .string device.getTopic), ("kind", .string device.kind.name),
    ("encoding", .string device.encoding.tag),
    ("mapped_values", .array (device.mappedValues.map MappedValue.toJson))]

def TopicList.toJson {δ : Type} (write : δ → Value) (devices : TopicList δ) : Value :=
  .array (devices.toList.map fun (topic, device) => .array [.string topic, write device])

def DeviceGroup.members {δ : Type} (write : δ → Value) (group : DeviceGroup δ) :
    List (String × Value) :=
  [("id", .ofNat group.id), ("name", .string group.name), ("icon", .string group.icon),
    ("devices", group.devices.toJson write)]

/-- The members of the group it holds, with its kind in front. -/
def Group.toJson (group : Group) : Value :=
  .object (("kind", .string group.kind.tag) ::
    match group with
    | .switch g => g.members SwitchDevice.toJson
    | .sensor g => g.members SensorDevice.toJson)

def Model.toJson (model : Model) : Value :=
  .object [("wifi", .object [("ssid", .string model.wifi.ssid)]),
    ("timezone", .string model.timezone),
    ("broker", .object [("address", .string model.broker.address),
      ("username", .string model.broker.username)]),
    ("groups", .array (model.groups.map Group.toJson))]

def Model.dump (model : Model) : String :=
  model.toJson.pretty

end SceneConfig
