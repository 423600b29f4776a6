/- The summary of a model, a line for each group and each device. -/
import SceneConfig.Model.Basic

namespace SceneConfig

def SwitchDevice.summary (topic : String) (device : SwitchDevice) : String :=
  s!"    {device.id} {device.name} get={topic} set={device.setTopic} on={device.onValue} " ++
    s!"off={device.offValue}"

def MappedValue.summary (value : MappedValue) : String :=
  s!"{value.key}<-{value.jsonPath}"

/-- Only a JSON sensor ends in its mapped values. -/
def SensorDevice.summary (topic : String) (device : SensorDevice) : String :=
  s!"    {device.id} {device.name} get={topic} kind={device.kind.name}" ++
    match device.encoding with
    | .raw => ""
    | .json => " json[" ++ ", ".intercalate (device.mappedValues.map MappedValue.summary) ++ "]"

namespace Group

def heading (group : Group) : String :=
  s!"  [{group.id}] {group.kind.name} \"{group.name}\" icon={group.icon}"

def deviceLines : Group → List String
  | .switch g => g.devices.toList.map fun (topic, device) => device.summary topic
  | .sensor g => g.devices.toList.map fun (topic, device) => device.summary topic

def summary (group : Group) : List String :=
  group.heading :: group.deviceLines

end Group

namespace Model

/-- An empty time zone is shown as `(none)`. -/
def shownTimezone (model : Model) : String :=
  if model.timezone = "" then "(none)" else model.timezone

def headLines (model : Model) : List String :=
  [s!"WiFi:     {model.wifi.ssid}",
    s!"Timezone: {model.shownTimezone}",
    s!"Broker:   {model.broker.address} (user {model.broker.username})",
    s!"Groups:   {model.groups.length}"]

def summaryLines (model : Model) : List String :=
  model.headLines ++ model.groups.flatMap Group.summary

/-- Every line ends in a newline, the last too. -/
def summary (model : Model) : String :=
  String.join (model.summaryLines.map (· ++ "\n"))

end Model

end SceneConfig
