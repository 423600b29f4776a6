/- Groups: the scenes of a known type, with their devices. -/
import SceneConfig.Model.Device
import SceneConfig.Model.TopicList

namespace SceneConfig

inductive GroupKind where
  | switch
  | sensor
deriving DecidableEq, Repr

namespace GroupKind

/-- The family of devices that a scene of this type holds; other types have none. -/
def ofSceneType? (type : String) : Option GroupKind :=
  if type = "Light" ∨ type = "Switch" then some .switch
  else if type = "Sensor" then some .sensor
  else none

def name : GroupKind → String
  | .switch => "Switch"
  | .sensor => "Sensor"

def tag : GroupKind → String
  | .switch => "switch"
  | .sensor => "sensor"

end GroupKind

structure DeviceGroup (δ : Type) where
  /-- Position of the scene in the document. -/
  id : Nat
  name : String
  icon : String
  devices : TopicList δ
deriving DecidableEq, Repr

inductive Group where
  | switch (group : DeviceGroup SwitchDevice)
  | sensor (group : DeviceGroup SensorDevice)
deriving DecidableEq, Repr

namespace Group

def id : Group → Nat
  | .switch g => g.id
  | .sensor g => g.id

def name : Group → String
  | .switch g => g.name
  | .sensor g => g.name

def icon : Group → String
  | .switch g => g.icon
  | .sensor g => g.icon

def kind : Group → GroupKind
  | .switch _ => .switch
  | .sensor _ => .sensor

def deviceCount : Group → Nat
  | .switch g => g.devices.size
  | .sensor g => g.devices.size

/-- The topics that the devices publish on, in declaration order. -/
def topics : Group → List String
  | .switch g => g.devices.topics
  | .sensor g => g.devices.topics

def switch? : Group → Option (DeviceGroup SwitchDevice)
  | .switch g => some g
  | .sensor _ => none

def sensor? : Group → Option (DeviceGroup SensorDevice)
  | .sensor g => some g
  | .switch _ => none

end Group

end SceneConfig
