/- The compiled configuration and what is looked up in it. -/
import SceneConfig.Model.Group

namespace SceneConfig

structure AccessPoint where
  ssid : String
  password : String
deriving DecidableEq, Repr

structure Broker where
  address : String
  username : String
  password : String
deriving DecidableEq, Repr

structure Model where
  wifi : AccessPoint
  /-- Empty when not configured. -/
  timezone : String
  broker : Broker
  /-- In scene order. -/
  groups : List Group
deriving DecidableEq, Repr

namespace Model

def switchGroups (model : Model) : List (DeviceGroup SwitchDevice) :=
  model.groups.filterMap Group.switch?

def sensorGroups (model : Model) : List (DeviceGroup SensorDevice) :=
  model.groups.filterMap Group.sensor?

/-- The group of the scene at position `id`. -/
def group? (model : Model) (id : Nat) : Option Group :=
  model.groups.find? fun group => group.id = id

/-- Every topic to subscribe to, in scene order, repetitions kept. -/
def subscribeTopics (model : Model) : List String :=
  model.groups.flatMap Group.topics

end Model

end SceneConfig
