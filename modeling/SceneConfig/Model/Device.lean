/- Devices of a scene: switches, driven over two topics, and sensors, read on one. -/
import SceneConfig.Model.Sensor

namespace SceneConfig

/-- An actuator with a topic for its state and a topic for commands. -/
structure SwitchDevice where
  /-- Position in the scene; devices of different scenes share ids. -/
  id : Nat
  name : String
  getTopic : String
  setTopic : String
  onValue : String
  offValue : String
deriving DecidableEq, Repr

/-- How a sensor publishes: the reading itself, or a JSON payload to extract it from. -/
inductive Encoding where
  | raw
  | json
deriving DecidableEq, Repr

/-- Where one reading is found in a JSON payload. -/
structure MappedValue where
  key : String
  jsonPath : String
  /-- Shown until the first payload arrives. -/
  placeholder : String
deriving DecidableEq, Repr

structure SensorDevice where
  /-- Position in the scene; devices of different scenes share ids. -/
  id : Nat
  name : String
  getTopic : String
  kind : SensorKind
  encoding : Encoding
  mappedValues : List MappedValue
deriving DecidableEq, Repr

/-- The rule for the reading `key`, if the device has one. -/
def SensorDevice.mappedValue? (device : SensorDevice) (key : String) : Option MappedValue :=
  device.mappedValues.find? fun m => m.key = key

end SceneConfig
