/- The closed set of sensor kinds: their names in a configuration and the readings they publish. -/

namespace SceneConfig

inductive SensorKind where
  | temperature
  | humidity
  | pressure
  | illuminance
  /-- Two readings, published together in one payload. -/
  | temperatureHumidity
deriving DecidableEq, Repr

namespace SensorKind

def all : List SensorKind :=
  [.temperature, .humidity, .pressure, .illuminance, .temperatureHumidity]

def name : SensorKind → String
  | .temperature => "Temperature"
  | .humidity => "Humidity"
  | .pressure => "Pressure"
  | .illuminance => "Illuminance"
  | .temperatureHumidity => "TemperatureHumidity"

def ofName? (name : String) : Option SensorKind :=
  all.find? fun kind => kind.name = name

/-- The payload keys of the readings, in the order in which they are mapped. -/
def readingKeys : SensorKind → List String
  | .temperature => ["temperature"]
  | .humidity => ["humidity"]
  | .pressure => ["pressure"]
  | .illuminance => ["illuminance"]
  | .temperatureHumidity => ["temperature", "humidity"]

/-- The payload key of a kind with a single reading; the combined kind has none. -/
def readingKey? (kind : SensorKind) : Option String :=
  match kind.readingKeys with
  | [key] => some key
  | _ => none

/-- Whether a JSON sensor of this kind has to be alone in its scene. -/
def isCombined : SensorKind → Bool
  | .temperatureHumidity => true
  | _ => false

end SensorKind

end SceneConfig
