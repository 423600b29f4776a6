/- Reading a device from its record.
   Members are read in a fixed order, so that of several faults the first is reported. -/
import SceneConfig.Document.Record
import SceneConfig.Model.Device

namespace SceneConfig
open Json (Value)
variable {π : Type}

def SwitchDevice.ofRecord (record : Value) (id : Nat) (place : π) :
    Except (Fault π) SwitchDevice := do
  let name ← record.requireText "name" place
  let getTopic ← record.requireText "getTopic" place
  let setTopic ← record.requireText "setTopic" place
  let onValue ← record.requireText "onValue" place
  let offValue ← record.requireText "offValue" place
  return { id, name, getTopic, setTopic, onValue, offValue }

/-- The rule for one reading of a JSON sensor: the record holds the path under the reading's key. -/
def MappedValue.ofRecord (record : Value) (place : π) (key : String) :
    Except (Fault π) MappedValue := do
  let jsonPath ← record.requireText key place
  return { key, jsonPath, placeholder := "0" }

namespace SensorDevice

def readKind (record : Value) (place : π) : Except (Fault π) SensorKind := do
  let name ← record.requireText "type" place
  match SensorKind.ofName? name with
  | some kind => return kind
  | none => throw (.unknownSensor name place)

/-- Raw unless the record says otherwise. -/
def readEncoding (record : Value) (place : π) : Except (Fault π) Encoding := do
  let json ← record.optionalFlag "jsondata" place
  return if json = some true then .json else .raw

/-- One rule for each reading of a JSON sensor, none for a raw one. A combined JSON sensor
has to be the only one of the `count` devices of its scene. -/
def readMappedValues (record : Value) (kind : SensorKind) (encoding : Encoding) (count : Nat)
    (place : π) : Except (Fault π) (List MappedValue) :=
  match encoding with
  | .raw => return []
  | .json =>
    if kind.isCombined && count > 1 then throw (.notAlone kind count place)
    else kind.readingKeys.mapM (MappedValue.ofRecord record place)

def ofRecord (record : Value) (id count : Nat) (place : π) : Except (Fault π) SensorDevice := do
  let name ← record.requireText "name" place
  let getTopic ← record.requireText "getTopic" place
  let kind ← readKind record place
  let encoding ← readEncoding record place
  let mappedValues ← readMappedValues record kind encoding count place
  return { id, name, getTopic, kind, encoding, mappedValues }

end SensorDevice

end SceneConfig
