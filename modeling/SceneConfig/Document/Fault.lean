/- Faults in a configuration document: what is wrong, and at which place.
   Readers return causes; the wording is in `Fault.message` alone. -/
import SceneConfig.Model.Sensor

namespace SceneConfig

/-- A node of the document that is read member by member. Numbers are positions in
`scenes` and in `devices`. -/
inductive Place where
  | document
  | scene (scene : Nat)
  | device (scene device : Nat)
deriving DecidableEq, Repr

def Place.text : Place → String
  | .document => "document"
  | .scene i => s!"scenes[{i}]"
  | .device i j => s!"scenes[{i}].devices[{j}]"

instance : ToString Place := ⟨Place.text⟩

/-- The types of JSON value that a reader can ask for. -/
inductive Shape where
  | text
  | flag
  | list
  | record
deriving DecidableEq, Repr

def Shape.phrase : Shape → String
  | .text => "a string"
  | .flag => "a boolean"
  | .list => "an array"
  | .record => "an object"

/-- What has the wrong type: a member of the node, or the slot of an array in it. -/
inductive Subject where
  | member (key : String)
  | scene (index : Nat)
  | device (index : Nat)
deriving DecidableEq, Repr

def Subject.text : Subject → String
  | .member key => key
  | .scene i => s!"scenes[{i}]"
  | .device j => s!"devices[{j}]"

/-- A fault at a place of type `π`. A device record may be read wherever the caller says it
stands; in a whole document the places are those of `Place`. -/
inductive Fault (π : Type) where
  | missing (key : String) (place : π)
  | wrongShape (subject : Subject) (place : π) (expected : Shape)
  | unknownSensor (name : String) (place : π)
  /-- A combined JSON sensor in a scene of `count` devices. -/
  | notAlone (kind : SensorKind) (count : Nat) (place : π)
deriving DecidableEq, Repr

namespace Fault
variable {π : Type}

def place : Fault π → π
  | .missing _ place | .wrongShape _ place _ | .unknownSensor _ place | .notAlone _ _ place => place

/-- Why a sensor of this kind may not stand where it does. -/
def notAloneReason (kind : SensorKind) (count : Nat) : String :=
  s!"{kind.name} JSON sensor must be the only device of its scene, found {count} devices"

def message [ToString π] : Fault π → String
  | .missing key place => s!"Missing required field '{key}' in {place}"
  | .wrongShape subject place expected =>
    s!"Field '{subject.text}' in {place} must be {expected.phrase}"
  | .unknownSensor name place => s!"Unrecognized sensor type '{name}' in {place}"
  | .notAlone kind count place =>
    s!"Structural violation in {place}: {notAloneReason kind count}"

def category : Fault π → String
  | .missing .. => "missing field"
  | .wrongShape .. => "invalid field"
  | .unknownSensor .. => "unrecognized sensor type"
  | .notAlone .. => "structural violation"

end Fault

end SceneConfig
