/- JSON values, and the read access to them that configuration readers use.
   An object keeps its members as written; of members with one key, the last is the one seen. -/
import SceneConfig.Json.Number

namespace SceneConfig.Json

inductive Value where
  | null
  | bool (b : Bool)
  | number (n : Number)
  | string (s : String)
  | array (items : List Value)
  | object (members : List (String × Value))
deriving Inhabited

def lookup (key : String) : List (String × Value) → Option Value
  | [] => none
  | (k, v) :: rest =>
    match lookup key rest with
    | some w => some w
    | none => if k = key then some v else none

namespace Value

def ofNat (n : Nat) : Value := .number (.ofNat n)

def isObject : Value → Bool
  | .object _ => true
  | _ => false

/-- The member `key` of an object, whatever its type; a value that is no object has none. -/
def get? (v : Value) (key : String) : Option Value :=
  match v with
  | .object members => lookup key members
  | _ => none

/-- A member counts as present also when its value is null. -/
def has (v : Value) (key : String) : Bool :=
  (v.get? key).isSome

def text? : Value → Option String
  | .string s => some s
  | _ => none

def flag? : Value → Option Bool
  | .bool b => some b
  | _ => none

def items? : Value → Option (List Value)
  | .array items => some items
  | _ => none

/-- The string under `key`; none when the member is absent or no string. -/
def getText? (v : Value) (key : String) : Option String :=
  (v.get? key).bind text?

def getFlag? (v : Value) (key : String) : Option Bool :=
  (v.get? key).bind flag?

def getItems? (v : Value) (key : String) : Option (List Value) :=
  (v.get? key).bind items?

end Value

end SceneConfig.Json
