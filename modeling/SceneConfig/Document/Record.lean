/- Reading the members of a record: each reader names the member it could not use.
   A member of the wrong type is a fault also where the member may be absent. -/
import SceneConfig.Document.Fault
import SceneConfig.Json.Value

namespace SceneConfig.Json.Value
variable {π : Type}

/-- Of the wrong type if present, else missing. -/
def blame (v : Value) (key : String) (place : π) (expected : Shape) : Fault π :=
  if v.has key then .wrongShape (.member key) place expected else .missing key place

def requireText (v : Value) (key : String) (place : π) : Except (Fault π) String :=
  match v.getText? key with
  | some s => .ok s
  | none => .error (v.blame key place .text)

def requireItems (v : Value) (key : String) (place : π) : Except (Fault π) (List Value) :=
  match v.getItems? key with
  | some items => .ok items
  | none => .error (v.blame key place .list)

def optionalText (v : Value) (key : String) (place : π) : Except (Fault π) (Option String) :=
  if v.has key then some <$> v.requireText key place else .ok none

def optionalFlag (v : Value) (key : String) (place : π) : Except (Fault π) (Option Bool) :=
  match v.getFlag? key with
  | some b => .ok (some b)
  | none => if v.has key then .error (v.blame key place .flag) else .ok none

end SceneConfig.Json.Value
