/- Compiling a document into a model.
   Members of the document are read in a fixed order, the scenes last. -/
import SceneConfig.Document.Scene
import SceneConfig.Model.Basic

namespace SceneConfig
open Json (Value)

namespace AccessPoint

def ofDocument (document : Value) : Except (Fault Place) AccessPoint := do
  let ssid ← document.requireText "wifi" .document
  let password ← document.requireText "password" .document
  return { ssid, password }

end AccessPoint

namespace Broker

def ofDocument (document : Value) : Except (Fault Place) Broker := do
  let address ← document.requireText "mqttbroker" .document
  let username ← document.requireText "mqttusername" .document
  let password ← document.requireText "mqttpasswd" .document
  return { address, username, password }

end Broker

namespace Model

/-- Everything but the groups, and the scenes to read them from. -/
def readHead (document : Value) :
    Except (Fault Place) (AccessPoint × String × Broker × List Value) := do
  let wifi ← AccessPoint.ofDocument document
  let timezone ← document.optionalText "timezone" .document
  let broker ← Broker.ofDocument document
  let scenes ← document.requireItems "scenes" .document
  return (wifi, timezone.getD "", broker, scenes)

/-- The model of a document, or its first fault. -/
def ofDocument (document : Value) : Traced (Fault Place) Model := do
  let (wifi, timezone, broker, scenes) ← .lift (readHead document)
  let groups ← Group.ofScenes 0 scenes
  .emit (.assembled groups.length scenes.length)
  return { wifi, timezone, broker, groups }

end Model

end SceneConfig
