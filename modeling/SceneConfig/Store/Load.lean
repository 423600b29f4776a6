/- Compiling from text and from stored text, with one error type for all stages. -/
import SceneConfig.Json.Parser
import SceneConfig.Document.Model
import SceneConfig.Store.Error

namespace SceneConfig

/-- Why a configuration was rejected, by the stage that failed. -/
inductive LoadError where
  | storage (error : StorageError)
  | malformed
  /-- The text writes a JSON value that is no object. -/
  | notAnObject
  | fault (fault : Fault Place)
deriving DecidableEq, Repr

namespace LoadError

/-- A syntax error is not described further: a question mark stands for its description. -/
def message : LoadError → String
  | .storage error => s!"IO error: {error.message}"
  | .malformed => "Failed to parse configuration: ?"
  | .notAnObject => "Failed to parse configuration: configuration root must be a JSON object"
  | .fault f => f.message

def category : LoadError → String
  | .storage _ => "storage error"
  | .malformed => "parse error"
  | .notAnObject => "parse error"
  | .fault f => f.category

end LoadError

/-- The document that `text` writes, which has to be an object. -/
def parseDocument (text : String) : Except LoadError Json.Value :=
  match Json.parse text with
  | none => .error .malformed
  | some document => if document.isObject then .ok document else .error .notAnObject

namespace Model

def ofText (text : String) : Traced LoadError Model := do
  let document ← .lift (parseDocument text)
  (Model.ofDocument document).mapError .fault

def load (path : String) (contents : Except StorageError String) : Traced LoadError Model := do
  let text ← .lift (contents.mapError .storage)
  let model ← Model.ofText text
  .emit (.loaded path model.groups.length)
  return model

end Model

end SceneConfig
