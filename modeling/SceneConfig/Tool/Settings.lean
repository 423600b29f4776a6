/- Settings of the command line tool: where the configuration is. -/
import SceneConfig.Store.Path
import SceneConfig.Toml.Parser

namespace SceneConfig

structure Settings where
  /-- The configuration to read, unless the command line names another. -/
  sourcePath : String
deriving DecidableEq, Repr

namespace Settings

def defaultSourcePath : String := "/spiffs/config.json"

protected def default : Settings := ⟨defaultSourcePath⟩

/-- Whether the settings lead to the same source, however the path is spelled. -/
def agree (a b : Settings) : Bool :=
  Path.components a.sourcePath = Path.components b.sourcePath

/-- The path in a source table, none when it names none. -/
def pathOfTable (entries : Toml.Table) : Option (Option String) :=
  match entries.lookup "path" with
  | none => some none
  | some (.string path) => some path
  | some _ => none

/-- The path that a `source` value gives. A table gives it by name, an array by position, and a
date-time, which counts as a table without a path, gives none. -/
def pathOfSource : Toml.Value → Option (Option String)
  | .table _ entries => pathOfTable entries
  | .array [] => some none
  | .array (.string path :: _) => some path
  | .dateTime => some none
  | _ => none

/-- Settings as a table holds them: what is absent has its default, what is unknown is passed
over, and what has the wrong type is refused. -/
def ofTable (entries : Toml.Table) : Option Settings :=
  match entries.lookup "source" with
  | none => some .default
  | some source => do
    let path ← pathOfSource source
    return ⟨path.getD defaultSourcePath⟩

def parse (text : String) : Option Settings :=
  (Toml.parse text).bind ofTable

def defaultText : String :=
  "[source]\npath = \"/spiffs/config.json\"\n"

end Settings

end SceneConfig
