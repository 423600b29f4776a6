/- Log entries: level, target, message and fields; and the line that shows an entry.
   A level only decides which entries are shown. -/
import SceneConfig.Document.Trace
import SceneConfig.Text.Quoted

namespace SceneConfig

inductive Level where
  | trace
  | debug
  | info
  | warn
  | error
deriving DecidableEq, Repr

namespace Level

def severity : Level → Nat
  | .trace => 0
  | .debug => 1
  | .info => 2
  | .warn => 3
  | .error => 4

def name : Level → String
  | .trace => "TRACE"
  | .debug => "DEBUG"
  | .info => "INFO"
  | .warn => "WARN"
  | .error => "ERROR"

/-- The level that a word names in any case; every other word means `info`. -/
def ofWord (word : String) : Level :=
  match String.ofList (word.toList.map Char.toLower) with
  | "trace" => .trace
  | "debug" => .debug
  | "warn" => .warn
  | "error" => .error
  | _ => .info

/-- Whether entries of this level are shown where `threshold` is asked for. -/
def shownAt (level threshold : Level) : Bool :=
  threshold.severity ≤ level.severity

end Level

inductive FieldValue where
  | number (n : Nat)
  | quoted (s : String)
  | bare (s : String)
deriving DecidableEq, Repr

structure LogEntry where
  level : Level
  target : String
  message : String
  fields : List (String × FieldValue)
deriving DecidableEq, Repr

def FieldValue.text : FieldValue → String
  | .number n => toString n
  | .quoted s => Text.quoted s
  | .bare s => s

namespace LogEntry

def line (entry : LogEntry) : String :=
  s!"{entry.level.name} {entry.target}: {Text.defused entry.message}" ++
    String.join (entry.fields.map fun (key, value) => s!" {key}={value.text}")

end LogEntry

def Event.entry : Event → LogEntry
  | .skippedScene scene type =>
    ⟨.warn, "scenepanel_core::group", "Skipping scene with unknown type",
      [("scene", .number scene), ("scene_type", .quoted type)]⟩
  | .sharedTopic topic place =>
    ⟨.debug, "scenepanel_core::group", "Topic shared with an earlier device",
      [("topic", .bare topic), ("location", .bare place.text)]⟩
  | .builtGroup id kind name devices =>
    ⟨.debug, "scenepanel_core::group", "Built group",
      [("group", .number id), ("kind", .bare kind.name), ("name", .quoted name),
        ("devices", .number devices)]⟩
  | .assembled groups scenes =>
    ⟨.debug, "scenepanel_core::model", "Assembled model",
      [("groups", .number groups), ("scenes", .number scenes)]⟩
  | .loaded path groups =>
    ⟨.info, "scenepanel_core::model", "Loaded configuration",
      [("path", .bare path), ("groups", .number groups)]⟩

end SceneConfig
