/- A run of the command line tool: its exit code, its log, its output, and what it writes.
   The run is the same over any disk; over a file system in memory it is a function. -/
import SceneConfig.Model.Dump
import SceneConfig.Model.Summary
import SceneConfig.Store.FileSystem
import SceneConfig.Store.Load
import SceneConfig.Tool.CommandLine
import SceneConfig.Tool.Log
import SceneConfig.Tool.Settings

namespace SceneConfig

structure Disk (m : Type → Type) where
  contains : String → m Bool
  read : String → m (Except StorageError String)
  /-- Whether the text could be written. -/
  write : String → String → m Bool

def FileSystem.disk : Disk (StateM FileSystem) where
  contains path := do return (← get).contains path
  read path := do return (← get).readText path
  write path text := do
    match (← get).write path text.toUTF8 with
    | .ok fs =>
      set fs
      return true
    | .error _ => return false

inductive Notice where
  | compiling (event : Event)
  | settingsLoaded (path : String)
  | settingsAbsent (path : String)
  | settingsWritten (path : String)
  | rejected (path : String) (error : LoadError)
deriving DecidableEq, Repr

def Notice.entry : Notice → LogEntry
  | .compiling event => event.entry
  | .settingsLoaded path =>
    ⟨.info, "scenepanel::settings", "Loaded settings", [("path", .bare path)]⟩
  | .settingsAbsent path =>
    ⟨.info, "scenepanel::settings", "Settings file not found, using defaults",
      [("path", .bare path)]⟩
  | .settingsWritten path =>
    ⟨.info, "scenepanel", "Wrote default settings", [("path", .bare path)]⟩
  | .rejected path error =>
    ⟨.error, "scenepanel", s!"Configuration rejected: {error.message}",
      [("path", .bare path), ("category", .quoted error.category)]⟩

/-- What a command comes to, with every entry that it logs. -/
structure Outcome where
  exitCode : Nat
  notices : List Notice
  output : String
deriving DecidableEq, Repr

structure Report where
  exitCode : Nat
  log : List LogEntry
  output : String
deriving DecidableEq, Repr

namespace Tool
open CommandLine

def version : String := "scenepanel 0.1.0\n"

def failure : Outcome := ⟨1, [], ""⟩

def checkLine (path : String) (model : Model) : String :=
  s!"{path}: OK ({model.groups.length} groups, {model.subscribeTopics.length} topics)\n"

def render (view : View) (path : String) (model : Model) : String :=
  match view with
  | .check => checkLine path model
  | .show => model.summary
  | .dump => model.dump ++ "\n"

variable {m : Type → Type} [Monad m]

/-- The settings at `path`, the default ones when nothing is there; none when they are broken. -/
def loadSettings (disk : Disk m) (path : String) : m (Option (Settings × Notice)) := do
  if ← disk.contains path then
    match ← disk.read path with
    | .ok text => return (Settings.parse text).map (·, .settingsLoaded path)
    | .error _ => return none
  else return some (.default, .settingsAbsent path)

/-- Compiles the contents of `path` and shows the model, or the reason why there is none. -/
def inspect (view : View) (path : String) (contents : Except StorageError String) : Outcome :=
  let load := Model.load path contents
  let notices := load.events.map Notice.compiling
  match load.result with
  | .ok model => ⟨0, notices, render view path model⟩
  | .error error => ⟨1, notices ++ [.rejected path error], ""⟩

/-- Broken settings end a run before anything is logged, also when their path is not needed. -/
def runView (disk : Disk m) (options : Options) (view : View) : m Outcome := do
  match ← loadSettings disk (options.settings?.getD "scenepanel.toml") with
  | none => return failure
  | some (settings, notice) => do
    let path := options.config?.getD settings.sourcePath
    let outcome := inspect view path (← disk.read path)
    return { outcome with notices := notice :: outcome.notices }

def runInit (disk : Disk m) (path : String) : m Outcome := do
  if ← disk.write path Settings.defaultText then return ⟨0, [.settingsWritten path], ""⟩
  else return failure

def runCommand (disk : Disk m) (options : Options) : Command → m Outcome
  | .inspect view => runView disk options view
  | .initSettings path => runInit disk path

/-- The least severe level to show: what the options name, else `info`. -/
def threshold (options : Options) : Level :=
  (options.logLevel?.map Level.ofWord).getD .info

/-- The log level decides which entries are shown, and nothing else. -/
def report (outcome : Outcome) (threshold : Level) : Report where
  exitCode := outcome.exitCode
  log := (outcome.notices.map Notice.entry).filter fun entry => entry.level.shownAt threshold
  output := outcome.output

/-- The text that answers a request for help is not part of the report. -/
def run (disk : Disk m) (arguments : List String) : m Report :=
  match Request.ofArguments arguments with
  | .misuse => return ⟨2, [], ""⟩
  | .help => return ⟨0, [], ""⟩
  | .version => return ⟨0, [], version⟩
  | .run options command => do
    let outcome ← runCommand disk options command
    return report outcome (threshold options)

end Tool

end SceneConfig
