/- A run over a file system in memory, as a function of the files.
   A look at a configuration leaves the file system as it is. -/
import SceneConfig.Tool.Run

namespace SceneConfig
open CommandLine Tool

namespace FileSystem
variable (fs : FileSystem)

def settings? (path : String) : Option (Settings × Notice) :=
  if fs.contains path then
    match fs.readText path with
    | .ok text => (Settings.parse text).map (·, .settingsLoaded path)
    | .error _ => none
  else some (.default, .settingsAbsent path)

def outcome (options : Options) (view : View) : Outcome :=
  match fs.settings? (options.settings?.getD "scenepanel.toml") with
  | none => failure
  | some (settings, notice) =>
    let path := options.config?.getD settings.sourcePath
    let outcome := inspect view path (fs.readText path)
    { outcome with notices := notice :: outcome.notices }

theorem run_contains (path : String) :
    (disk.contains path).run fs = (fs.contains path, fs) := rfl

theorem run_read (path : String) : (disk.read path).run fs = (fs.readText path, fs) := rfl

theorem run_write (path text : String) :
    (disk.write path text).run fs =
      match fs.write path text.toUTF8 with
      | .ok after => (true, after)
      | .error _ => (false, fs) := by
  simp only [disk, StateT.run_bind, StateT.run_get]
  change StateT.run (match fs.write path text.toUTF8 with
    | .ok after => do
      set after
      return true
    | .error _ => return false) fs = _
  cases fs.write path text.toUTF8 <;> rfl

theorem run_loadSettings (path : String) :
    (loadSettings disk path).run fs = (fs.settings? path, fs) := by
  rw [loadSettings, StateT.run_bind, run_contains, settings?]
  cases fs.contains path with
  | false => rfl
  | true =>
      change (disk.read path >>= _ : StateM FileSystem _).run fs = _
      rw [StateT.run_bind, run_read]
      cases fs.readText path <;> rfl

theorem run_runView (options : Options) (view : View) :
    (runView disk options view).run fs = (fs.outcome options view, fs) := by
  rw [runView, StateT.run_bind, run_loadSettings, outcome]
  cases fs.settings? (options.settings?.getD "scenepanel.toml") with
  | none => rfl
  | some found => rfl

/-- What a path that cannot be written to gives is a failure without an entry. -/
theorem run_runInit (path : String) :
    (runInit disk path).run fs =
      match fs.write path Settings.defaultText.toUTF8 with
      | .ok after => (⟨0, [.settingsWritten path], ""⟩, after)
      | .error _ => (failure, fs) := by
  rw [runInit, StateT.run_bind, run_write]
  cases fs.write path Settings.defaultText.toUTF8 <;> rfl

end FileSystem

namespace Tool
variable {arguments : List String} {options : Options}

theorem run_inspect {view : View} (h : Request.ofArguments arguments = .run options (.inspect view))
    (fs : FileSystem) :
    (Tool.run FileSystem.disk arguments).run fs =
      (report (fs.outcome options view) (threshold options), fs) := by
  rw [Tool.run, h]
  change (runView FileSystem.disk options view >>= _ : StateM FileSystem _).run fs = _
  rw [StateT.run_bind, FileSystem.run_runView]
  rfl

theorem run_initSettings {path : String}
    (h : Request.ofArguments arguments = .run options (.initSettings path)) (fs : FileSystem) :
    (Tool.run FileSystem.disk arguments).run fs =
      match fs.write path Settings.defaultText.toUTF8 with
      | .ok after => (report ⟨0, [.settingsWritten path], ""⟩ (threshold options), after)
      | .error _ => (report failure (threshold options), fs) := by
  rw [Tool.run, h]
  change (runInit FileSystem.disk path >>= _ : StateM FileSystem _).run fs = _
  rw [StateT.run_bind, FileSystem.run_runInit]
  cases fs.write path Settings.defaultText.toUTF8 <;> rfl

end Tool

namespace CommandLine.Options

/-- Where settings are looked for. -/
def settingsPath (options : Options) : String :=
  options.settings?.getD "scenepanel.toml"

/-- Where the configuration is read. -/
def sourcePath (options : Options) (settings : Settings) : String :=
  options.config?.getD settings.sourcePath

end CommandLine.Options

def FileSystem.load (fs : FileSystem) (path : String) : Traced LoadError Model :=
  Model.load path (fs.readText path)

/-- The entry, if it is shown. -/
def shown (notice : Notice) (options : Options) : List LogEntry :=
  [notice.entry].filter fun entry => entry.level.shownAt (threshold options)

section Inspections
variable {fs : FileSystem} {options : Options} {settings : Settings} {notice : Notice}
  {view : View} {path : String} {arguments : List String}

theorem inspect_of_error {error : LoadError} (h : (fs.load path).result = .error error) :
    inspect view path (fs.readText path) =
      ⟨1, (fs.load path).events.map .compiling ++ [.rejected path error], ""⟩ := by
  rw [FileSystem.load] at h
  rw [inspect, h, FileSystem.load]

theorem inspect_of_ok {model : Model} (h : (fs.load path).result = .ok model) :
    inspect view path (fs.readText path) =
      ⟨0, (fs.load path).events.map .compiling, render view path model⟩ := by
  rw [FileSystem.load] at h
  rw [inspect, h, FileSystem.load]

theorem outcome_of_broken (h : fs.settings? options.settingsPath = none) :
    fs.outcome options view = failure := by
  rw [Options.settingsPath] at h
  rw [FileSystem.outcome, h]

theorem outcome_of_settings? (h : fs.settings? options.settingsPath = some (settings, notice)) :
    fs.outcome options view =
      let outcome := inspect view (options.sourcePath settings)
        (fs.readText (options.sourcePath settings))
      { outcome with notices := notice :: outcome.notices } := by
  rw [Options.settingsPath] at h
  rw [FileSystem.outcome, h]
  rfl

theorem report_noticed (notice : Notice) (outcome : Outcome) (options : Options) :
    report { outcome with notices := notice :: outcome.notices } (threshold options) =
      ⟨outcome.exitCode, shown notice options ++ (report outcome (threshold options)).log,
        outcome.output⟩ := by
  rw [report, report, shown, ← List.filter_append]
  rfl

theorem run_of_settings? (h : Request.ofArguments arguments = .run options (.inspect view))
    (found : fs.settings? options.settingsPath = some (settings, notice)) :
    (Tool.run FileSystem.disk arguments).run fs =
      let outcome := inspect view (options.sourcePath settings)
        (fs.readText (options.sourcePath settings))
      (⟨outcome.exitCode, shown notice options ++ (report outcome (threshold options)).log,
        outcome.output⟩, fs) := by
  rw [run_inspect h, outcome_of_settings? found, report_noticed]

end Inspections

end SceneConfig
