/- Where a configuration is looked for.
   Broken settings end a run before it reads a configuration; with other settings a run hangs on
   the path that they come to and on what is there. Settings that were written by the tool itself
   change nothing. -/
import SceneConfig.Proofs.Store.Written
import SceneConfig.Proofs.Tool.SettingsFile
import SceneConfig.Proofs.Tool.Views

namespace SceneConfig
open CommandLine

/-- The path that a configuration is read from: the options name it, else the settings, else it is
the default one. -/
inductive SourcePath (fs : FileSystem) (options : Options) : String → Prop
  | option {path : String} : options.config? = some path → SourcePath fs options path
  | settings {path : String} : options.config? = none →
      fs.NamesPath options.settingsPath path → SourcePath fs options path
  | default : options.config? = none → (∀ path, ¬fs.NamesPath options.settingsPath path) →
      SourcePath fs options "/spiffs/config.json"

theorem sourcePath_iff {fs : FileSystem} {options : Options} {settings : Settings}
    {notice : Notice} (h : fs.settings? options.settingsPath = some (settings, notice))
    (path : String) : SourcePath fs options path ↔ path = options.sourcePath settings := by
  obtain ⟨named, unnamed⟩ := FileSystem.sourcePath_of_settings? h
  rw [Options.sourcePath]
  constructor
  · intro source
    cases source with
    | option given => rw [given, Option.getD_some]
    | settings free names => rw [free, Option.getD_none, named path names]
    | default free nothing => rw [free, Option.getD_none, unnamed nothing]
  · rintro rfl
    cases given : options.config? with
    | some path => exact .option given
    | none =>
        by_cases names : ∃ path, fs.NamesPath options.settingsPath path
        · obtain ⟨path, names⟩ := names
          rw [Option.getD_none, named path names]
          exact .settings given names
        · have nothing (path : String) (name : fs.NamesPath options.settingsPath path) : False :=
            names ⟨path, name⟩
          rw [Option.getD_none, unnamed nothing]
          exact .default given nothing

namespace FileSystem

/-- A disk that keeps the paths that it has read. -/
def recordingDisk : Disk (StateM (FileSystem × List String)) where
  contains path := do return (← get).1.contains path
  read path := modifyGet fun (fs, paths) => (fs.readText path, fs, paths ++ [path])
  write path text := modifyGet fun (fs, paths) =>
    match fs.write path text.toUTF8 with
    | .ok after => (true, after, paths)
    | .error _ => (false, fs, paths)

variable (fs : FileSystem) (paths : List String)

def settingsReads (path : String) : List String :=
  if fs.contains path then [path] else []

/-- The paths that a look at a configuration reads. -/
def reads (options : Options) : List String :=
  fs.settingsReads options.settingsPath ++
    match fs.settings? options.settingsPath with
    | none => []
    | some (settings, _) => [options.sourcePath settings]

theorem run_recording_loadSettings (path : String) :
    (Tool.loadSettings recordingDisk path).run (fs, paths) =
      (fs.settings? path, fs, paths ++ fs.settingsReads path) := by
  have looked : (recordingDisk.contains path).run (fs, paths) =
      (fs.contains path, fs, paths) := rfl
  rw [Tool.loadSettings, StateT.run_bind, looked, settings?, settingsReads]
  cases fs.contains path with
  | false =>
      simp only [Bool.false_eq_true, if_false, List.append_nil]
      rfl
  | true =>
      have read : (recordingDisk.read path).run (fs, paths) =
          (fs.readText path, fs, paths ++ [path]) := rfl
      change (recordingDisk.read path >>= _ : StateM _ _).run (fs, paths) = _
      rw [StateT.run_bind, read]
      cases fs.readText path <;> rfl

theorem run_recording_runView (options : Options) (view : View) :
    (Tool.runView recordingDisk options view).run (fs, paths) =
      (fs.outcome options view, fs, paths ++ fs.reads options) := by
  rw [Tool.runView, StateT.run_bind, run_recording_loadSettings, outcome, reads,
    Options.settingsPath]
  cases fs.settings? (options.settings?.getD "scenepanel.toml") with
  | none =>
      rw [List.append_nil]
      rfl
  | some found =>
      rw [← List.append_assoc]
      rfl

end FileSystem

namespace Tool
variable {arguments : List String} {options : Options}

theorem run_recording_inspect {view : View}
    (h : Request.ofArguments arguments = .run options (.inspect view)) (fs : FileSystem) :
    (Tool.run FileSystem.recordingDisk arguments).run (fs, []) =
      (report (fs.outcome options view) (threshold options), fs, fs.reads options) := by
  rw [Tool.run, h]
  change (runView FileSystem.recordingDisk options view >>= _ : StateM _ _).run (fs, []) = _
  rw [StateT.run_bind, FileSystem.run_recording_runView]
  rfl

/-- Settings are written without a look at any file. -/
theorem run_recording_initSettings {path : String}
    (h : Request.ofArguments arguments = .run options (.initSettings path)) (fs : FileSystem) :
    ((Tool.run FileSystem.recordingDisk arguments).run (fs, [])).2.2 = [] := by
  have wrote : (FileSystem.recordingDisk.write path Settings.defaultText).run (fs, []) =
      match fs.write path Settings.defaultText.toUTF8 with
      | .ok after => (true, after, [])
      | .error _ => (false, fs, []) := rfl
  rw [Tool.run, h]
  change (((FileSystem.recordingDisk.write path Settings.defaultText >>= _) >>= _ :
    StateM _ _).run (fs, [])).2.2 = _
  rw [StateT.run_bind, StateT.run_bind, wrote]
  cases fs.write path Settings.defaultText.toUTF8 <;> rfl

end Tool

/-- The run fails without an entry, and only the settings are read. -/
structure Refused (fs : FileSystem) (options : Options) (arguments : List String) : Prop where
  run : (Tool.run FileSystem.disk arguments).run fs = (⟨1, [], ""⟩, fs)
  reads : (Tool.run FileSystem.recordingDisk arguments).run (fs, []) =
    (⟨1, [], ""⟩, fs, [options.settingsPath])

/-- Exit code and output are those of the path that the configuration is read from, with what is
there. Nothing else is read, but for the settings. -/
structure Resolved (fs : FileSystem) (options : Options) (view : View)
    (arguments : List String) : Prop where
  source : ∃ path, SourcePath fs options path
  run : ∀ path, SourcePath fs options path → ∃ log,
    (Tool.run FileSystem.disk arguments).run fs =
      (⟨(Tool.inspect view path (fs.readText path)).exitCode, log,
        (Tool.inspect view path (fs.readText path)).output⟩, fs)
  reads : ∀ path, SourcePath fs options path →
    ((Tool.run FileSystem.recordingDisk arguments).run (fs, [])).2.2 =
      fs.settingsReads options.settingsPath ++ [path]

/-- A run with the settings at `path` comes to what a run without settings comes to, and logs the
same but for the entry about them. -/
def LikeDefault (fs : FileSystem) (path : String) : Prop :=
  ∀ (view : View) (options others : Options) (arguments words : List String) (other : FileSystem),
    Request.ofArguments arguments = .run options (.inspect view) →
    Request.ofArguments words = .run others (.inspect view) →
    options.settings? = some path → other.contains others.settingsPath = false →
    others.config? = options.config? → others.logLevel? = options.logLevel? →
    other.readText (options.config?.getD "/spiffs/config.json") =
      fs.readText (options.config?.getD "/spiffs/config.json") →
    ∃ code log output,
      (Tool.run FileSystem.disk arguments).run fs =
          (⟨code, shown (.settingsLoaded path) options ++ log, output⟩, fs) ∧
        (Tool.run FileSystem.disk words).run other =
          (⟨code, shown (.settingsAbsent others.settingsPath) options ++ log, output⟩, other)

/-- Whether settings are written at the path hangs on no file's contents and on no other option,
and where they are written, they are like no settings. -/
structure Initialized (fs : FileSystem) (options : Options) (path : String)
    (arguments : List String) : Prop where
  reads : ((Tool.run FileSystem.recordingDisk arguments).run (fs, [])).2.2 = []
  contents : ∀ (start : FileSystem) (location : Location) (old new : ByteArray),
    ((Tool.run FileSystem.disk arguments).run (start.put location old)).1 =
      ((Tool.run FileSystem.disk arguments).run (start.put location new)).1
  regardless : ∀ words others, Request.ofArguments words = .run others (.initSettings path) →
    others.logLevel? = options.logLevel? →
      (Tool.run FileSystem.disk words).run fs = (Tool.run FileSystem.disk arguments).run fs
  success : ∀ report after, (Tool.run FileSystem.disk arguments).run fs = (report, after) →
    report.exitCode = 0 →
      report = ⟨0, shown (.settingsWritten path) options, ""⟩ ∧
        fs.Written path Settings.defaultText.toUTF8 after ∧ LikeDefault after path
  failure : ∀ report after, (Tool.run FileSystem.disk arguments).run fs = (report, after) →
    report.exitCode ≠ 0 → report = ⟨1, [], ""⟩ ∧ after = fs

section Inspections
variable {fs : FileSystem} {options : Options} {view : View} {arguments : List String}

theorem refused_of_brokenSettings
    (h : Request.ofArguments arguments = .run options (.inspect view))
    (broken : fs.BrokenSettings options.settingsPath) : Refused fs options arguments := by
  have unsettled := FileSystem.settings?_eq_none_iff.mpr broken
  have present : fs.contains options.settingsPath = true := by
    cases broken with
    | unreadable present _ | malformed present _ _ => exact present
    | noSource has _ | noText has _ _ =>
        obtain ⟨_, _, present, _⟩ := has
        exact present
  constructor
  · rw [Tool.run_inspect h, outcome_of_broken unsettled]
    rfl
  · rw [Tool.run_recording_inspect h, outcome_of_broken unsettled, FileSystem.reads, unsettled,
      FileSystem.settingsReads, if_pos present]
    rfl

theorem resolved_of_settings (h : Request.ofArguments arguments = .run options (.inspect view))
    (sound : ¬fs.BrokenSettings options.settingsPath) :
    Resolved fs options view arguments := by
  obtain ⟨⟨settings, notice⟩, found⟩ :=
    Option.ne_none_iff_exists'.mp fun none => sound (FileSystem.settings?_eq_none_iff.mp none)
  refine ⟨⟨options.sourcePath settings, (sourcePath_iff found _).mpr rfl⟩, ?_, ?_⟩
  · intro path source
    cases (sourcePath_iff found path).mp source
    exact ⟨_, run_of_settings? h found⟩
  · intro path source
    cases (sourcePath_iff found path).mp source
    rw [Tool.run_recording_inspect h, FileSystem.reads, found]

end Inspections

section Initialization
variable {fs after : FileSystem} {options : Options} {path : String} {arguments : List String}

theorem likeDefault_of_written (h : fs.Written path Settings.defaultText.toUTF8 after) :
    LikeDefault after path := by
  intro view options others arguments words other asked asked' chosen absent config level same
  have settings : after.settings? options.settingsPath = some (.default, .settingsLoaded path) := by
    rw [Options.settingsPath, chosen, Option.getD_some, FileSystem.settings?, h.contains,
      h.readText]
    simp only [if_true, Settings.parse_defaultText, Option.map_some]
  have default : other.settings? others.settingsPath =
      some (.default, .settingsAbsent others.settingsPath) := by
    rw [FileSystem.settings?, absent]
    rfl
  have source : others.sourcePath .default = options.sourcePath .default := by
    rw [Options.sourcePath, config, Options.sourcePath]
  have threshold : Tool.threshold others = Tool.threshold options := by
    rw [Tool.threshold, level, Tool.threshold]
  have read : other.readText (options.sourcePath .default) =
      after.readText (options.sourcePath .default) := same
  refine ⟨_, _, _, run_of_settings? asked settings, ?_⟩
  rw [run_of_settings? asked' default, source, read, shown, threshold]
  rfl

theorem initialized_of_initSettings
    (h : Request.ofArguments arguments = .run options (.initSettings path)) (fs : FileSystem) :
    Initialized fs options path arguments := by
  have run := Tool.run_initSettings h
  refine ⟨Tool.run_recording_initSettings h fs, ?_, ?_, ?_, ?_⟩
  · intro start location old new
    have written := start.write_put_congr location old new path Settings.defaultText.toUTF8
    rw [run, run]
    generalize (start.put location old).write path _ = x,
      (start.put location new).write path _ = y at written
    cases x <;> cases y <;> first | rfl | cases written
  · intro words others asked level
    have threshold : Tool.threshold others = Tool.threshold options := by
      rw [Tool.threshold, level, Tool.threshold]
    rw [run, Tool.run_initSettings asked, threshold]
  · intro report after ran success
    rw [run] at ran
    cases wrote : fs.write path Settings.defaultText.toUTF8 with
    | ok written =>
        rw [wrote] at ran
        cases ran
        have written := FileSystem.written_of_write wrote
        exact ⟨rfl, written, likeDefault_of_written written⟩
    | error e =>
        rw [wrote] at ran
        cases ran
        cases success
  · intro report after ran failure
    rw [run] at ran
    cases wrote : fs.write path Settings.defaultText.toUTF8 with
    | ok written =>
        rw [wrote] at ran
        cases ran
        exact absurd rfl failure
    | error e =>
        rw [wrote] at ran
        cases ran
        exact ⟨rfl, rfl⟩

end Initialization

/-- Broken settings win over every option. Other settings only lead to a path, and the settings that
the tool writes lead where none would lead. -/
theorem Tool.source_resolution (fs : FileSystem) (options : Options) (arguments : List String) :
    (∀ view, Request.ofArguments arguments = .run options (.inspect view) →
        (fs.BrokenSettings options.settingsPath → Refused fs options arguments) ∧
          (¬fs.BrokenSettings options.settingsPath → Resolved fs options view arguments)) ∧
      ∀ path, Request.ofArguments arguments = .run options (.initSettings path) →
        Initialized fs options path arguments := by
  constructor
  · intro view asked
    exact ⟨refused_of_brokenSettings asked, resolved_of_settings asked⟩
  · intro path asked
    exact initialized_of_initSettings asked fs

/-- A settings file that breaks off, beside a configuration. -/
def brokenFiles : FileSystem :=
  ⟨[], [(["scenepanel.toml"], "[source".toUTF8), (["config.json"], sampleDocument.pretty.toUTF8)]⟩

theorem Tool.source_resolution_sample :
    Request.ofArguments ["-c", "config.json", "check"] =
        .run ⟨none, "config.json", none⟩ (.inspect .check) ∧
      brokenFiles.BrokenSettings "scenepanel.toml" ∧
      Refused brokenFiles ⟨none, "config.json", none⟩ ["-c", "config.json", "check"] ∧
      ¬sampleFiles.BrokenSettings "scenepanel.toml" ∧
      Resolved sampleFiles ⟨none, "config.json", none⟩ .check ["-c", "config.json", "check"] ∧
      ∃ report after, (Tool.run FileSystem.disk ["init-settings", "new.toml"]).run sampleFiles =
        (report, after) ∧ report.exitCode = 0 ∧ LikeDefault after "new.toml" := by
  have asked : Request.ofArguments ["-c", "config.json", "check"] =
      .run ⟨none, "config.json", none⟩ (.inspect .check) := by decide
  have broken : brokenFiles.BrokenSettings "scenepanel.toml" := by
    have located : brokenFiles.locate "scenepanel.toml" = .ok ["scenepanel.toml"] := by rfl
    have read : brokenFiles.readText "scenepanel.toml" = .ok "[source" := by
      rw [FileSystem.readText_of_locate located rfl, decodeText_toUTF8]
    have parsed : (Toml.parse "[source").isNone = true := by decide +kernel
    exact .malformed rfl read (Option.isNone_iff_eq_none.mp parsed)
  have sound : ¬sampleFiles.BrokenSettings "scenepanel.toml" := by
    intro broken
    cases settings?_sampleFiles.symm.trans (FileSystem.settings?_eq_none_iff.mpr broken)
  obtain ⟨looks, _⟩ := Tool.source_resolution brokenFiles ⟨none, "config.json", none⟩
    ["-c", "config.json", "check"]
  obtain ⟨looks', _⟩ := Tool.source_resolution sampleFiles ⟨none, "config.json", none⟩
    ["-c", "config.json", "check"]
  obtain ⟨_, writes⟩ := Tool.source_resolution sampleFiles .none ["init-settings", "new.toml"]
  have asked' : Request.ofArguments ["init-settings", "new.toml"] =
      .run .none (.initSettings "new.toml") := by decide
  have wrote : sampleFiles.write "new.toml" Settings.defaultText.toUTF8 =
      .ok (sampleFiles.put ["new.toml"] Settings.defaultText.toUTF8) := by rfl
  have ran := Tool.run_initSettings asked' sampleFiles
  rw [wrote] at ran
  obtain ⟨_, _, like⟩ := (writes "new.toml" asked').success _ _ ran rfl
  exact ⟨asked, broken, (looks .check asked).1 broken, sound, (looks' .check asked).2 sound, _, _,
    ran, rfl, like⟩

/-- An array stands under `source`, with the path in it. -/
def arrayFiles : FileSystem :=
  ⟨[], [(["scenepanel.toml"], "source = ['config.json']\n".toUTF8),
    (["config.json"], sampleDocument.pretty.toUTF8)]⟩

def Toml.Value.isArray : Toml.Value → Bool
  | .array _ => true
  | _ => false

theorem Tool.array_source_accepted :
    Request.ofArguments ["check"] = .run .none (.inspect .check) ∧
      (∃ items, arrayFiles.HasSource "scenepanel.toml" (.array items)) ∧
      ((Tool.run FileSystem.disk ["check"]).run arrayFiles).1.exitCode = 0 := by
  have asked : Request.ofArguments ["check"] = .run .none (.inspect .check) := by decide
  have located : arrayFiles.locate "scenepanel.toml" = .ok ["scenepanel.toml"] := by rfl
  have read : arrayFiles.readText "scenepanel.toml" = .ok "source = ['config.json']\n" := by
    rw [FileSystem.readText_of_locate located rfl, decodeText_toUTF8]
  refine ⟨asked, ?_, ?_⟩
  · have array : (((Toml.parse "source = ['config.json']\n").bind
        (Toml.Table.lookup "source")).any Toml.Value.isArray) = true := by decide +kernel
    obtain ⟨source, found, shape⟩ := (Option.any_eq_true _ _).mp array
    obtain ⟨table, parsed, there⟩ := Option.bind_eq_some_iff.mp found
    cases source with
    | array items => exact ⟨items, _, table, rfl, read, parsed, there⟩
    | string | integer | float | boolean | dateTime | tables | table => cases shape
  · have parsed : Settings.parse "source = ['config.json']\n" = some ⟨"config.json"⟩ := by
      decide +kernel
    have settings : arrayFiles.settings? "scenepanel.toml" =
        some (⟨"config.json"⟩, .settingsLoaded "scenepanel.toml") := by
      have present : arrayFiles.contains "scenepanel.toml" = true := rfl
      rw [FileSystem.settings?, present, read]
      simp only [if_true, parsed, Option.map_some]
    have placed : arrayFiles.locate "config.json" = .ok ["config.json"] := by rfl
    have text : arrayFiles.readText "config.json" = .ok sampleDocument.pretty := by
      rw [FileSystem.readText_of_locate placed rfl, decodeText_toUTF8]
    have loaded : (arrayFiles.load "config.json").result = .ok sampleModel := by
      rw [FileSystem.load, text, load_sample]
    have inspected : Tool.inspect .check "config.json" (arrayFiles.readText "config.json") =
        ⟨0, _, _⟩ := inspect_of_ok loaded
    have ran := run_of_settings? asked settings
    rw [Options.sourcePath, Options.none, Option.getD_none, inspected] at ran
    rw [ran]

end SceneConfig
