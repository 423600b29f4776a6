/- The three views of a configuration agree: on whether it is accepted, on what is logged, and on
   how many groups and devices there are. -/
import SceneConfig.Proofs.Document.ModelCopies
import SceneConfig.Proofs.Model.ReadBack
import SceneConfig.Proofs.Model.SummaryLines
import SceneConfig.Proofs.Store.OneFile
import SceneConfig.Proofs.Tool.Runs

namespace SceneConfig
open CommandLine
open Json (Value)

section Counts

/-- The entries that a group has under `devices`. -/
theorem Group.exists_entries (group : Group) :
    ∃ entries, group.toJson.getItems? "devices" = some entries ∧
      entries.length = group.topics.length := by
  cases group with
  | switch g =>
      refine ⟨_, rfl, ?_⟩
      simp only [topics, TopicList.topics, List.length_map]
  | sensor g =>
      refine ⟨_, rfl, ?_⟩
      simp only [topics, TopicList.topics, List.length_map]

theorem exists_entries_of_groups (groups : List Group) :
    ∃ entries, (groups.map Group.toJson).mapM (Value.getItems? · "devices") = some entries ∧
      (entries.map List.length).sum = (groups.flatMap Group.topics).length := by
  induction groups with
  | nil => exact ⟨[], rfl, rfl⟩
  | cons group groups ih =>
      obtain ⟨first, read, one⟩ := group.exists_entries
      obtain ⟨rest, reads, others⟩ := ih
      refine ⟨first :: rest, ?_, ?_⟩
      · simp only [List.map_cons, List.mapM_cons, read, reads]
        rfl
      · simp only [List.map_cons, List.sum_cons, one, others, List.flatMap_cons,
          List.length_append]

end Counts

/-- The numbers in the outputs are the same: those of the line that tells that all is well, those of
the summary, and those of the printed tree. In the summary each group is a block of lines, and what
is behind its heading are the lines of its devices; the entries of the tree are read as devices. -/
structure SameNumbers (path : String) (model : Model) (output : View → String)
    (groups devices : Nat) : Prop where
  counted : model.groups.length = groups ∧ model.subscribeTopics.length = devices
  check : output .check = s!"{path}: OK ({groups} groups, {devices} topics)\n"
  summary : ∃ blocks, List.Forall₂ Group.ShownBy model.groups blocks ∧
    output .show = String.join ((["WiFi:     " ++ model.wifi.ssid,
      "Timezone: " ++ (if model.timezone = "" then "(none)" else model.timezone),
      "Broker:   " ++ model.broker.address ++ " (user " ++ model.broker.username ++ ")",
      "Groups:   " ++ toString groups] ++ blocks.flatten).map (· ++ "\n")) ∧
    blocks.length = groups ∧ (blocks.map fun block => block.tail.length).sum = devices
  dump : output .dump = model.toJson.pretty ++ "\n"
  tree : ∃ items entries, model.toJson.getItems? "groups" = some items ∧ items.length = groups ∧
    items.mapM (Value.getItems? · "devices") = some entries ∧
      (entries.map List.length).sum = devices
  decoded : Model.ofJson? model.toJson = some model.withoutPasswords
  readBack : (∀ id ∈ model.ids, id < 2 ^ 64) → parseDocument (output .dump) = .ok model.toJson

theorem sameNumbers_render (path : String) (model : Model) :
    SameNumbers path model (fun view => Tool.render view path model) model.groups.length
      model.subscribeTopics.length where
  counted := ⟨rfl, rfl⟩
  check := rfl
  summary := by
    refine ⟨model.groups.map Group.summary, model.shownBy_summaries, ?_, List.length_map _, ?_⟩
    · rw [← List.flatMap_def]
      rfl
    · rw [List.map_map]
      exact model.sum_deviceLines
  dump := rfl
  tree := by
    obtain ⟨entries, read, sum⟩ := exists_entries_of_groups model.groups
    exact ⟨model.groups.map Group.toJson, entries, rfl, List.length_map _, read, sum⟩
  decoded := model.ofJson?_toJson
  readBack small := Model.parseDocument_render_dump small path

section Log

theorem Event.level_entry (event : Event) : event.entry.level ≠ .error := by
  cases event <;> exact nofun

theorem Level.shownAt_error (threshold : Level) : Level.shownAt .error threshold = true := by
  cases threshold <;> rfl

/-- The last entry is the only one of level ERROR, and tells path, category and text. -/
def EndsInRejection (path : String) (error : LoadError) (log : List LogEntry) : Prop :=
  ∃ before, log = before ++
      [⟨.error, "scenepanel", "Configuration rejected: " ++ error.message,
        [("path", .bare path), ("category", .quoted error.category)]⟩] ∧
    ∀ entry ∈ before, entry.level ≠ .error

/-- With the entry about the settings in front, and at whatever level entries are shown. -/
theorem endsInRejection_report {notice : Notice} (quiet : notice.entry.level ≠ .error)
    (options : Options) (events : List Event) (path : String) (error : LoadError) :
    EndsInRejection path error (shown notice options ++
      (Tool.report ⟨1, events.map .compiling ++ [.rejected path error], ""⟩
        (Tool.threshold options)).log) := by
  refine ⟨shown notice options ++ ((events.map Notice.compiling).map Notice.entry).filter
    fun entry => entry.level.shownAt (Tool.threshold options), ?_, ?_⟩
  · have last : [(Notice.rejected path error).entry].filter
        (fun entry => entry.level.shownAt (Tool.threshold options)) =
          [(Notice.rejected path error).entry] :=
      List.filter_cons_of_pos (Level.shownAt_error _)
    rw [Tool.report, List.map_append, List.filter_append, List.append_assoc, List.map_singleton,
      last]
    rfl
  · intro entry member
    rcases List.mem_append.mp member with first | compiling
    · obtain ⟨logged, _⟩ := List.mem_filter.mp first
      cases List.mem_singleton.mp logged
      exact quiet
    · obtain ⟨logged, _⟩ := List.mem_filter.mp compiling
      obtain ⟨source, found, rfl⟩ := List.mem_map.mp logged
      obtain ⟨event, _, rfl⟩ := List.mem_map.mp found
      exact event.level_entry

theorem level_of_settings? {fs : FileSystem} {path : String} {settings : Settings}
    {notice : Notice} (h : fs.settings? path = some (settings, notice)) :
    notice.entry.level ≠ .error := by
  rw [FileSystem.settings?] at h
  split at h
  · split at h
    · obtain ⟨_, _, same⟩ := Option.map_eq_some_iff.mp h
      cases same
      intro severe
      cases severe
    · cases h
  · cases h
    intro severe
    cases severe

end Log

/-- How a look at a configuration ends, whichever view is asked for. -/
inductive Inspected (fs : FileSystem) (options : Options) :
    Nat → List LogEntry → (View → String) → Prop
  /-- The settings are broken. -/
  | unsettled : fs.settings? options.settingsPath = none →
      Inspected fs options 1 [] fun _ => ""
  | rejected {settings : Settings} {notice : Notice} {error : LoadError} {log : List LogEntry} :
      fs.settings? options.settingsPath = some (settings, notice) →
      (fs.load (options.sourcePath settings)).result = .error error →
      EndsInRejection (options.sourcePath settings) error log →
      Inspected fs options 1 log fun _ => ""
  | accepted {settings : Settings} {notice : Notice} {model : Model} {log : List LogEntry}
      {output : View → String} {groups devices : Nat} :
      fs.settings? options.settingsPath = some (settings, notice) →
      (fs.load (options.sourcePath settings)).result = .ok model →
      SameNumbers (options.sourcePath settings) model output groups devices →
      Inspected fs options 0 log output

/-- The exit code, the log and the files are the same for all views, and so are the numbers that
they show. -/
theorem Tool.views_agree {options : Options} {arguments : View → List String}
    (accepted : ∀ view, Request.ofArguments (arguments view) = .run options (.inspect view))
    (fs : FileSystem) :
    ∃ code log output,
      (∀ view, (Tool.run FileSystem.disk (arguments view)).run fs =
        (⟨code, log, output view⟩, fs)) ∧ Inspected fs options code log output := by
  cases found : fs.settings? options.settingsPath with
  | none =>
      refine ⟨1, [], fun _ => "", ?_, .unsettled found⟩
      intro view
      rw [Tool.run_inspect (accepted view), outcome_of_broken found]
      rfl
  | some loaded =>
      obtain ⟨settings, notice⟩ := loaded
      have run (view : View) := run_of_settings? (accepted view) found
      cases result : (fs.load (options.sourcePath settings)).result with
      | error error =>
          have log := endsInRejection_report (level_of_settings? found) options
            (fs.load (options.sourcePath settings)).events (options.sourcePath settings) error
          refine ⟨1, _, fun _ => "", ?_, .rejected found result log⟩
          intro view
          rw [run view, inspect_of_error result]
      | ok model =>
          have numbers := sameNumbers_render (options.sourcePath settings) model
          let entries := (fs.load (options.sourcePath settings)).events.map Notice.compiling
          refine ⟨0, shown notice options ++
            (Tool.report ⟨0, entries, ""⟩ (Tool.threshold options)).log, _, ?_,
            .accepted found result numbers⟩
          intro view
          rw [run view, inspect_of_ok result]
          rfl

section Sample

theorem load_of_parse {text : String} {document : Value} {events : List Event} {model : Model}
    (parsed : Json.parse text = some document) (object : document.isObject = true)
    (compiled : Model.ofDocument document = ⟨events, .ok model⟩) (path : String) :
    Model.load path (.ok text) = ⟨events ++ [.loaded path model.groups.length], .ok model⟩ := by
  have read : Model.ofText text = ⟨events, .ok model⟩ := by
    rw [Model.ofText, parseDocument, parsed]
    simp only [object, if_true]
    change (Model.ofDocument document).mapError LoadError.fault = _
    rw [compiled]
    rfl
  change (Model.ofText text >>= _) = _
  rw [read]
  rfl

def sampleEvents : List Event :=
  [.skippedScene 0 "Camera", .sharedTopic "hall/get" (.device 1 1), .builtGroup 1 .switch "Hall" 2,
    .builtGroup 2 .sensor "Air" 1, .assembled 2 3]

theorem load_sample (path : String) :
    Model.load path (.ok sampleDocument.pretty) =
      ⟨sampleEvents ++ [.loaded path 2], .ok sampleModel⟩ := by
  have readable : Json.Readable Json.Parser.nestingLimit sampleDocument := by
    simp [Json.Parser.nestingLimit, sampleDocument, homeDocument, homeMembers]
  have parsed : Json.parse sampleDocument.pretty = some sampleDocument :=
    Json.parse_pretty readable
  exact load_of_parse parsed rfl rfl path

/-- A file with the sample, and none with settings. -/
def sampleFiles : FileSystem :=
  ⟨[], [(["config.json"], sampleDocument.pretty.toUTF8)]⟩

theorem settings?_sampleFiles : sampleFiles.settings? "scenepanel.toml" =
    some (.default, .settingsAbsent "scenepanel.toml") := rfl

theorem load_sampleFiles :
    sampleFiles.load "config.json" =
      ⟨sampleEvents ++ [.loaded "config.json" 2], .ok sampleModel⟩ := by
  have located : sampleFiles.locate "config.json" = .ok ["config.json"] := by rfl
  rw [FileSystem.load, FileSystem.readText_of_locate located rfl, decodeText_toUTF8, load_sample]

def sampleArguments : View → List String
  | .check => ["-c", "config.json", "check"]
  | .show => ["--config=config.json", "show"]
  | .dump => ["-cconfig.json", "dump", "--"]

theorem Tool.views_agree_sample :
    (∀ view, Request.ofArguments (sampleArguments view) =
        .run ⟨none, "config.json", none⟩ (.inspect view)) ∧
      ∃ log output,
        (∀ view, (Tool.run FileSystem.disk (sampleArguments view)).run sampleFiles =
          (⟨0, log, output view⟩, sampleFiles)) ∧
        SameNumbers "config.json" sampleModel output 2 3 := by
  have accepted (view : View) : Request.ofArguments (sampleArguments view) =
      .run ⟨none, "config.json", none⟩ (.inspect view) := by
    cases view <;> decide
  refine ⟨accepted, ?_⟩
  have loaded : (sampleFiles.load "config.json").result = .ok sampleModel :=
    congrArg Traced.result load_sampleFiles
  obtain ⟨code, log, output, runs, inspected⟩ := Tool.views_agree accepted sampleFiles
  cases inspected with
  | unsettled broken => cases settings?_sampleFiles.symm.trans broken
  | rejected _ failed _ => cases loaded.symm.trans failed
  | @accepted _ _ model _ _ groups devices _ made numbers =>
      cases loaded.symm.trans made
      obtain ⟨two, three⟩ : 2 = groups ∧ 3 = devices := numbers.counted
      subst two three
      exact ⟨log, output, runs, numbers⟩

end Sample

end SceneConfig
