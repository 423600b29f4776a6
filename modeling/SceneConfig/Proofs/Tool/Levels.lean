/- The log level filters, and does nothing else.
   Runs that ask the same at different levels come to the same exit code, output and files, and each
   shows those entries of one log that are severe enough for its level. -/
import Mathlib.Data.List.Forall2
import SceneConfig.Proofs.Tool.Views

namespace SceneConfig
open CommandLine

namespace Level

/-- The word spells the level, each letter in either case. -/
def Named (level : Level) (word : String) : Prop :=
  List.Forall₂ (fun c letter => c = letter ∨ c = letter.toLower) word.toList level.name.toList

theorem toLower_eq_toLower_iff {c letter : Char} (upper : letter.isUpper = true) :
    c.toLower = letter.toLower ↔ c = letter ∨ c = letter.toLower := by
  have capital (c : Char) : c.isUpper = decide (c.val ≥ 'A'.val ∧ c.val ≤ 'Z'.val) := rfl
  have lower (c : Char) : c.toLower.val =
      if c.val ≥ 'A'.val ∧ c.val ≤ 'Z'.val then c.val + ('a'.val - 'A'.val) else c.val := by
    by_cases big : c.val ≥ 'A'.val ∧ c.val ≤ 'Z'.val
    · rw [if_pos big]
      exact congrArg Char.val (dif_pos big)
    · rw [if_neg big]
      exact congrArg Char.val (dif_neg big)
  grind [Char.ext_iff]

theorem forall₂_eitherCase_iff {letters : List Char}
    (upper : ∀ letter ∈ letters, letter.isUpper = true) {word : List Char} :
    List.Forall₂ (fun c letter => c = letter ∨ c = letter.toLower) word letters ↔
      word.map Char.toLower = letters.map Char.toLower := by
  induction letters generalizing word with
  | nil => rw [List.forall₂_nil_right_iff, List.map_nil, List.map_eq_nil_iff]
  | cons letter letters ih =>
      obtain ⟨first, rest⟩ := List.forall_mem_cons.mp upper
      cases word with
      | nil => simp only [List.forall₂_nil_left_iff, List.map_nil, List.map_cons, reduceCtorEq]
      | cons c word =>
          rw [List.forall₂_cons, List.map_cons, List.map_cons, List.cons.injEq,
            toLower_eq_toLower_iff first, ih rest]

theorem named_iff {level : Level} {word : String} :
    level.Named word ↔
      String.ofList (word.toList.map Char.toLower) =
        String.ofList (level.name.toList.map Char.toLower) := by
  have upper : level.name.toList.all Char.isUpper = true := by
    cases level <;> rfl
  rw [Named, forall₂_eitherCase_iff (List.all_eq_true.mp upper), String.ofList_inj]

theorem ofWord_of_named {level : Level} {word : String} (h : level.Named word) :
    ofWord word = level := by
  rw [ofWord, named_iff.mp h]
  cases level <;> rfl

/-- A word that names no level stands for `info`. -/
theorem ofWord_of_unnamed {word : String} (h : ∀ level : Level, ¬level.Named word) :
    ofWord word = .info := by
  have other (level : Level) : String.ofList (word.toList.map Char.toLower) ≠
      String.ofList (level.name.toList.map Char.toLower) :=
    fun same => h level (named_iff.mpr same)
  rw [ofWord]
  split
  · next same => exact absurd same (other .trace)
  · next same => exact absurd same (other .debug)
  · next same => exact absurd same (other .warn)
  · next same => exact absurd same (other .error)
  · rfl

/-- The entries that the level lets through. -/
def select (level : Level) (entries : List LogEntry) : List LogEntry :=
  entries.filter fun entry => level.severity ≤ entry.level.severity

theorem select_trace (entries : List LogEntry) : select .trace entries = entries :=
  List.filter_eq_self.mpr fun entry _ => decide_eq_true (Nat.zero_le entry.level.severity)

/-- What a stricter level lets through is among what a laxer one does, in the same order. -/
theorem select_sublist {level lax : Level} (h : lax.severity ≤ level.severity)
    (entries : List LogEntry) : (level.select entries).Sublist (lax.select entries) := by
  have twice : (lax.select entries).filter (fun entry => level.severity ≤ entry.level.severity) =
      level.select entries := by
    rw [select, List.filter_filter, select]
    congr 1
    funext entry
    have passes : level.severity ≤ entry.level.severity → lax.severity ≤ entry.level.severity :=
      Nat.le_trans h
    by_cases severe : level.severity ≤ entry.level.severity <;> simp [severe, passes]
  rw [← twice]
  exact List.filter_sublist

end Level

/-- The level that a log level option asks for: the one that its word names, else `info`. -/
inductive AsksLevel : Option String → Level → Prop
  | absent : AsksLevel none .info
  | named {word : String} {level : Level} : level.Named word → AsksLevel (some word) level
  | unknown {word : String} : (∀ level : Level, ¬level.Named word) → AsksLevel (some word) .info

theorem asksLevel_iff {level? : Option String} {level : Level} :
    AsksLevel level? level ↔ (level?.map Level.ofWord).getD .info = level := by
  constructor
  · intro asks
    cases asks with
    | absent => rfl
    | named h => exact Level.ofWord_of_named h
    | unknown h => exact Level.ofWord_of_unnamed h
  · rintro rfl
    cases level? with
    | none => exact .absent
    | some word =>
        by_cases h : ∃ level : Level, level.Named word
        · obtain ⟨level, h⟩ := h
          rw [Option.map_some, Option.getD_some, Level.ofWord_of_named h]
          exact .named h
        · rw [Option.map_some, Option.getD_some,
            Level.ofWord_of_unnamed fun level named => h ⟨level, named⟩]
          exact .unknown fun level named => h ⟨level, named⟩

namespace CommandLine

def Options.withLevel (level? : Option String) (options : Options) : Options :=
  { options with logLevel? := level? }

namespace Request

/-- The same request with another log level. -/
def withLevel (level? : Option String) : Request → Request
  | .run options command => .run (options.withLevel level?) command
  | request => request

/-- Only the request of a run has a log level. -/
theorem eq_of_withLevel_eq {request other : Request} {level? : Option String}
    (h : request.withLevel level? = other)
    (idle : ∀ options command, other ≠ .run options command) :
    request = other := by
  cases request with
  | run options command => exact absurd h.symm (idle _ _)
  | version | help | misuse => exact h

/-- The word that a run gives as its log level. -/
def logLevel? : Request → Option String
  | .run options _ => options.logLevel?
  | _ => none

end Request

/-- Arguments that ask the same, but for the log level. -/
def SameButLevel (arguments others : List String) : Prop :=
  (Request.ofArguments arguments).withLevel none = (Request.ofArguments others).withLevel none

/-- The arguments ask for this log level. -/
def Asks (arguments : List String) (level : Level) : Prop :=
  AsksLevel (Request.ofArguments arguments).logLevel? level

namespace Options
variable {options after : Options} {setting : Setting} {value : String}

theorem get?_withLevel (given : options.logLevel?.isSome = true) (word : String) :
    ((options.withLevel (some word)).get? setting).isSome = (options.get? setting).isSome := by
  cases setting with
  | settings => rfl
  | config => rfl
  | logLevel => exact given.symm

/-- With a log level given, another option is recorded alike whatever the level is. -/
theorem give?_withLevel (given : options.logLevel?.isSome = true) (word : String) :
    (options.withLevel (some word)).give? setting value =
      (options.give? setting value).map (withLevel (some word)) := by
  rw [give?, give?, get?_withLevel given]
  split
  · rfl
  · next free =>
    cases setting with
    | settings => rfl
    | config => rfl
    | logLevel => exact absurd (.inl given) free

theorem logLevel?_of_give? (given : options.logLevel?.isSome = true)
    (h : options.give? setting value = some after) : after.logLevel?.isSome = true := by
  rw [give?] at h
  split at h
  · cases h
  · cases h
    cases setting with
    | settings => exact given
    | config => exact given
    | logLevel => rfl

end Options

namespace Request
variable {options : Options}

theorem ofNoArguments_withLevel (level? : Option String) (request : Request)
    (rest : List String) :
    ofNoArguments (request.withLevel level?) rest =
      (ofNoArguments request rest).withLevel level? := by
  cases rest with
  | nil => rfl
  | cons argument rest =>
      cases kind : Argument.ofString argument with
      | separator =>
          simp only [ofNoArguments, kind]
          rw [apply_ite (withLevel level?)]
          rfl
      | word | letters | long =>
          simp only [ofNoArguments, kind]
          split <;> rfl

theorem ofDestination_withLevel (level? path? : Option String) (rest : List String) :
    ofDestination (options.withLevel level?) path? rest =
      (ofDestination options path? rest).withLevel level? := by
  induction rest generalizing path? with
  | nil => cases path? <;> rfl
  | cons argument rest ih =>
      cases kind : Argument.ofString argument with
      | separator =>
          cases path? with
          | some path =>
              simp only [ofDestination, kind]
              rw [apply_ite (withLevel level?)]
              rfl
          | none =>
              match rest with
              | [] => simp only [ofDestination, kind, withLevel]
              | [path] =>
                  simp only [ofDestination, kind]
                  rw [apply_ite (withLevel level?)]
                  rfl
              | _ :: _ :: _ => simp only [ofDestination, kind, withLevel]
      | word path =>
          cases path? with
          | some first => simp only [ofDestination, kind, withLevel]
          | none =>
              simp only [ofDestination, kind]
              rw [apply_ite (withLevel level?), ih]
              rfl
      | letters | long =>
          cases path? with
          | none | some =>
              simp only [ofDestination, kind]
              split <;> rfl

theorem ofHelp_withLevel (level? : Option String) (rest : List String) :
    (ofHelp rest).withLevel level? = ofHelp rest := by
  fun_cases ofHelp rest <;> rfl

theorem ofCommand_withLevel (level? : Option String) (name : String) (rest : List String) :
    ofCommand (options.withLevel level?) name rest =
      (ofCommand options name rest).withLevel level? := by
  unfold ofCommand
  split
  · exact ofNoArguments_withLevel level? (.run options (.inspect .check)) rest
  · exact ofNoArguments_withLevel level? (.run options (.inspect .show)) rest
  · exact ofNoArguments_withLevel level? (.run options (.inspect .dump)) rest
  · exact ofDestination_withLevel level? none rest
  · exact (ofHelp_withLevel level? rest).symm
  · rfl

theorem request?_withLevel {argument : Argument} {request : Request}
    (h : argument.request? = some request) (level? : Option String) :
    request.withLevel level? = request := by
  cases request with
  | run options command =>
      rw [Argument.request?.eq_def] at h
      split at h
      · cases h
      · cases h
      · split at h <;> cases h
      · cases h
  | version | help | misuse => rfl

section Reading
variable {argument : String} {rest : List String}
  (noWord : ∀ word, Argument.ofString argument = .word word → False)
include noWord

theorem read_of_request {request : Request}
    (asked : (Argument.ofString argument).request? = some request) :
    read options (argument :: rest) = request := by
  rw [read]
  split
  · next word isWord => exact (noWord word isWord).elim
  · simp only [asked]

section Setting
variable {setting : Setting} {value next : String}
  (noRequest : ∀ request, (Argument.ofString argument).request? = some request → False)
include noRequest

theorem read_of_value {after : Options}
    (isSetting : (Argument.ofString argument).setting? = some (setting, some value))
    (recorded : options.give? setting value = some after) :
    read options (argument :: rest) = read after rest := by
  have unasked := Option.eq_none_iff_forall_ne_some.mpr noRequest
  rw [read]
  split
  · next word isWord => exact (noWord word isWord).elim
  · simp only [unasked, isSetting, recorded]

theorem read_of_refused
    (isSetting : (Argument.ofString argument).setting? = some (setting, some value))
    (refused : options.give? setting value = none) : read options (argument :: rest) = .misuse := by
  have unasked := Option.eq_none_iff_forall_ne_some.mpr noRequest
  rw [read]
  split
  · next word isWord => exact (noWord word isWord).elim
  · simp only [unasked, isSetting, refused]

theorem read_of_next {after : Options} {text : String}
    (isSetting : (Argument.ofString argument).setting? = some (setting, none))
    (isText : Argument.ofString next = .word text)
    (recorded : options.give? setting next = some after) :
    read options (argument :: next :: rest) = read after rest := by
  have unasked := Option.eq_none_iff_forall_ne_some.mpr noRequest
  rw [read]
  split
  · next word isWord => exact (noWord word isWord).elim
  · simp only [unasked, isSetting, isText, recorded]

theorem read_of_next_refused
    (isSetting : (Argument.ofString argument).setting? = some (setting, none))
    (refused : ∀ text after, Argument.ofString next = .word text →
      options.give? setting next = some after → False) :
    read options (argument :: next :: rest) = .misuse := by
  have unasked := Option.eq_none_iff_forall_ne_some.mpr noRequest
  rw [read]
  split
  · next word isWord => exact (noWord word isWord).elim
  · simp only [unasked, isSetting]

end Setting

/-- What is no option, and an option at the end without its value. -/
theorem read_of_neither
    (noRequest : ∀ request, (Argument.ofString argument).request? = some request → False)
    (noValue : ∀ setting value,
      (Argument.ofString argument).setting? = some (setting, some value) → False)
    (noNext : ∀ setting next behind,
      (Argument.ofString argument).setting? = some (setting, none) →
        rest = next :: behind → False) :
    read options (argument :: rest) = .misuse := by
  rw [read]
  split
  · next word isWord => exact (noWord word isWord).elim
  · split
    · next asked => exact (noRequest _ asked).elim
    · next isSetting _ => exact (noValue _ _ isSetting).elim
    · next isSetting _ => exact (noNext _ _ _ isSetting rfl).elim
    · rfl

end Reading

/-- Once a log level is given, its word has no part in how the other arguments are read. -/
theorem read_withLevel (given : options.logLevel?.isSome = true) (word : String)
    (rest : List String) :
    read (options.withLevel (some word)) rest = (read options rest).withLevel (some word) := by
  fun_induction read options rest with
  | case1 => rfl
  | case2 options argument rest name isWord =>
      rw [read, isWord]
      exact ofCommand_withLevel (some word) name rest
  | case3 options argument rest request noWord asked =>
      rw [read_of_request noWord asked, request?_withLevel asked]
  | case4 options argument setting value rest after recorded noWord isSetting noRequest ih =>
      have again : (options.withLevel (some word)).give? setting value =
          some (after.withLevel (some word)) := by
        rw [Options.give?_withLevel given, recorded, Option.map_some]
      rw [read_of_value noWord noRequest isSetting again]
      exact ih (Options.logLevel?_of_give? given recorded)
  | case5 options argument setting value rest refused noWord isSetting noRequest =>
      have again : (options.withLevel (some word)).give? setting value = none := by
        rw [Options.give?_withLevel given, refused, Option.map_none]
      rw [read_of_refused noWord noRequest isSetting again]
      rfl
  | case6 options argument setting next rest text after recorded isText noWord isSetting noRequest
      ih =>
      have again : (options.withLevel (some word)).give? setting next =
          some (after.withLevel (some word)) := by
        rw [Options.give?_withLevel given, recorded, Option.map_some]
      rw [read_of_next noWord noRequest isSetting isText again]
      exact ih (Options.logLevel?_of_give? given recorded)
  | case7 options argument setting next rest refused noWord isSetting noRequest =>
      have again (text : String) (after : Options) (isText : Argument.ofString next = .word text)
          (recorded : (options.withLevel (some word)).give? setting next = some after) : False := by
        rw [Options.give?_withLevel given] at recorded
        obtain ⟨before, first, _⟩ := Option.map_eq_some_iff.mp recorded
        exact refused text before isText first
      rw [read_of_next_refused noWord noRequest isSetting again]
      rfl
  | case8 options argument rest noWord noRequest noValue noNext =>
      rw [read_of_neither noWord noRequest noValue noNext]
      rfl

end Request

theorem ofString_logLevel (word : String) :
    Argument.ofString ("--log-level=" ++ word) = .long "log-level".toList (some word) := by
  have chars : ("--log-level=" ++ word).toList =
      '-' :: '-' :: ("log-level".toList ++ '=' :: word.toList) := by
    rw [String.toList_append]
    rfl
  rw [Argument.ofString, chars]
  simp [splitValue, List.span, List.span.loop]

theorem ofArguments_logLevel (word : String) (rest : List String) :
    Request.ofArguments (("--log-level=" ++ word) :: rest) =
      Request.read (Options.none.withLevel (some word)) rest := by
  have request : (Argument.long "log-level".toList (some word)).request? = none := rfl
  have setting : (Argument.long "log-level".toList (some word)).setting? =
      some (.logLevel, some word) := by
    rw [Argument.setting?, Setting.ofName?, String.ofList_toList]
    rfl
  have recorded : Options.none.give? .logLevel word =
      some (Options.none.withLevel (some word)) := by
    simp [Options.give?, Options.get?, Options.none, Options.set, Options.withLevel]
  rw [Request.ofArguments, Request.read, ofString_logLevel]
  simp only [request, setting, recorded]

/-- The option may stand in front with any value, also one that names no level. -/
theorem sameButLevel_logLevel (word other : String) (rest : List String) :
    SameButLevel (("--log-level=" ++ word) :: rest) (("--log-level=" ++ other) :: rest) := by
  have given : (Options.none.withLevel (some word)).logLevel?.isSome = true := rfl
  have same := Request.read_withLevel given other rest
  rw [SameButLevel, ofArguments_logLevel, ofArguments_logLevel]
  change Request.read (Options.none.withLevel (some other)) rest = _ at same
  rw [same]
  cases Request.read (Options.none.withLevel (some word)) rest <;> rfl

end CommandLine

/-- Runs at two levels: only the log tells them apart, and it is filtered. -/
structure OnlyFiltered (level level' : Level) (run run' : Report × FileSystem) : Prop where
  exitCode : run.1.exitCode = run'.1.exitCode
  output : run.1.output = run'.1.output
  files : run.2 = run'.2
  traced : level' = .trace → run.1.log = level.select run'.1.log
  stricter : level'.severity ≤ level.severity → run.1.log.Sublist run'.1.log
  same : level = level' → run = run'

namespace Tool
variable {arguments : List String} {options : Options} {command : Command}

theorem run_eq_report (h : Request.ofArguments arguments = .run options command)
    (fs : FileSystem) :
    (Tool.run FileSystem.disk arguments).run fs =
      (report ((runCommand FileSystem.disk options command).run fs).1 (threshold options),
        ((runCommand FileSystem.disk options command).run fs).2) := by
  rw [Tool.run, h]
  rfl

/-- Commands do not look at the log level. -/
theorem runCommand_withLevel (options : Options) (level? : Option String) (command : Command) :
    runCommand FileSystem.disk (options.withLevel level?) command =
      runCommand FileSystem.disk options command := by
  cases command <;> rfl

/-- All runs of a request show what their level lets through of one log. -/
theorem exists_log (request : Request) (fs : FileSystem) :
    ∃ code entries output after, ∀ arguments level,
      (Request.ofArguments arguments).withLevel none = request → Asks arguments level →
        (Tool.run FileSystem.disk arguments).run fs =
          (⟨code, level.select entries, output⟩, after) := by
  cases request with
  | run options command =>
      let ran := (runCommand FileSystem.disk options command).run fs
      refine ⟨ran.1.exitCode, ran.1.notices.map Notice.entry, ran.1.output, ran.2, ?_⟩
      intro arguments level same asks
      cases asked : Request.ofArguments arguments with
      | run given command =>
          rw [asked] at same
          cases same
          rw [Asks, asked, asksLevel_iff] at asks
          rw [run_eq_report asked, ← asks]
          exact congrArg (fun x => (report (x.run fs).1 (threshold given), (x.run fs).2))
            (runCommand_withLevel given none command).symm
      | version | help | misuse =>
          rw [asked] at same
          cases same
  | version =>
      refine ⟨0, [], version, fs, ?_⟩
      intro arguments level same _
      rw [Tool.run, Request.eq_of_withLevel_eq same (by intro _ _ run; cases run)]
      rfl
  | help =>
      refine ⟨0, [], "", fs, ?_⟩
      intro arguments level same _
      rw [Tool.run, Request.eq_of_withLevel_eq same (by intro _ _ run; cases run)]
      rfl
  | misuse =>
      refine ⟨2, [], "", fs, ?_⟩
      intro arguments level same _
      rw [Tool.run, Request.eq_of_withLevel_eq same (by intro _ _ run; cases run)]
      rfl

/-- Runs of one request at two levels differ in their log alone. -/
theorem run_onlyFiltered {arguments others : List String} {level level' : Level}
    (alike : SameButLevel arguments others) (asks : Asks arguments level)
    (asks' : Asks others level') (fs : FileSystem) :
    OnlyFiltered level level' ((Tool.run FileSystem.disk arguments).run fs)
      ((Tool.run FileSystem.disk others).run fs) := by
  obtain ⟨code, entries, output, after, run⟩ :=
    exists_log ((Request.ofArguments others).withLevel none) fs
  rw [run arguments level alike asks, run others level' rfl asks']
  constructor
  · rfl
  · rfl
  · rfl
  · rintro rfl
    exact congrArg level.select (Level.select_trace entries).symm
  · intro stricter
    exact Level.select_sublist stricter entries
  · rintro rfl
    rfl

/-- Any value of the log level only filters the log. Every argument list asks for some level, and a
level given in front may be given any other value. -/
theorem logLevel_filters (fs : FileSystem) :
    (∀ arguments others level level', SameButLevel arguments others → Asks arguments level →
      Asks others level' →
        OnlyFiltered level level' ((Tool.run FileSystem.disk arguments).run fs)
          ((Tool.run FileSystem.disk others).run fs)) ∧
      (∀ arguments, ∃ level, Asks arguments level) ∧
      ∀ word other rest,
        SameButLevel (("--log-level=" ++ word) :: rest) (("--log-level=" ++ other) :: rest) := by
  refine ⟨?_, ?_, sameButLevel_logLevel⟩
  · intro arguments others level level' alike asks asks'
    exact run_onlyFiltered alike asks asks' fs
  · intro arguments
    exact ⟨_, asksLevel_iff.mpr rfl⟩

/-- All that a look at the sample logs. -/
def sampleNotices : List Notice :=
  .settingsAbsent "scenepanel.toml" ::
    (sampleEvents ++ [Event.loaded "config.json" 2]).map Notice.compiling

theorem log_sampleFiles {options : Options} {view : View}
    (asked : Request.ofArguments arguments = .run options (.inspect view))
    (settings : options.settings? = none) (config : options.config? = some "config.json") :
    ((Tool.run FileSystem.disk arguments).run sampleFiles).1.log =
      (threshold options).select (sampleNotices.map Notice.entry) := by
  have found : sampleFiles.settings? options.settingsPath =
      some (.default, .settingsAbsent "scenepanel.toml") := by
    rw [Options.settingsPath, settings]
    exact settings?_sampleFiles
  have path : options.sourcePath .default = "config.json" := by
    rw [Options.sourcePath, config]
    rfl
  have loaded : (sampleFiles.load "config.json").result = .ok sampleModel :=
    congrArg Traced.result load_sampleFiles
  rw [run_inspect asked, outcome_of_settings? found, path, inspect_of_ok loaded, load_sampleFiles]
  rfl

/-- A word in mixed case and one that names no level, each beside a run that shows everything. -/
theorem logLevel_filters_sample :
    let strict := ["-l", "WaRn", "-c", "config.json", "check"]
    let loud := ["-cconfig.json", "--log-level=loud", "check"]
    let traced := ["--log-level", "Trace", "--config=config.json", "check"]
    let run (arguments : List String) := (Tool.run FileSystem.disk arguments).run sampleFiles
    SameButLevel strict traced ∧ SameButLevel loud traced ∧ Asks strict .warn ∧
      Asks loud .info ∧ Asks traced .trace ∧
      OnlyFiltered .warn .trace (run strict) (run traced) ∧
      OnlyFiltered .info .trace (run loud) (run traced) ∧
      (run traced).1.log = sampleNotices.map Notice.entry ∧
      (run strict).1.log = [(Notice.compiling (.skippedScene 0 "Camera")).entry] ∧
      (run loud).1.log = [(Notice.settingsAbsent "scenepanel.toml").entry,
        (Notice.compiling (.skippedScene 0 "Camera")).entry,
        (Notice.compiling (.loaded "config.json" 2)).entry] := by
  intro strict loud traced run
  have alike : SameButLevel strict traced := by
    rw [SameButLevel]
    decide
  have alike' : SameButLevel loud traced := by
    rw [SameButLevel]
    decide
  have warn : Asks strict .warn := .named (Level.named_iff.mpr (by decide))
  have trace : Asks traced .trace := .named (Level.named_iff.mpr (by decide))
  have info : Asks loud .info := by
    refine .unknown fun level named => ?_
    have same := Level.named_iff.mp named
    cases level <;> revert same <;> decide
  obtain ⟨filters, _, _⟩ := logLevel_filters sampleFiles
  have strictly := filters _ _ _ _ alike warn trace
  have loudly := filters _ _ _ _ alike' info trace
  have asked : Request.ofArguments traced =
      .run ⟨none, "config.json", "Trace"⟩ (.inspect .check) := by decide
  have all : (run traced).1.log = sampleNotices.map Notice.entry := by
    have everything : threshold ⟨none, "config.json", "Trace"⟩ = .trace := by decide
    rw [log_sampleFiles asked rfl rfl, everything, Level.select_trace]
  refine ⟨alike, alike', warn, info, trace, strictly, loudly, all, ?_, ?_⟩
  · rw [strictly.traced rfl, all]
    rfl
  · rw [loudly.traced rfl, all]
    rfl

end Tool

end SceneConfig
