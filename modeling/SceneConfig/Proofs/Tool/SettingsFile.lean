/- Which settings files are broken, and what the others name as the path of the configuration. -/
import SceneConfig.Proofs.Tool.Runs

namespace SceneConfig

namespace Toml.Value

/-- What is read as settings under `source`: a table, or an array whose values stand in the order
of the members, or a date-time, which has no member. -/
inductive IsSource : Value → Prop
  | table (origin : Origin) (entries : Table) : IsSource (.table origin entries)
  | array (items : List Value) : IsSource (.array items)
  | dateTime : IsSource .dateTime

/-- The value that a source has as its path. -/
inductive HasPath : Value → Value → Prop
  | named {origin : Origin} {entries : Table} {v : Value} :
      Table.lookup "path" entries = some v → HasPath (.table origin entries) v
  | first (v : Value) (rest : List Value) : HasPath (.array (v :: rest)) v

end Toml.Value

namespace FileSystem

/-- There is a settings file, and it has a value under `source`. -/
def HasSource (fs : FileSystem) (path : String) (source : Toml.Value) : Prop :=
  ∃ text table, fs.contains path = true ∧ fs.readText path = .ok text ∧
    Toml.parse text = some table ∧ table.lookup "source" = some source

def NamesPath (fs : FileSystem) (path : String) (source : String) : Prop :=
  ∃ v, fs.HasSource path v ∧ v.HasPath (.string source)

/-- There is something at the path, but no settings. -/
inductive BrokenSettings (fs : FileSystem) (path : String) : Prop
  | unreadable {error : StorageError} :
      fs.contains path = true → fs.readText path = .error error → BrokenSettings fs path
  | malformed {text : String} : fs.contains path = true → fs.readText path = .ok text →
      Toml.parse text = none → BrokenSettings fs path
  | noSource {source : Toml.Value} :
      fs.HasSource path source → ¬source.IsSource → BrokenSettings fs path
  | noText {source v : Toml.Value} : fs.HasSource path source → source.HasPath v →
      (∀ s, v ≠ .string s) → BrokenSettings fs path

end FileSystem

namespace Toml.Value.HasPath
variable {source v w : Toml.Value}

theorem unique (h : source.HasPath v) (h' : source.HasPath w) : v = w := by
  cases h with
  | named found =>
      cases h' with
      | named found' => exact Option.some.inj (found.symm.trans found')
  | first =>
      cases h' with
      | first => rfl

theorem isSource (h : source.HasPath v) : source.IsSource := by
  cases h with
  | named _ => exact .table _ _
  | first _ _ => exact .array _

end Toml.Value.HasPath

/-- How a source is read: it is refused, names no path, or names one. -/
inductive SourceRead (source : Toml.Value) : Option (Option String) → Prop
  | noSource : ¬source.IsSource → SourceRead source none
  | noText {v : Toml.Value} : source.HasPath v → (∀ s, v ≠ .string s) → SourceRead source none
  | unnamed : source.IsSource → (∀ v, ¬source.HasPath v) → SourceRead source (some none)
  | named {path : String} : source.HasPath (.string path) → SourceRead source (some (some path))

namespace SourceRead
variable {source : Toml.Value} {path? : Option (Option String)}

theorem pathOfSource (source : Toml.Value) : SourceRead source (Settings.pathOfSource source) := by
  cases source with
  | table origin entries =>
      rw [Settings.pathOfSource, Settings.pathOfTable]
      cases found : Toml.Table.lookup "path" entries with
      | none =>
          refine .unnamed (.table origin entries) ?_
          intro v has
          cases has with
          | named there => cases found.symm.trans there
      | some v =>
          cases v with
          | string path => exact .named (.named found)
          | integer | float | boolean | dateTime | array | tables | table =>
              exact .noText (.named found) fun _ => nofun
  | array items =>
      cases items with
      | nil => exact .unnamed (.array []) nofun
      | cons v rest =>
          cases v with
          | string path => exact .named (.first _ rest)
          | integer | float | boolean | dateTime | array | tables | table =>
              exact .noText (.first _ rest) fun _ => nofun
  | dateTime => exact .unnamed .dateTime nofun
  | string | integer | float | boolean | tables => exact .noSource nofun

/-- No source is read in two ways. -/
theorem unique {other? : Option (Option String)} (h : SourceRead source path?)
    (h' : SourceRead source other?) : path? = other? := by
  cases h with
  | noSource none =>
      cases h' with
      | noSource _ | noText _ _ => rfl
      | unnamed some _ => exact absurd some none
      | named some => exact absurd some.isSource none
  | noText has none =>
      cases h' with
      | noSource _ | noText _ _ => rfl
      | unnamed _ nothing => exact absurd has (nothing _)
      | named some => exact absurd (has.unique some) (none _)
  | unnamed some nothing =>
      cases h' with
      | noSource none => exact absurd some none
      | noText has _ | named has => exact absurd has (nothing _)
      | unnamed _ _ => rfl
  | named has =>
      cases h' with
      | noSource none => exact absurd has.isSource none
      | noText has' none => exact absurd (has'.unique has) (none _)
      | unnamed _ nothing => exact absurd has (nothing _)
      | named has' =>
          cases has.unique has'
          rfl

theorem pathOfSource_eq (h : SourceRead source path?) : Settings.pathOfSource source = path? :=
  (SourceRead.pathOfSource source).unique h

end SourceRead

namespace FileSystem
variable {fs : FileSystem} {path : String}

theorem settings?_of_hasSource {source : Toml.Value} (h : fs.HasSource path source) :
    fs.settings? path = (Settings.pathOfSource source).map fun name? =>
      (⟨name?.getD Settings.defaultSourcePath⟩, .settingsLoaded path) := by
  obtain ⟨text, table, present, read, parsed, found⟩ := h
  simp only [settings?, present, read, Settings.parse, parsed, Option.bind_some, Settings.ofTable,
    found, if_true]
  cases Settings.pathOfSource source <;> rfl

/-- Broken settings, or settings without a source, or settings that hang on their source. -/
theorem settings?_cases (fs : FileSystem) (path : String) :
    fs.settings? path = none ∧ fs.BrokenSettings path ∨
      (∃ notice, fs.settings? path = some (.default, notice)) ∧
        (∀ source, ¬fs.HasSource path source) ∨
      ∃ source, fs.HasSource path source := by
  cases present : fs.contains path with
  | false =>
      have absent : fs.settings? path = some (.default, .settingsAbsent path) := by
        rw [settings?, present]
        rfl
      refine .inr (.inl ⟨⟨_, absent⟩, ?_⟩)
      rintro source ⟨_, _, there, _⟩
      cases present.symm.trans there
  | true =>
      cases read : fs.readText path with
      | error e =>
          refine .inl ⟨?_, .unreadable present read⟩
          simp only [settings?, present, read, if_true]
      | ok text =>
          cases parsed : Toml.parse text with
          | none =>
              refine .inl ⟨?_, .malformed present read parsed⟩
              simp only [settings?, present, read, if_true, Settings.parse, parsed,
                Option.bind_none, Option.map_none]
          | some table =>
              cases found : table.lookup "source" with
              | some source => exact .inr (.inr ⟨source, text, table, present, read, parsed, found⟩)
              | none =>
                  refine .inr (.inl ⟨⟨.settingsLoaded path, ?_⟩, ?_⟩)
                  · simp only [settings?, present, read, if_true, Settings.parse, parsed,
                      Option.bind_some, Settings.ofTable, found, Option.map_some]
                  · rintro source ⟨_, _, _, read', parsed', found'⟩
                    cases read.symm.trans read'
                    cases parsed.symm.trans parsed'
                    cases found.symm.trans found'

theorem settings?_eq_none_iff : fs.settings? path = none ↔ fs.BrokenSettings path := by
  constructor
  · intro unsettled
    rcases fs.settings?_cases path with ⟨_, broken⟩ | ⟨⟨_, settled⟩, _⟩ | ⟨source, has⟩
    · exact broken
    · cases settled.symm.trans unsettled
    · rw [settings?_of_hasSource has, Option.map_eq_none_iff] at unsettled
      have read := SourceRead.pathOfSource source
      rw [unsettled] at read
      cases read with
      | noSource none => exact .noSource has none
      | noText there none => exact .noText has there none
  · intro broken
    cases broken with
    | unreadable present read => simp only [settings?, present, read, if_true]
    | malformed present read parsed =>
        simp only [settings?, present, read, if_true, Settings.parse, parsed, Option.bind_none,
          Option.map_none]
    | noSource has none =>
        rw [settings?_of_hasSource has, SourceRead.pathOfSource_eq (.noSource none)]
        rfl
    | noText has there none =>
        rw [settings?_of_hasSource has, SourceRead.pathOfSource_eq (.noText there none)]
        rfl

/-- The path that a settings file names, and the default one where there is none. -/
theorem sourcePath_of_settings? {settings : Settings} {notice : Notice}
    (h : fs.settings? path = some (settings, notice)) :
    (∀ name, fs.NamesPath path name → settings.sourcePath = name) ∧
      ((∀ name, ¬fs.NamesPath path name) → settings.sourcePath = "/spiffs/config.json") := by
  constructor
  · rintro name ⟨source, has, names⟩
    rw [settings?_of_hasSource has, SourceRead.pathOfSource_eq (.named names)] at h
    cases h
    rfl
  · intro unnamed
    rcases fs.settings?_cases path with ⟨unsettled, _⟩ | ⟨⟨_, settled⟩, _⟩ | ⟨source, has⟩
    · cases unsettled.symm.trans h
    · cases settled.symm.trans h
      rfl
    · have read := SourceRead.pathOfSource source
      rw [settings?_of_hasSource has] at h
      generalize Settings.pathOfSource source = path? at read h
      cases read with
      | noSource | noText => cases h
      | unnamed =>
          cases h
          rfl
      | named names => exact absurd ⟨source, has, names⟩ (unnamed _)

end FileSystem

/-- What `init-settings` writes is read as the settings that hold without a file. -/
theorem Settings.parse_defaultText : Settings.parse Settings.defaultText = some .default := by
  decide +kernel

end SceneConfig
