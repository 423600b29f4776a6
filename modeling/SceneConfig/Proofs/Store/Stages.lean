/- Loading is done in stages, each with errors of its own, and only what a store reads matters: a
   file and a text in memory load alike where the file holds the bytes of that text. -/
import SceneConfig.Proofs.Json.Strictness
import SceneConfig.Proofs.Document.EventTrace
import SceneConfig.Proofs.Document.Spelling
import SceneConfig.Proofs.Store.OneFile
import SceneConfig.Proofs.Tool.Runs
import SceneConfig.Store.Memory

namespace SceneConfig
open Json (Value SpellsDocument)

section Decoding
variable {bytes : ByteArray} {text : String}

/-- Reading bytes as text alters none of them. -/
theorem decodeText_eq_ok_iff : decodeText bytes = .ok text ↔ text.toUTF8 = bytes := by
  constructor
  · intro h
    rw [decodeText, String.fromUTF8?] at h
    split at h
    · next decoded found =>
        split at found
        · cases found
          cases h
          rfl
        · cases found
    · cases h
  · rintro rfl
    exact decodeText_toUTF8 text

theorem decodeText_eq_error (h : ∀ text : String, text.toUTF8 ≠ bytes) :
    decodeText bytes = .error .invalidUtf8 := by
  cases decoded : decodeText bytes with
  | ok text => exact absurd (decodeText_eq_ok_iff.mp decoded) (h text)
  | error e =>
      rw [decodeText] at decoded
      split at decoded
      · cases decoded
      · exact decoded.symm

end Decoding

section Parsing
variable {text : String} {v w : Value}

/-- A text spells one value at most. -/
theorem Json.SpellsDocument.unique (h : SpellsDocument v text.toList)
    (h' : SpellsDocument w text.toList) : v = w := by
  have same := (Json.parse_eq_some_iff.mpr h).symm.trans (Json.parse_eq_some_iff.mpr h')
  exact Option.some.inj same

theorem Model.ofText_of_malformed (h : ∀ v, ¬SpellsDocument v text.toList) :
    Model.ofText text = .lift (.error .malformed) := by
  have unread : Json.parse text = none :=
    Option.eq_none_iff_forall_ne_some.mpr fun v parsed => h v (Json.parse_eq_some_iff.mp parsed)
  rw [Model.ofText, parseDocument, unread]
  rfl

theorem Model.ofText_of_document (h : SpellsDocument v text.toList) :
    Model.ofText text =
      if v.isObject then (Model.ofDocument v).mapError .fault
      else .lift (.error .notAnObject) := by
  have spelled := Model.ofText_of_spells h
  rwa [String.ofList_toList] at spelled

end Parsing

section Events

/-- That a configuration was loaded is told at a level of its own. -/
theorem Event.ProperLevel.ne_loaded {event : Event} (h : event.ProperLevel) (path : String)
    (groups : Nat) : event ≠ .loaded path groups := by
  rintro rfl
  cases h

theorem Model.loaded_notMem_ofDocument (document : Value) (path : String) (groups : Nat) :
    .loaded path groups ∉ (Model.ofDocument document).events := by
  have ends := ends_ofDocument document
  intro member
  cases result : (Model.ofDocument document).result with
  | ok model =>
      obtain ⟨_, completed, _, done, split⟩ := ends.of_ok result
      rw [split] at member
      rcases List.mem_append.mp member with inside | last
      · exact (done.properLevel _ inside).ne_loaded path groups rfl
      · cases List.mem_singleton.mp last
  | error fault =>
      have stopped := ends.of_error result
      split at stopped
      · rw [stopped] at member
        cases member
      · obtain ⟨_, _, _, _, _, _, _, done, short, split⟩ := stopped
        rw [split] at member
        rcases List.mem_append.mp member with before | inside
        · exact (done.properLevel _ before).ne_loaded path groups rfl
        · exact (short.properLevel _ inside).ne_loaded path groups rfl

end Events

/-- How far loading comes, from what was read to the run. -/
inductive Reaches (path : String) : Except StorageError String → Traced LoadError Model → Prop
  | unread {e : StorageError} : Reaches path (.error e) (.lift (.error (.storage e)))
  | malformed {text : String} : (∀ v, ¬SpellsDocument v text.toList) →
      Reaches path (.ok text) (.lift (.error .malformed))
  | notAnObject {text : String} {v : Value} : SpellsDocument v text.toList → v.isObject = false →
      Reaches path (.ok text) (.lift (.error .notAnObject))
  | rejected {text : String} {v : Value} {fault : Fault Place} : SpellsDocument v text.toList →
      v.isObject = true → (Model.ofDocument v).result = .error fault →
      Reaches path (.ok text) ⟨(Model.ofDocument v).events, .error (.fault fault)⟩
  | accepted {text : String} {v : Value} {model : Model} : SpellsDocument v text.toList →
      v.isObject = true → (Model.ofDocument v).result = .ok model →
      Reaches path (.ok text)
        ⟨(Model.ofDocument v).events ++ [.loaded path model.groups.length], .ok model⟩

theorem Model.load_ok (path text : String) :
    Model.load path (.ok text) = do
      let model ← Model.ofText text
      .emit (.loaded path model.groups.length)
      return model := rfl

theorem Model.load_of_failed {text : String} {events : List Event} {error : LoadError}
    (h : Model.ofText text = ⟨events, .error error⟩) (path : String) :
    Model.load path (.ok text) = ⟨events, .error error⟩ := by
  rw [Model.load_ok, h]
  rfl

theorem Model.load_of_compiled {text : String} {events : List Event} {model : Model}
    (h : Model.ofText text = ⟨events, .ok model⟩) (path : String) :
    Model.load path (.ok text) = ⟨events ++ [.loaded path model.groups.length], .ok model⟩ := by
  rw [Model.load_ok, h]
  rfl

theorem Model.reaches_load (path : String) (contents : Except StorageError String) :
    Reaches path contents (Model.load path contents) := by
  cases contents with
  | error e => exact .unread
  | ok text =>
      by_cases spelled : ∃ v, SpellsDocument v text.toList
      · obtain ⟨v, spells⟩ := spelled
        have compiled := Model.ofText_of_document spells
        cases object : v.isObject with
        | false =>
            rw [object] at compiled
            rw [Model.load_of_failed compiled]
            exact .notAnObject spells object
        | true =>
            rw [object, if_pos rfl, Traced.mapError] at compiled
            cases result : (Model.ofDocument v).result with
            | error fault =>
                rw [result] at compiled
                rw [Model.load_of_failed compiled]
                exact .rejected spells object result
            | ok model =>
                rw [result] at compiled
                rw [Model.load_of_compiled compiled]
                exact .accepted spells object result
      · have malformed := not_exists.mp spelled
        rw [Model.load_of_failed (Model.ofText_of_malformed malformed)]
        exact .malformed malformed

section Categories

/-- The categories of the faults in a document. -/
def Fault.categories : List String :=
  ["missing field", "invalid field", "unrecognized sensor type", "structural violation"]

theorem Fault.category_mem (fault : Fault Place) : fault.category ∈ Fault.categories := by
  cases fault <;> simp [Fault.category, Fault.categories]

theorem LoadError.category_eq_storage_iff {error : LoadError} :
    error.category = "storage error" ↔ ∃ e, error = .storage e := by
  constructor
  · intro h
    cases error with
    | storage e => exact ⟨e, rfl⟩
    | malformed | notAnObject => simp [category] at h
    | fault f =>
        have member := f.category_mem
        change f.category = _ at h
        rw [h] at member
        simp [Fault.categories] at member
  · rintro ⟨e, rfl⟩
    rfl

theorem LoadError.category_eq_parse_iff {error : LoadError} :
    error.category = "parse error" ↔ error = .malformed ∨ error = .notAnObject := by
  constructor
  · intro h
    cases error with
    | storage e => simp [category] at h
    | malformed => exact .inl rfl
    | notAnObject => exact .inr rfl
    | fault f =>
        have member := f.category_mem
        change f.category = _ at h
        rw [h] at member
        simp [Fault.categories] at member
  · rintro (rfl | rfl) <;> rfl

theorem LoadError.category_mem_iff {error : LoadError} :
    error.category ∈ Fault.categories ↔ ∃ fault, error = .fault fault := by
  constructor
  · intro h
    cases error with
    | storage | malformed | notAnObject => simp [category, Fault.categories] at h
    | fault f => exact ⟨f, rfl⟩
  · rintro ⟨fault, rfl⟩
    exact fault.category_mem

end Categories

/-- The stages of loading, told apart by the error and by its category, and what is told of a
configuration that is loaded. -/
structure Staged (path : String) (contents : Except StorageError String)
    (run : Traced LoadError Model) : Prop where
  unread : ∀ e, run.result = .error (.storage e) ↔ contents = .error e
  malformed : run.result = .error .malformed ↔
    ∃ text, contents = .ok text ∧ ∀ v, ¬SpellsDocument v text.toList
  notAnObject : run.result = .error .notAnObject ↔
    ∃ text v, contents = .ok text ∧ SpellsDocument v text.toList ∧ v.isObject = false
  assembled : ∀ result : Except (Fault Place) Model, run.result = result.mapError .fault ↔
    ∃ text v, contents = .ok text ∧ SpellsDocument v text.toList ∧ v.isObject = true ∧
      (Model.ofDocument v).result = result
  storageError : ∀ error, run.result = .error error →
    (error.category = "storage error" ↔ ∃ e, contents = .error e)
  parseError : ∀ error, run.result = .error error → (error.category = "parse error" ↔
    ∃ text, contents = .ok text ∧ ∀ v, SpellsDocument v text.toList → v.isObject = false)
  faulty : ∀ error, run.result = .error error → (error.category ∈ Fault.categories ↔
    ∃ text v, contents = .ok text ∧ SpellsDocument v text.toList ∧ v.isObject = true)
  accepted : ∀ model, run.result = .ok model → ∃ before,
    run.events = before ++ [.loaded path model.groups.length] ∧
      ∀ other groups, .loaded other groups ∉ before
  rejected : ∀ error, run.result = .error error → ∀ other groups, .loaded other groups ∉ run.events

theorem mapError_fault_inj {α : Type} {x y : Except (Fault Place) α} :
    x.mapError LoadError.fault = y.mapError LoadError.fault ↔ x = y := by
  cases x <;> cases y <;> simp [Except.mapError]

namespace Reaches
variable {path : String} {contents : Except StorageError String} {run : Traced LoadError Model}

theorem unread_iff (h : Reaches path contents run) (e : StorageError) :
    run.result = .error (.storage e) ↔ contents = .error e := by
  cases h with
  | unread => exact ⟨fun | rfl => rfl, fun | rfl => rfl⟩
  | malformed | notAnObject | rejected | accepted => exact ⟨nofun, nofun⟩

theorem malformed_iff (h : Reaches path contents run) :
    run.result = .error .malformed ↔
      ∃ text, contents = .ok text ∧ ∀ v, ¬SpellsDocument v text.toList := by
  cases h with
  | unread => exact ⟨nofun, nofun⟩
  | malformed none => exact ⟨fun _ => ⟨_, rfl, none⟩, fun _ => rfl⟩
  | notAnObject spells | rejected spells | accepted spells =>
      refine ⟨nofun, ?_⟩
      rintro ⟨_, ⟨⟩, none⟩
      exact absurd spells (none _)

theorem notAnObject_iff (h : Reaches path contents run) :
    run.result = .error .notAnObject ↔
      ∃ text v, contents = .ok text ∧ SpellsDocument v text.toList ∧ v.isObject = false := by
  cases h with
  | unread => exact ⟨nofun, nofun⟩
  | malformed none =>
      refine ⟨nofun, ?_⟩
      rintro ⟨_, v, ⟨⟩, spells, _⟩
      exact absurd spells (none v)
  | notAnObject spells other => exact ⟨fun _ => ⟨_, _, rfl, spells, other⟩, fun _ => rfl⟩
  | rejected spells object | accepted spells object =>
      refine ⟨nofun, ?_⟩
      rintro ⟨_, v, ⟨⟩, same, other⟩
      rw [same.unique spells, object] at other
      cases other

/-- Past the parser, the result is that of compiling. -/
theorem assembled_iff (h : Reaches path contents run) (result : Except (Fault Place) Model) :
    run.result = result.mapError .fault ↔ ∃ text v, contents = .ok text ∧
      SpellsDocument v text.toList ∧ v.isObject = true ∧ (Model.ofDocument v).result = result := by
  -- An error of an earlier stage is the error of no compilation.
  have stopped {e : LoadError} (early : ∀ fault, e ≠ .fault fault) :
      (.error e : Except LoadError Model) ≠ result.mapError .fault := by
    cases result with
    | ok model => nofun
    | error fault => exact fun same => early fault (Except.error.inj same)
  cases h with
  | unread => exact ⟨fun same => absurd same (stopped nofun), nofun⟩
  | malformed none =>
      refine ⟨fun same => absurd same (stopped nofun), ?_⟩
      rintro ⟨_, v, ⟨⟩, spells, _⟩
      exact absurd spells (none v)
  | notAnObject spells other =>
      refine ⟨fun same => absurd same (stopped nofun), ?_⟩
      rintro ⟨_, v, ⟨⟩, same, object, _⟩
      rw [same.unique spells, other] at object
      cases object
  | @rejected text v fault spells object compiled | @accepted text v model spells object compiled =>
      have here := congrArg (Except.mapError LoadError.fault) compiled
      constructor
      · intro same
        exact ⟨text, v, rfl, spells, object, mapError_fault_inj.mp (here.trans same)⟩
      · rintro ⟨_, w, ⟨⟩, same, _, rfl⟩
        rw [same.unique spells]
        exact here.symm

/-- The last event alone tells that a configuration was loaded. -/
theorem loaded (h : Reaches path contents run) {model : Model} (result : run.result = .ok model) :
    ∃ before, run.events = before ++ [.loaded path model.groups.length] ∧
      ∀ other groups, .loaded other groups ∉ before := by
  cases h with
  | unread | malformed | notAnObject | rejected => cases result
  | accepted =>
      cases result
      exact ⟨_, rfl, Model.loaded_notMem_ofDocument _⟩

theorem not_loaded (h : Reaches path contents run) {error : LoadError}
    (result : run.result = .error error) (other : String) (groups : Nat) :
    .loaded other groups ∉ run.events := by
  cases h with
  | unread | malformed | notAnObject => exact List.not_mem_nil
  | rejected => exact Model.loaded_notMem_ofDocument _ other groups
  | accepted => cases result

end Reaches

theorem Reaches.staged {path : String} {contents : Except StorageError String}
    {run : Traced LoadError Model} (h : Reaches path contents run) : Staged path contents run where
  unread := h.unread_iff
  malformed := h.malformed_iff
  notAnObject := h.notAnObject_iff
  assembled := h.assembled_iff
  storageError error result := by
    rw [LoadError.category_eq_storage_iff]
    refine exists_congr fun e => ?_
    rw [← h.unread_iff, result, Except.error.injEq]
  parseError error result := by
    rw [LoadError.category_eq_parse_iff]
    constructor
    · rintro (rfl | rfl)
      · obtain ⟨text, read, none⟩ := h.malformed_iff.mp result
        exact ⟨text, read, fun v spells => absurd spells (none v)⟩
      · obtain ⟨text, v, read, spells, other⟩ := h.notAnObject_iff.mp result
        refine ⟨text, read, fun w same => ?_⟩
        rwa [same.unique spells]
    · rintro ⟨text, read, other⟩
      by_cases spelled : ∃ v, SpellsDocument v text.toList
      · obtain ⟨v, spells⟩ := spelled
        have stopped := h.notAnObject_iff.mpr ⟨text, v, read, spells, other v spells⟩
        exact .inr (Except.error.inj (result.symm.trans stopped))
      · have stopped := h.malformed_iff.mpr ⟨text, read, not_exists.mp spelled⟩
        exact .inl (Except.error.inj (result.symm.trans stopped))
  faulty error result := by
    rw [LoadError.category_mem_iff]
    constructor
    · rintro ⟨fault, rfl⟩
      obtain ⟨text, v, read, spells, object, _⟩ := (h.assembled_iff (.error fault)).mp result
      exact ⟨text, v, read, spells, object⟩
    · rintro ⟨text, v, read, spells, object⟩
      have compiled := (h.assembled_iff _).mpr ⟨text, v, read, spells, object, rfl⟩
      rw [result] at compiled
      cases made : (Model.ofDocument v).result with
      | ok model =>
          rw [made] at compiled
          cases compiled
      | error fault =>
          rw [made] at compiled
          exact ⟨fault, Except.error.inj compiled⟩
  accepted _ := h.loaded
  rejected _ := h.not_loaded

section Backends
variable {fs : FileSystem} {path : String} {bytes : ByteArray}

theorem FileSystem.readBytes_of_node {place : Location} (located : fs.locate path = .ok place)
    (file : fs.node place = .file bytes) : fs.readBytes path = .ok bytes := by
  simp only [readBytes, bind, Except.bind, located, file]

theorem FileSystem.readText_of_readBytes (h : fs.readBytes path = .ok bytes) :
    fs.readText path = decodeText bytes := by
  rw [readText, h]
  rfl

/-- A file loads as its text does from memory. -/
theorem FileSystem.load_eq_insert {text : String} (read : fs.readBytes path = .ok bytes)
    (encoded : text.toUTF8 = bytes) (store : MemoryStore) :
    fs.load path = (store.insert path text).load path := by
  rw [load, readText_of_readBytes read, decodeText_eq_ok_iff.mpr encoded, MemoryStore.load,
    MemoryStore.read_insert, if_pos rfl]

/-- What is no text is not parsed. -/
theorem FileSystem.load_of_invalid (read : fs.readBytes path = .ok bytes)
    (invalid : ∀ text : String, text.toUTF8 ≠ bytes) :
    fs.load path = .lift (.error (.storage .invalidUtf8)) := by
  rw [load, readText_of_readBytes read, decodeText_eq_error invalid]
  rfl

end Backends

/-- Loading goes through the same stages whatever the store, and a file is either the same to it as
its text in memory or no text at all. -/
theorem Model.load_staged :
    (∀ (read : String → Except StorageError String) (path : String),
        Staged path (read path) (Model.load path (read path))) ∧
      ∀ (fs : FileSystem) (path : String) (bytes : ByteArray), fs.readBytes path = .ok bytes →
        (∃ text : String, text.toUTF8 = bytes ∧
            ∀ store : MemoryStore, fs.load path = (store.insert path text).load path) ∨
          (∀ text : String, text.toUTF8 ≠ bytes) ∧
            fs.load path = .lift (.error (.storage .invalidUtf8)) ∧
              StorageError.invalidUtf8.kind = .invalidData := by
  refine ⟨fun read path => (Model.reaches_load path (read path)).staged, ?_⟩
  intro fs path bytes read
  by_cases valid : ∃ text : String, text.toUTF8 = bytes
  · obtain ⟨text, encoded⟩ := valid
    exact .inl ⟨text, encoded, FileSystem.load_eq_insert read encoded⟩
  · have invalid := not_exists.mp valid
    exact .inr ⟨invalid, FileSystem.load_of_invalid read invalid, rfl⟩

def markedText : String := "\uFEFF\x7b\x7d"

def brokenBytes : ByteArray := ⟨#[0x7B, 0xFF, 0x7D]⟩

/-- The sample, an object behind a byte order mark, and bytes that no text has. -/
def assortedFiles : FileSystem :=
  ⟨[], [(["config.json"], sampleDocument.pretty.toUTF8), (["marked.json"], markedText.toUTF8),
    (["broken.json"], brokenBytes)]⟩

/-- The mark is no blank, and the last file is not parsed. -/
theorem Model.load_staged_assorted :
    assortedFiles.readBytes "config.json" = .ok sampleDocument.pretty.toUTF8 ∧
      assortedFiles.load "config.json" =
        (MemoryStore.empty.insert "config.json" sampleDocument.pretty).load "config.json" ∧
      assortedFiles.readBytes "marked.json" = .ok markedText.toUTF8 ∧
      (assortedFiles.load "marked.json").result = .error .malformed ∧
      assortedFiles.readBytes "broken.json" = .ok brokenBytes ∧
      assortedFiles.load "broken.json" = .lift (.error (.storage .invalidUtf8)) := by
  have located : assortedFiles.locate "config.json" = .ok ["config.json"] := rfl
  have node : assortedFiles.node ["config.json"] = .file sampleDocument.pretty.toUTF8 := by
    simp only [FileSystem.node, assortedFiles, List.find?_cons, decide_true]
  have sample := FileSystem.readBytes_of_node located node
  have marked : assortedFiles.readBytes "marked.json" = .ok markedText.toUTF8 := rfl
  have broken : assortedFiles.readBytes "broken.json" = .ok brokenBytes := rfl
  refine ⟨sample, ?_, marked, ?_, broken, ?_⟩
  · rcases Model.load_staged.2 assortedFiles "config.json" _ sample with
      ⟨text, encoded, same⟩ | ⟨invalid, _⟩
    · have decoded := (decodeText_eq_ok_iff.mpr encoded).symm.trans (decodeText_toUTF8 _)
      rw [Except.ok.inj decoded] at same
      exact same MemoryStore.empty
    · exact (invalid _ rfl).elim
  · have unread : Json.parse markedText = none := rfl
    have read : assortedFiles.readText "marked.json" = .ok markedText := by
      rw [FileSystem.readText_of_readBytes marked, decodeText_toUTF8]
    have staged := Model.load_staged.1 assortedFiles.readText "marked.json"
    refine staged.malformed.mpr ⟨markedText, read, ?_⟩
    intro v spells
    cases unread.symm.trans (Json.parse_eq_some_iff.mpr spells)
  · rcases Model.load_staged.2 assortedFiles "broken.json" _ broken with
      ⟨text, encoded, _⟩ | ⟨_, failed, _⟩
    · have undecoded : decodeText brokenBytes = .error .invalidUtf8 := rfl
      cases undecoded.symm.trans (decodeText_eq_ok_iff.mpr encoded)
    · exact failed

end SceneConfig
