/- Passwords reach nothing that is shown.
   Documents that differ in their passwords alone compile alike, with the same events; and a run
   over either of them comes to the same exit code, log and output. -/
import SceneConfig.Proofs.Document.Alike
import SceneConfig.Proofs.Document.ModelCopies
import SceneConfig.Proofs.Json.Pretty
import SceneConfig.Proofs.Store.OneFile
import SceneConfig.Proofs.Toml.Braces
import SceneConfig.Proofs.Tool.Runs

namespace SceneConfig
open CommandLine
open Json (Value)

def secretKeys : List String := ["password", "mqttpasswd"]

/-- The same members, but for the secrets, which are strings in both. -/
structure DifferInSecrets (document other : Value) : Prop where
  secrets : ∀ key ∈ secretKeys,
    (document.getText? key).isSome = true ∧ (other.getText? key).isSome = true
  rest : ∀ key ∉ secretKeys, document.get? key = other.get? key

namespace Model

/-- Nothing that is shown of the models or looked up in them tells them apart. Their groups are the
same, and with them whatever is asked of a device. -/
structure ShownAlike (model other : Model) : Prop where
  upToSecrets : model.EqUpToSecrets other
  summary : model.summary = other.summary
  dump : model.dump = other.dump
  checkLine : ∀ path, Tool.checkLine path model = Tool.checkLine path other
  subscribeTopics : model.subscribeTopics = other.subscribeTopics
  switchGroups : model.switchGroups = other.switchGroups
  sensorGroups : model.sensorGroups = other.sensorGroups
  group : ∀ id, model.group? id = other.group? id

theorem EqUpToSecrets.shownAlike {model other : Model} (h : model.EqUpToSecrets other) :
    model.ShownAlike other where
  upToSecrets := h
  summary := h.summary_eq
  dump := h.dump_eq
  checkLine path := by
    rw [Tool.checkLine, h.groups, h.subscribeTopics_eq, Tool.checkLine]
  subscribeTopics := h.subscribeTopics_eq
  switchGroups := by rw [switchGroups, h.groups, switchGroups]
  sensorGroups := by rw [sensorGroups, h.groups, sensorGroups]
  group id := by rw [group?, h.groups, group?]

theorem ShownAlike.render_eq {model other : Model} (h : model.ShownAlike other) (view : View)
    (path : String) : Tool.render view path model = Tool.render view path other := by
  cases view with
  | check => exact h.checkLine path
  | «show» => exact h.summary
  | dump => rw [Tool.render, h.dump, Tool.render]

end Model

namespace DifferInSecrets
variable {document other : Value} {text text' : String}

theorem documentsAgree (h : DifferInSecrets document other) :
    DocumentsAgree (fun _ _ => True) document other := by
  have alike (key : String) (shown : key ∉ secretKeys) :
      Option.Rel Value.Alike (document.get? key) (other.get? key) := by
    rw [h.rest key shown]
    cases other.get? key with
    | none => exact .none
    | some v => exact .some (.refl v)
  constructor
  · intro key member
    apply textsAgree_of_alike
    apply alike
    simp only [List.mem_cons, List.not_mem_nil, or_false] at member
    rcases member with rfl | rfl | rfl | rfl <;> decide
  · intro key member
    obtain ⟨left, right⟩ := h.secrets key member
    obtain ⟨s, hs⟩ := Option.isSome_iff_exists.mp left
    obtain ⟨t, ht⟩ := Option.isSome_iff_exists.mp right
    constructor
    · obtain ⟨v, hv, _⟩ := Option.bind_eq_some_iff.mp hs
      obtain ⟨w, hw, _⟩ := Option.bind_eq_some_iff.mp ht
      rw [Value.has, Value.has, hv, hw]
      rfl
    · rw [Value.getText?] at hs ht
      rw [hs, ht]
      exact .some trivial
  · exact listsAgree_of_alike (fun _ _ => scenesAgree_of_alike) (alike "scenes" (by decide))

/-- The secrets are there, so both are objects. -/
theorem isObject (h : DifferInSecrets document other) :
    document.isObject = true ∧ other.isObject = true := by
  obtain ⟨left, right⟩ := h.secrets "password" (by decide)
  constructor
  · cases document with
    | object members => rfl
    | null | bool | number | string | array => cases left
  · cases other with
    | object members => rfl
    | null | bool | number | string | array => cases right

theorem ofDocument (h : DifferInSecrets document other) :
    Traced.Agree Model.ShownAlike (Model.ofDocument document) (Model.ofDocument other) :=
  h.documentsAgree.ofDocument.mono fun _ _ related => related.1.shownAlike

theorem load (h : DifferInSecrets document other) (ht : Json.parse text = some document)
    (ht' : Json.parse text' = some other) (path : String) :
    Traced.Agree Model.ShownAlike (Model.load path (.ok text)) (Model.load path (.ok text')) := by
  have parsed : parseDocument text = .ok document := by
    rw [parseDocument, ht]
    exact if_pos h.isObject.1
  have parsed' : parseDocument text' = .ok other := by
    rw [parseDocument, ht']
    exact if_pos h.isObject.2
  have compiled : Traced.Agree Model.ShownAlike (Model.ofText text) (Model.ofText text') := by
    rw [Model.ofText, Model.ofText, parsed, parsed']
    exact h.ofDocument.mapError LoadError.fault
  apply compiled.bind
  intro model model' shown
  rw [shown.upToSecrets.groups]
  apply (Traced.Agree.refl _).bind
  intro _ _ _
  exact .pure shown

theorem inspect_eq (h : DifferInSecrets document other) (ht : Json.parse text = some document)
    (ht' : Json.parse text' = some other) (view : View) (path : String) :
    Tool.inspect view path (.ok text) = Tool.inspect view path (.ok text') := by
  obtain ⟨events, agree⟩ := h.load ht ht' path
  simp only [Tool.inspect, events]
  generalize (Model.load path (.ok text)).result = x,
    (Model.load path (.ok text')).result = y at agree
  cases agree with
  | ok shown => simp only [shown.render_eq]
  | error same => rw [same]

/-- Settings that are looked for in the document itself are broken, whatever the passwords. -/
theorem settings?_eq (h : DifferInSecrets document other) (ht : Json.parse text = some document)
    (ht' : Json.parse text' = some other) (fs : FileSystem) (location : Location)
    (path : String) :
    (fs.put location text.toUTF8).settings? path =
      (fs.put location text'.toUTF8).settings? path := by
  have broken := Toml.parse_eq_none_of_json ht h.isObject.1
  have broken' := Toml.parse_eq_none_of_json ht' h.isObject.2
  rw [FileSystem.settings?, FileSystem.settings?,
    fs.contains_put_congr location text.toUTF8 text'.toUTF8]
  rcases fs.readText_put_congr location text text' path with ⟨read, read'⟩ | same
  · simp only [read, read', Settings.parse, broken, broken']
  · rw [same]

theorem outcome_eq (h : DifferInSecrets document other) (ht : Json.parse text = some document)
    (ht' : Json.parse text' = some other) (fs : FileSystem) (location : Location)
    (options : Options) (view : View) :
    (fs.put location text.toUTF8).outcome options view =
      (fs.put location text'.toUTF8).outcome options view := by
  have inspected (path : String) :
      Tool.inspect view path ((fs.put location text.toUTF8).readText path) =
        Tool.inspect view path ((fs.put location text'.toUTF8).readText path) := by
    rcases fs.readText_put_congr location text text' path with ⟨read, read'⟩ | same
    · rw [read, read', h.inspect_eq ht ht']
    · rw [same]
  simp only [FileSystem.outcome, h.settings?_eq ht ht' fs location, inspected]

theorem run_eq (h : DifferInSecrets document other) (ht : Json.parse text = some document)
    (ht' : Json.parse text' = some other) (fs : FileSystem) (location : Location)
    (arguments : List String) :
    ((Tool.run FileSystem.disk arguments).run (fs.put location text.toUTF8)).1 =
      ((Tool.run FileSystem.disk arguments).run (fs.put location text'.toUTF8)).1 := by
  cases asked : Request.ofArguments arguments with
  | misuse | help | version =>
      rw [Tool.run, asked]
      rfl
  | run options command =>
      cases command with
      | inspect view =>
          rw [Tool.run_inspect asked, Tool.run_inspect asked, h.outcome_eq ht ht']
      | initSettings path =>
          have written := fs.write_put_congr location text.toUTF8 text'.toUTF8 path
            Settings.defaultText.toUTF8
          rw [Tool.run_initSettings asked, Tool.run_initSettings asked]
          generalize (fs.put location text.toUTF8).write path _ = x,
            (fs.put location text'.toUTF8).write path _ = y at written
          cases x <;> cases y <;> first | rfl | cases written

end DifferInSecrets

/-- What compiling the documents, loading their texts, and running the tool over a file system
that holds either text comes to is the same but for the passwords in the model. -/
structure Indistinguishable (document other : Value) : Prop where
  compiled : Traced.Agree Model.ShownAlike (Model.ofDocument document) (Model.ofDocument other)
  loaded : ∀ text text', Json.parse text = some document → Json.parse text' = some other →
    ∀ path, Traced.Agree Model.ShownAlike (Model.load path (.ok text))
      (Model.load path (.ok text'))
  runs : ∀ text text', Json.parse text = some document → Json.parse text' = some other →
    ∀ (fs : FileSystem) (location : Location) (arguments : List String),
      ((Tool.run FileSystem.disk arguments).run (fs.put location text.toUTF8)).1 =
        ((Tool.run FileSystem.disk arguments).run (fs.put location text'.toUTF8)).1

theorem indistinguishable_of_differInSecrets {document other : Value}
    (h : DifferInSecrets document other) : Indistinguishable document other where
  compiled := h.ofDocument
  loaded _ _ ht ht' path := h.load ht ht' path
  runs _ _ ht ht' fs location arguments := h.run_eq ht ht' fs location arguments

/-- The sample with other passwords: a quote in the one, nothing in the other. -/
def sampleWithOtherPasswords : Value :=
  .object [("wifi", .string "home"), ("password", .string "\"hush\""),
    ("mqttbroker", .string "10.0.0.5"), ("mqttusername", .string "panel"),
    ("mqttpasswd", .string ""), ("timezone", .string "CET-1"),
    ("scenes", (sampleDocument.get? "scenes").getD .null)]

theorem indistinguishable_of_differInSecrets_sample :
    DifferInSecrets sampleDocument sampleWithOtherPasswords ∧
      Indistinguishable sampleDocument sampleWithOtherPasswords ∧
      ∀ (fs : FileSystem) (location : Location) (arguments : List String),
        ((Tool.run FileSystem.disk arguments).run
            (fs.put location sampleDocument.pretty.toUTF8)).1 =
          ((Tool.run FileSystem.disk arguments).run
            (fs.put location sampleWithOtherPasswords.pretty.toUTF8)).1 := by
  have differ : DifferInSecrets sampleDocument sampleWithOtherPasswords := by
    constructor
    · intro key member
      simp only [secretKeys, List.mem_cons, List.not_mem_nil, or_false] at member
      rcases member with rfl | rfl <;> exact ⟨rfl, rfl⟩
    · intro key other
      simp only [secretKeys, List.mem_cons, List.not_mem_nil, or_false, not_or] at other
      have wifi : "password" ≠ key := Ne.symm other.1
      have broker : "mqttpasswd" ≠ key := Ne.symm other.2
      simp only [sampleWithOtherPasswords, sampleDocument, homeDocument, homeMembers,
        List.cons_append, List.nil_append, Value.get?, Json.lookup, if_neg wifi, if_neg broker]
      rfl
  have alike := indistinguishable_of_differInSecrets differ
  have readable : Json.Readable Json.Parser.nestingLimit sampleDocument := by
    simp [Json.Parser.nestingLimit, sampleDocument, homeDocument, homeMembers]
  have readable' : Json.Readable Json.Parser.nestingLimit sampleWithOtherPasswords := by
    simp [Json.Parser.nestingLimit, sampleWithOtherPasswords, sampleDocument, homeDocument,
      homeMembers, Value.get?, Json.lookup]
  exact ⟨differ, alike, alike.runs _ _ (Json.parse_pretty readable) (Json.parse_pretty readable')⟩

end SceneConfig
