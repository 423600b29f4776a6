/- A store in memory, over any run of operations: at every spelling of a path the latest insert is
   read, reading leaves no trace, and inserts at different paths may be exchanged. -/
import SceneConfig.Proofs.Store.PathSpelling
import SceneConfig.Store.Memory

namespace SceneConfig

/-- Reading a configuration that is there comes to what its text comes to. -/
theorem Model.result_load (path : String) (contents : Except StorageError String) :
    (Model.load path contents).result =
      (contents.mapError .storage).bind fun text => (Model.ofText text).result := by
  rw [Model.load, Traced.result_bind, Traced.result_lift]
  congr 1
  funext text
  rw [Traced.result_bind]
  cases (Model.ofText text).result <;> rfl

namespace MemoryStore
open SceneConfig.Path (SpelledAlike)

inductive Operation where
  | insert (path content : String)
  | read (path : String)
  | load (path : String)

inductive Answer where
  | done
  | text (result : Except StorageError String)
  | model (result : Except LoadError Model)

def perform (store : MemoryStore) : Operation → MemoryStore × Answer
  | .insert path content => (store.insert path content, .done)
  | .read path => (store, .text (store.read path))
  | .load path => (store, .model (store.load path).result)

/-- The store behind a run of operations. -/
def after (store : MemoryStore) : List Operation → MemoryStore
  | [] => store
  | operation :: operations => (store.perform operation).1.after operations

/-- What a run of operations answers, one answer for each. -/
def answers (store : MemoryStore) : List Operation → List Answer
  | [] => []
  | operation :: operations =>
    (store.perform operation).2 :: (store.perform operation).1.answers operations

/-- Nothing was put at any spelling of the path. -/
def Untouched (history : List Operation) (path : String) : Prop :=
  ∀ other content, .insert other content ∈ history → ¬SpelledAlike other path

/-- The content of the latest insert at a spelling of the path. -/
def Latest (history : List Operation) (path content : String) : Prop :=
  ∃ earlier other later, history = earlier ++ .insert other content :: later ∧
    SpelledAlike other path ∧ Untouched later path

/-- The answer that an operation gets after a history. -/
inductive Answers (history : List Operation) : Operation → Answer → Prop
  | insert {path content : String} : Answers history (.insert path content) .done
  | read {path content : String} : Latest history path content →
      Answers history (.read path) (.text (.ok content))
  | readNothing {path : String} : Untouched history path →
      Answers history (.read path) (.text (.error (.absent path)))
  | load {path content : String} : Latest history path content →
      Answers history (.load path) (.model (Model.ofText content).result)
  | loadNothing {path : String} : Untouched history path →
      Answers history (.load path) (.model (.error (.storage (.absent path))))

section Histories
variable {history : List Operation} {path content : String} {operation : Operation}

theorem Untouched.concat (h : Untouched history path)
    (elsewhere : ∀ other content, operation = .insert other content → ¬SpelledAlike other path) :
    Untouched (history ++ [operation]) path := by
  intro other content member
  rcases List.mem_append.mp member with before | last
  · exact h other content before
  · exact elsewhere other content (List.mem_singleton.mp last).symm

theorem Latest.concat (h : Latest history path content)
    (elsewhere : ∀ other content, operation = .insert other content → ¬SpelledAlike other path) :
    Latest (history ++ [operation]) path content := by
  obtain ⟨earlier, other, later, rfl, alike, untouched⟩ := h
  refine ⟨earlier, other, later ++ [operation], ?_, alike, untouched.concat elsewhere⟩
  rw [List.append_assoc, List.cons_append]

theorem latest_concat_insert {other : String} (h : SpelledAlike other path) :
    Latest (history ++ [.insert other content]) path content :=
  ⟨history, other, [], rfl, h, nofun⟩

end Histories

/-- What is read at a path is settled by the history. -/
def Settles (history : List Operation) (store : MemoryStore) : Prop :=
  ∀ path, (∃ content, Latest history path content ∧ store.read path = .ok content) ∨
    Untouched history path ∧ store.read path = .error (.absent path)

theorem read_insert_alike (store : MemoryStore) {path other : String}
    (h : SpelledAlike path other) (content : String) :
    (store.insert path content).read other = .ok content := by
  rw [read_insert, if_pos (Path.components_eq_iff.mpr h)]

theorem read_insert_other (store : MemoryStore) {path other : String}
    (h : ¬SpelledAlike path other) (content : String) :
    (store.insert path content).read other = store.read other := by
  rw [read_insert, if_neg (mt Path.components_eq_iff.mp h)]

/-- One operation: its effect is settled by the history and itself. -/
theorem Settles.perform {history : List Operation} {store : MemoryStore}
    (h : Settles history store) (operation : Operation) :
    Settles (history ++ [operation]) (store.perform operation).1 := by
  intro path
  by_cases here : ∃ other content, operation = .insert other content ∧ SpelledAlike other path
  · obtain ⟨other, content, rfl, alike⟩ := here
    exact .inl ⟨content, latest_concat_insert alike, read_insert_alike store alike content⟩
  · have elsewhere (other content : String) (same : operation = .insert other content) :
        ¬SpelledAlike other path := fun alike => here ⟨other, content, same, alike⟩
    have read : (store.perform operation).1.read path = store.read path := by
      cases operation with
      | insert other content => exact read_insert_other store (elsewhere other content rfl) content
      | read | load => rfl
    rw [read]
    rcases h path with ⟨content, latest, found⟩ | ⟨untouched, missing⟩
    · exact .inl ⟨content, latest.concat elsewhere, found⟩
    · exact .inr ⟨untouched.concat elsewhere, missing⟩

theorem Settles.after {history : List Operation} {store : MemoryStore}
    (h : Settles history store) (operations : List Operation) :
    Settles (history ++ operations) (store.after operations) := by
  induction operations generalizing history store with
  | nil => rwa [List.append_nil]
  | cons operation operations ih =>
      have next := ih (h.perform operation)
      rwa [List.append_assoc] at next

theorem settles_after (operations : List Operation) :
    Settles operations (empty.after operations) := by
  have fresh : Settles [] empty := by
    intro path
    refine .inr ⟨?_, rfl⟩
    intro other content member
    cases member
  exact fresh.after operations

theorem Settles.answers {history : List Operation} {store : MemoryStore}
    (h : Settles history store) (operation : Operation) :
    Answers history operation (store.perform operation).2 := by
  cases operation with
  | insert path content => exact .insert
  | read path =>
      rcases h path with ⟨content, latest, found⟩ | ⟨untouched, missing⟩
      · rw [MemoryStore.perform, found]
        exact .read latest
      · rw [MemoryStore.perform, missing]
        exact .readNothing untouched
  | load path =>
      rw [MemoryStore.perform, MemoryStore.load, Model.result_load]
      rcases h path with ⟨content, latest, found⟩ | ⟨untouched, missing⟩
      · rw [found]
        exact .load latest
      · rw [missing]
        exact .loadNothing untouched

theorem answers_append (store : MemoryStore) (before later : List Operation) :
    store.answers (before ++ later) =
      store.answers before ++ (store.after before).answers later := by
  induction before generalizing store with
  | nil => rfl
  | cons operation before ih =>
      rw [List.cons_append, MemoryStore.answers, ih, MemoryStore.answers, MemoryStore.after,
        List.cons_append]

theorem length_answers (store : MemoryStore) (operations : List Operation) :
    (store.answers operations).length = operations.length := by
  induction operations generalizing store with
  | nil => rfl
  | cons operation operations ih =>
      rw [MemoryStore.answers, List.length_cons, ih, List.length_cons]

/-- The stores cannot be told apart by reading. -/
def ReadAlike (store other : MemoryStore) : Prop :=
  ∀ path, store.read path = other.read path

theorem ReadAlike.perform {store other : MemoryStore} (h : ReadAlike store other)
    (operation : Operation) :
    (store.perform operation).2 = (other.perform operation).2 ∧
      ReadAlike (store.perform operation).1 (other.perform operation).1 := by
  cases operation with
  | insert path content =>
      refine ⟨rfl, ?_⟩
      intro place
      change (store.insert path content).read place = (other.insert path content).read place
      rw [read_insert, read_insert, h place]
  | read path => exact ⟨congrArg Answer.text (h path), h⟩
  | load path =>
      refine ⟨?_, h⟩
      rw [MemoryStore.perform, MemoryStore.load, h path]
      rfl

theorem ReadAlike.answers {store other : MemoryStore} (h : ReadAlike store other)
    (operations : List Operation) : store.answers operations = other.answers operations := by
  induction operations generalizing store other with
  | nil => rfl
  | cons operation operations ih =>
      obtain ⟨same, next⟩ := h.perform operation
      rw [MemoryStore.answers, same, ih next, MemoryStore.answers]

/-- Without its own answer, an operation only counts by the store that it leaves. -/
theorem eraseIdx_answers (store : MemoryStore) (before later : List Operation)
    (operation : Operation) :
    (store.answers (before ++ operation :: later)).eraseIdx before.length =
      store.answers before ++ ((store.after before).perform operation).1.answers later := by
  have behind := length_answers store before
  rw [answers_append, List.eraseIdx_append_of_length_le (Nat.le_of_eq behind), behind, Nat.sub_self]
  rfl

theorem readAlike_exchange (store : MemoryStore) {path other : String}
    (h : ¬SpelledAlike path other) (content content' : String) :
    ReadAlike ((store.insert path content).insert other content')
      ((store.insert other content').insert path content) := by
  intro place
  by_cases here : SpelledAlike path place
  · have elsewhere : ¬SpelledAlike other place := fun alike =>
      h (.trans _ _ _ here (.symm _ _ alike))
    rw [read_insert_other _ elsewhere, read_insert_alike _ here, read_insert_alike _ here]
  · rw [read_insert (store.insert path content), read_insert_other store here,
      read_insert_other (store.insert other content') here, read_insert store]

theorem readAlike_overwrite (store : MemoryStore) {path other : String}
    (h : SpelledAlike path other) (content content' : String) :
    ReadAlike ((store.insert path content).insert other content')
      (store.insert other content') := by
  intro place
  by_cases here : SpelledAlike other place
  · rw [read_insert_alike _ here, read_insert_alike _ here]
  · have elsewhere : ¬SpelledAlike path place := fun alike =>
      here (.trans _ _ _ (.symm _ _ h) alike)
    rw [read_insert_other _ here, read_insert_other _ elsewhere, read_insert_other _ here]

/-- In a run that starts with an empty store, between what is done before and what is done later. -/
structure LastWriteWins (before later : List Operation) : Prop where
  answered : ∀ operation, ∃ answer,
    (empty.answers (before ++ operation :: later))[before.length]? = some answer ∧
      Answers before operation answer
  /-- A failure tells the path as it was given. -/
  nothing : ∀ path, (StorageError.absent path).kind = .notFound ∧
    (StorageError.absent path).message = path ++ " not found"
  silent : ∀ operation, (∀ path content, operation ≠ .insert path content) →
    (empty.answers (before ++ operation :: later)).eraseIdx before.length =
      empty.answers (before ++ later)
  exchanged : ∀ path other content content', ¬SpelledAlike path other →
    empty.answers (before ++ .insert path content :: .insert other content' :: later) =
      empty.answers (before ++ .insert other content' :: .insert path content :: later)
  overwritten : ∀ path other content content', SpelledAlike path other →
    (empty.answers (before ++ .insert path content :: .insert other content' :: later)).eraseIdx
        before.length =
      empty.answers (before ++ .insert other content' :: later)
  spelled : ∀ path other, SpelledAlike path other ↔ Path.components path = Path.components other

/-- Whatever is done before and later, a path is one entry under all its spellings. -/
theorem lastWriteWins (before later : List Operation) : LastWriteWins before later where
  answered operation := by
    refine ⟨((empty.after before).perform operation).2, ?_,
      (settles_after before).answers operation⟩
    have behind := length_answers empty before
    rw [answers_append, List.getElem?_append_right (Nat.le_of_eq behind), behind, Nat.sub_self]
    rfl
  nothing path := ⟨rfl, rfl⟩
  silent operation idle := by
    have unchanged : ((empty.after before).perform operation).1 = empty.after before := by
      cases operation with
      | insert path content => exact absurd rfl (idle path content)
      | read | load => rfl
    rw [eraseIdx_answers, unchanged, answers_append]
  exchanged path other content content' apart := by
    have alike := readAlike_exchange (empty.after before) apart content content'
    rw [answers_append, answers_append]
    exact congrArg (fun answers => empty.answers before ++ .done :: .done :: answers)
      (alike.answers later)
  overwritten path other content content' same := by
    have alike := readAlike_overwrite (empty.after before) same content content'
    rw [eraseIdx_answers, answers_append]
    exact congrArg (fun answers => empty.answers before ++ .done :: answers) (alike.answers later)
  spelled _ _ := Path.components_eq_iff.symm

/-- Two spellings of one path and one path that only looks like it. -/
theorem lastWriteWins_sample :
    let before : List Operation := [.insert "/spiffs/config.json" "old", .read "/spiffs"]
    let later : List Operation := [.read "/spiffs/./config.json"]
    (empty.answers (before ++ .insert "//spiffs/config.json/" "new" :: later)) =
        [.done, .text (.error (.absent "/spiffs")), .done, .text (.ok "new")] ∧
      SpelledAlike "/spiffs/config.json" "//spiffs/./config.json/" ∧
      ¬SpelledAlike "./config.json" "config.json" ∧
      (empty.answers (before ++ .load "/spiffs" :: later)).eraseIdx 2 =
        empty.answers (before ++ later) ∧
      empty.answers (before ++ .insert "./config.json" "a" :: .insert "config.json" "b" :: later) =
        empty.answers
          (before ++ .insert "config.json" "b" :: .insert "./config.json" "a" :: later) := by
  intro before later
  have wins := lastWriteWins before later
  have alike : SpelledAlike "/spiffs/config.json" "//spiffs/./config.json/" :=
    (wins.spelled _ _).mpr (by decide)
  have apart : ¬SpelledAlike "./config.json" "config.json" :=
    mt (wins.spelled _ _).mp (by decide)
  exact ⟨rfl, alike, apart, wins.silent (.load "/spiffs") nofun, wins.exchanged _ _ _ _ apart⟩

end MemoryStore

end SceneConfig
