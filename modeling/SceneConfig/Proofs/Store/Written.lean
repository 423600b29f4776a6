/- What writing a file changes: the place that the path leads to, and no other.
   The directories above a place were there before, since the path led through them. -/
import SceneConfig.Proofs.Store.OneFile

namespace SceneConfig.FileSystem
variable {fs after : FileSystem} {place other : Location} {bytes : ByteArray} {path : String}

theorem hasDirectory_iff : fs.hasDirectory place = true ↔
    place <+: fs.workingDirectory ∨ ∃ file ∈ fs.files, place <+: file.1 := by
  simp only [hasDirectory, Bool.or_eq_true, List.isPrefixOf_iff_prefix, List.any_eq_true]

theorem hasDirectory_of_prefix (above : other <+: place) (h : fs.hasDirectory place = true) :
    fs.hasDirectory other = true := by
  rcases hasDirectory_iff.mp h with working | ⟨file, member, inside⟩
  · exact hasDirectory_iff.mpr (.inl (above.trans working))
  · exact hasDirectory_iff.mpr (.inr ⟨file, member, above.trans inside⟩)

theorem hasDirectory_of_node (h : fs.node place = .directory) : fs.hasDirectory place = true := by
  rw [node] at h
  split at h
  · cases h
  · split at h
    · assumption
    · cases h

/-- Every location above this one is a directory. -/
def Sheltered (fs : FileSystem) (place : Location) : Prop :=
  ∀ other, other <+: place → other ≠ place → fs.hasDirectory other = true

theorem sheltered_of_walk {segments : List String} {start : Location} (h : fs.Sheltered start)
    (walked : fs.walk start segments = .ok place) : fs.Sheltered place := by
  -- Wherever the walk stands, it has found a directory or is still to look for one.
  induction segments generalizing start with
  | nil =>
      cases walked
      exact h
  | cons segment segments ih =>
      rw [walk] at walked
      cases here : fs.node start with
      | file bytes => simp only [here, reduceCtorEq] at walked
      | nothing => simp only [here, reduceCtorEq] at walked
      | directory =>
          have within (other : Location) (above : other <+: start) :
              fs.hasDirectory other = true :=
            hasDirectory_of_prefix above (hasDirectory_of_node here)
          simp only [here] at walked
          split at walked
          · exact ih h walked
          split at walked
          · refine ih ?_ walked
            intro other above _
            exact within other (above.trans (List.dropLast_prefix start))
          split at walked
          · cases walked
          · refine ih ?_ walked
            intro other above proper
            rcases List.prefix_concat_iff.mp above with same | above
            · exact absurd same proper
            · exact within other above

theorem sheltered_of_locate (h : fs.locate path = .ok place) : fs.Sheltered place := by
  rw [locate] at h
  split at h
  · cases h
  split at h
  · cases h
  split at h
  · cases h
  refine sheltered_of_walk ?_ h
  intro other above proper
  by_cases absolute : Path.isAbsolute path = true
  · rw [if_pos absolute] at above proper
    exact absurd (List.prefix_nil.mp above) proper
  · rw [if_neg absolute] at above
    exact hasDirectory_iff.mpr (.inl above)

theorem hasDirectory_put (h : fs.Sheltered place) (off : other ≠ place) :
    (fs.put place bytes).hasDirectory other = fs.hasDirectory other := by
  rw [Bool.eq_iff_iff, hasDirectory_iff, hasDirectory_iff]
  constructor
  · rintro (working | ⟨file, member, above⟩)
    · exact .inl working
    rcases List.mem_cons.mp member with rfl | kept
    · exact hasDirectory_iff.mp (h other above off)
    · exact .inr ⟨file, (List.mem_filter.mp kept).1, above⟩
  · rintro (working | ⟨file, member, above⟩)
    · exact .inl working
    by_cases replaced : file.1 = place
    · exact .inr ⟨(place, bytes), List.mem_cons_self, replaced ▸ above⟩
    · refine .inr ⟨file, List.mem_cons_of_mem _ (List.mem_filter.mpr ⟨member, ?_⟩), above⟩
      exact decide_eq_true replaced

theorem node_put_of_ne (h : fs.Sheltered place) (off : other ≠ place) :
    (fs.put place bytes).node other = fs.node other := by
  have found : (fs.put place bytes).files.find? (fun file => file.1 = other) =
      fs.files.find? fun file => file.1 = other := by
    have first : decide (place = other) = false := decide_eq_false off.symm
    simp only [put, List.find?_cons, first, List.find?_filter]
    congr 1
    funext file
    by_cases here : file.1 = other
    · simp [here, off]
    · simp [here]
  rw [node, found, hasDirectory_put h off, node]

/-- A path that led to a place leads there still where no directory is gone. -/
theorem walk_of_directories {segments : List String} {start : Location}
    (kept : ∀ place, fs.node place = .directory → after.node place = .directory)
    (walked : fs.walk start segments = .ok place) : after.walk start segments = .ok place := by
  induction segments generalizing start with
  | nil => exact walked
  | cons segment segments ih =>
      rw [walk] at walked ⊢
      cases here : fs.node start with
      | file bytes => simp only [here, reduceCtorEq] at walked
      | nothing => simp only [here, reduceCtorEq] at walked
      | directory =>
          simp only [here] at walked
          simp only [kept start here]
          split at walked
          · next blank => rw [if_pos blank, ih walked]
          next blank =>
          rw [if_neg blank]
          split at walked
          · next parent => rw [if_pos parent, ih walked]
          next parent =>
          rw [if_neg parent]
          split at walked
          · cases walked
          · next short => rw [if_neg short, ih walked]

theorem locate_of_directories (working : after.workingDirectory = fs.workingDirectory)
    (kept : ∀ place, fs.node place = .directory → after.node place = .directory)
    (h : fs.locate path = .ok place) : after.locate path = .ok place := by
  rw [locate] at h ⊢
  split at h
  · cases h
  next clean =>
  rw [if_neg clean]
  split at h
  · cases h
  next nonempty =>
  rw [if_neg nonempty]
  split at h
  · cases h
  next short => rw [if_neg short, working, walk_of_directories kept h]

/-- Only the place at the end of the path is another. -/
structure Written (fs : FileSystem) (path : String) (bytes : ByteArray) (after : FileSystem) :
    Prop where
  workingDirectory : after.workingDirectory = fs.workingDirectory
  place : ∃ place, fs.locate path = .ok place ∧ after.locate path = .ok place ∧
    after.node place = .file bytes ∧ ∀ other ≠ place, after.node other = fs.node other

theorem written_of_write (h : fs.write path bytes = .ok after) : fs.Written path bytes after := by
  rw [write] at h
  cases located : fs.locate path with
  | error e =>
      rw [located] at h
      cases h
  | ok place =>
      simp only [located, bind, Except.bind] at h
      have put : after = fs.put place bytes ∧ fs.node place ≠ .directory := by
        cases there : fs.node place with
        | directory =>
            rw [there] at h
            cases h
        | file _ | nothing =>
            rw [there] at h
            cases h
            refine ⟨rfl, ?_⟩
            intro same
            cases same
      obtain ⟨rfl, free⟩ := put
      have sheltered := sheltered_of_locate located
      have others (other : Location) (off : other ≠ place) :
          (fs.put place bytes).node other = fs.node other := node_put_of_ne sheltered off
      have kept (other : Location) (directory : fs.node other = .directory) :
          (fs.put place bytes).node other = .directory := by
        rw [others other fun same => free (same ▸ directory), directory]
      have working : (fs.put place bytes).workingDirectory = fs.workingDirectory := rfl
      exact ⟨working, place, located, locate_of_directories working kept located, node_put ..,
        others⟩

theorem Written.readText {text : String} (h : fs.Written path text.toUTF8 after) :
    after.readText path = .ok text := by
  obtain ⟨place, _, located, file, _⟩ := h.place
  exact readText_of_text located file

theorem Written.contains (h : fs.Written path bytes after) : after.contains path = true := by
  obtain ⟨place, _, located, file, _⟩ := h.place
  simp only [FileSystem.contains, located, file]

end SceneConfig.FileSystem
