/- File systems that differ in the contents of one file: every path leads to the same place in
   both, and only that file is read otherwise. -/
import SceneConfig.Store.FileSystem

namespace SceneConfig

theorem decodeText_toUTF8 (text : String) : decodeText text.toUTF8 = .ok text := by
  simp [decodeText, String.fromUTF8?, String.fromUTF8, String.toUTF8, text.isValidUTF8]

namespace FileSystem
variable (fs : FileSystem) (location : Location) (old new : ByteArray)

theorem hasDirectory_put_congr (place : Location) :
    (fs.put location old).hasDirectory place = (fs.put location new).hasDirectory place := by
  simp only [hasDirectory, put, List.any_cons]

theorem node_put_congr {place : Location} (h : place ≠ location) :
    (fs.put location old).node place = (fs.put location new).node place := by
  have other : decide (location = place) = false := decide_eq_false h.symm
  rw [node, node, fs.hasDirectory_put_congr location old new]
  simp only [put, List.find?_cons, other]

theorem walk_put_congr (start : Location) (segments : List String) :
    (fs.put location old).walk start segments = (fs.put location new).walk start segments := by
  induction segments generalizing start with
  | nil => rfl
  | cons segment segments ih =>
      rw [walk, walk]
      by_cases here : start = location
      · rw [here, node_put, node_put]
      · rw [fs.node_put_congr location old new here]
        simp only [ih]

theorem locate_put_congr (path : String) :
    (fs.put location old).locate path = (fs.put location new).locate path := by
  rw [locate, locate, fs.walk_put_congr location old new]
  rfl

theorem contains_put_congr (path : String) :
    (fs.put location old).contains path = (fs.put location new).contains path := by
  rw [contains, contains, fs.locate_put_congr location old new]
  cases (fs.put location new).locate path with
  | error e => rfl
  | ok place =>
      by_cases here : place = location
      · simp only [here, node_put]
      · simp only [fs.node_put_congr location old new here]

theorem readText_of_locate {fs : FileSystem} {path : String} {place : Location}
    {bytes : ByteArray} (located : fs.locate path = .ok place)
    (file : fs.node place = .file bytes) : fs.readText path = decodeText bytes := by
  simp only [readText, readBytes, bind, Except.bind, located, file]

theorem readText_of_text {fs : FileSystem} {path text : String} {place : Location}
    (located : fs.locate path = .ok place) (file : fs.node place = .file text.toUTF8) :
    fs.readText path = .ok text := by
  rw [readText_of_locate located file, decodeText_toUTF8]

/-- Reading a path finds the file, or the same in both. -/
theorem readText_put_congr (text other path : String) :
    (fs.put location text.toUTF8).readText path = .ok text ∧
        (fs.put location other.toUTF8).readText path = .ok other ∨
      (fs.put location text.toUTF8).readText path =
        (fs.put location other.toUTF8).readText path := by
  have same := fs.locate_put_congr location text.toUTF8 other.toUTF8 path
  cases located : (fs.put location other.toUTF8).locate path with
  | error e =>
      right
      simp only [readText, readBytes, bind, Except.bind, same, located]
  | ok place =>
      rw [located] at same
      by_cases here : place = location
      · left
        subst here
        exact ⟨readText_of_text same (node_put ..), readText_of_text located (node_put ..)⟩
      · right
        have off := fs.node_put_congr location text.toUTF8 other.toUTF8 here
        simp only [readText, readBytes, bind, Except.bind, same, located, off]

/-- A write succeeds in both, or fails in both for the same reason. -/
theorem write_put_congr (path : String) (bytes : ByteArray) :
    ((fs.put location old).write path bytes).map (fun _ => ()) =
      ((fs.put location new).write path bytes).map (fun _ => ()) := by
  rw [write, write, fs.locate_put_congr location old new]
  cases (fs.put location new).locate path with
  | error e => rfl
  | ok place =>
      by_cases here : place = location
      · simp only [here, bind, Except.bind, node_put, Except.map]
      · simp only [bind, Except.bind, fs.node_put_congr location old new here]
        cases (fs.put location new).node place <;> rfl

end FileSystem

end SceneConfig
