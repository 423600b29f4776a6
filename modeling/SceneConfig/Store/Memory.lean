/- A store of texts in memory, keyed by the components of paths. -/
import SceneConfig.Store.Load
import SceneConfig.Store.Path

namespace SceneConfig

structure MemoryStore where
  entries : List (List Path.Component × String)
deriving Repr

namespace MemoryStore

def empty : MemoryStore := ⟨[]⟩

/-- Puts a text at `path`, in front of whatever is there. -/
def insert (store : MemoryStore) (path content : String) : MemoryStore :=
  ⟨(Path.components path, content) :: store.entries⟩

def read (store : MemoryStore) (path : String) : Except StorageError String :=
  match store.entries.find? fun entry => entry.1 = Path.components path with
  | some entry => .ok entry.2
  | none => .error (.absent path)

/-- Only a path with the same components sees the text that was put. -/
theorem read_insert (store : MemoryStore) (path content other : String) :
    (store.insert path content).read other =
      if Path.components path = Path.components other then .ok content
      else store.read other := by
  by_cases h : Path.components path = Path.components other
  · simp only [read, insert, List.find?_cons, h, decide_true, if_true]
  · simp only [read, insert, List.find?_cons, h, decide_false, if_false]

def load (store : MemoryStore) (path : String) : Traced LoadError Model :=
  Model.load path (store.read path)

end MemoryStore

end SceneConfig
