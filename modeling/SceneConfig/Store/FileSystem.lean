/- A file system: files at absolute locations, and the directories that they need.
   A path is followed from its start to its end, so a missing directory stops it early. -/
import SceneConfig.Store.Error
import SceneConfig.Store.Path

namespace SceneConfig

abbrev Location := List String

structure FileSystem where
  workingDirectory : Location
  files : List (Location × ByteArray)

inductive Node where
  | file (bytes : ByteArray)
  | directory
  | nothing

namespace FileSystem

/-- A location is a directory if the working directory or a file lies in or under it. -/
def hasDirectory (fs : FileSystem) (location : Location) : Bool :=
  location.isPrefixOf fs.workingDirectory || fs.files.any fun file => location.isPrefixOf file.1

def node (fs : FileSystem) (location : Location) : Node :=
  match fs.files.find? fun file => file.1 = location with
  | some file => .file file.2
  | none => if fs.hasDirectory location then .directory else .nothing

def nameLimit : Nat := 255

def pathLimit : Nat := 4095

/-- Follows the segments of a path. Every segment, an empty one too, asks for a directory to
stand in; the parent of the root is the root. -/
def walk (fs : FileSystem) : Location → List String → Except StorageError Location
  | location, [] => .ok location
  | location, segment :: segments =>
    match fs.node location with
    | .file _ => .error .notADirectory
    | .nothing => .error .noSuchFile
    | .directory =>
      if segment = "" ∨ segment = "." then fs.walk location segments
      else if segment = ".." then fs.walk location.dropLast segments
      else if nameLimit < segment.utf8ByteSize then .error .nameTooLong
      else fs.walk (location ++ [segment]) segments

/-- The location that a path leads to; nothing need be there. -/
def locate (fs : FileSystem) (path : String) : Except StorageError Location :=
  if path.toList.contains '\x00' then .error .nulInPath
  else if path = "" then .error .noSuchFile
  else if pathLimit < path.utf8ByteSize then .error .nameTooLong
  else fs.walk (if Path.isAbsolute path then [] else fs.workingDirectory) (Path.segments path)

def contains (fs : FileSystem) (path : String) : Bool :=
  match fs.locate path with
  | .ok location =>
    match fs.node location with
    | .nothing => false
    | _ => true
  | .error _ => false

def readBytes (fs : FileSystem) (path : String) : Except StorageError ByteArray := do
  let location ← fs.locate path
  match fs.node location with
  | .file bytes => .ok bytes
  | .directory => .error .isADirectory
  | .nothing => .error .noSuchFile

def put (fs : FileSystem) (location : Location) (bytes : ByteArray) : FileSystem :=
  { fs with files := (location, bytes) :: fs.files.filter fun file => file.1 ≠ location }

theorem node_put (fs : FileSystem) (location : Location) (bytes : ByteArray) :
    (fs.put location bytes).node location = .file bytes := by
  simp only [node, put, List.find?_cons, decide_true]

/-- Writes a file in a directory that exists. -/
def write (fs : FileSystem) (path : String) (bytes : ByteArray) :
    Except StorageError FileSystem := do
  let location ← fs.locate path
  match fs.node location with
  | .directory => .error .isADirectory
  | _ => .ok (fs.put location bytes)

end FileSystem

/-- The text that bytes encode; nothing is dropped, a byte order mark neither. -/
def decodeText (bytes : ByteArray) : Except StorageError String :=
  match String.fromUTF8? bytes with
  | some text => .ok text
  | none => .error .invalidUtf8

def FileSystem.readText (fs : FileSystem) (path : String) : Except StorageError String :=
  fs.readBytes path >>= decodeText

end SceneConfig
