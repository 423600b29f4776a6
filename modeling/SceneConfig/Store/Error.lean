/- Configuration text at rest: paths, stores, and why a read fails. -/

namespace SceneConfig

inductive StorageError where
  /-- A memory store holds nothing at this path. -/
  | absent (path : String)
  | noSuchFile
  | notADirectory
  | isADirectory
  | nameTooLong
  /-- A path with a NUL character names no file. -/
  | nulInPath
  | invalidUtf8
  /-- Any other failure, in the words of the system. -/
  | other (text : String)
deriving DecidableEq, Repr

namespace StorageError

/-- What kind of failure a system reports. -/
inductive Kind where
  | notFound
  | notADirectory
  | isADirectory
  | invalidFilename
  | invalidInput
  | invalidData
  | other
deriving DecidableEq, Repr

def kind : StorageError → Kind
  | .absent _ => .notFound
  | .noSuchFile => .notFound
  | .notADirectory => .notADirectory
  | .isADirectory => .isADirectory
  | .nameTooLong => .invalidFilename
  | .nulInPath => .invalidInput
  | .invalidUtf8 => .invalidData
  | .other _ => .other

def message : StorageError → String
  | .absent path => s!"{path} not found"
  | .noSuchFile => "No such file or directory (os error 2)"
  | .notADirectory => "Not a directory (os error 20)"
  | .isADirectory => "Is a directory (os error 21)"
  | .nameTooLong => "File name too long (os error 36)"
  | .nulInPath => "file name contained an unexpected NUL byte"
  | .invalidUtf8 => "stream did not contain valid UTF-8"
  | .other text => text

end StorageError

end SceneConfig
