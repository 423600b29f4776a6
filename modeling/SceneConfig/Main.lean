/- The command line program: the tool over the files of the system. -/
import SceneConfig.Tool.Run

namespace SceneConfig

/-- A failure of the system. Some calls give its code with a minus sign. -/
def StorageError.ofSystem : IO.Error → StorageError
  | .noFileOrDirectory .. => .noSuchFile
  | .inappropriateType _ code details =>
    if code = 20 ∨ code = -20 then .notADirectory
    else if code = 21 ∨ code = -21 then .isADirectory
    else .other details
  | error => .other (toString error)

/-- Whether opening failed for want of a file, not for want of permission. -/
def isMissing : IO.Error → Bool
  | .noFileOrDirectory .. | .inappropriateType .. => true
  | _ => false

def systemDisk : Disk IO where
  contains path := do
    try
      let _ ← IO.FS.Handle.mk path .read
      return true
    catch error => return !isMissing error
  read path := do
    try return decodeText (← IO.FS.readBinFile path)
    catch error => return .error (.ofSystem error)
  write path text := do
    try
      IO.FS.writeFile path text
      return true
    catch _ => return false

end SceneConfig

open SceneConfig in
/-- Prints the log, then the output, and ends with the exit code. -/
def main (arguments : List String) : IO UInt32 := do
  let report ← Tool.run systemDisk arguments
  for entry in report.log do
    IO.println entry.line
  IO.print report.output
  return report.exitCode.toUInt32
