import CilTrace.Command.PlainLibrary
import CilTrace.Command.Run

/-!
The command line: the command on the files of the system.
-/

namespace CilTrace

/-- The fault that the system reports. -/
def faultOf : IO.Error → FileFault
  | .noFileOrDirectory .. => .notFound
  | .permissionDenied .. => .denied
  | .inappropriateType _ 20 _ => .notDirectory
  | .inappropriateType _ 21 _ => .isDirectory
  | .invalidArgument _ 36 _ => .nameTooLong
  | error => .other 0 error.toString

/-- The files of the system. -/
def systemFiles : FileSystem IO where
  kindOf path := do
    try
      let _ ← IO.FS.readBinFile path
      return some .file
    catch error =>
      match faultOf error with
      | .notFound | .notDirectory | .nameTooLong => return none
      | .isDirectory => return some .directory
      | _ => return some .file
  readBytes path := do
    try
      return .ok (← IO.FS.readBinFile path).toList
    catch error => return .error ⟨faultOf error, path⟩
  writeText path text := do
    try
      IO.FS.writeFile path text
      return .ok ()
    catch error => return .error ⟨faultOf error, path⟩

/-- The variables of the environment that settings come from. -/
def readEnvironment : IO (String → Option String) := do
  let found ← Config.variableNames.mapM fun name => do return (name, ← IO.getEnv name)
  return fun name => (found.lookup name).bind id

end CilTrace

/-- Runs the command and ends with its exit code. -/
def main (arguments : List String) : IO UInt32 := do
  let environment ← CilTrace.readEnvironment
  let report ← CilTrace.Command.run .plain CilTrace.systemFiles environment arguments
  let stdout ← IO.getStdout
  stdout.putStr report.stdout
  stdout.flush
  let stderr ← IO.getStderr
  stderr.putStr report.stderr
  return UInt32.ofNat report.exitCode
