import CilTrace.Command.Request

/-!
Running a command on a file system.
-/

namespace CilTrace.Command

variable {m : Type → Type} [Monad m] (library : CommandLibrary m)

/-- What arrives of all that is said about a failure. -/
def said (failure : Failure) (verbose : Bool) : String :=
  String.join ((failure.texts verbose).map library.echoed)

/-- The report of a text that has been put where it belongs. -/
def finish (request : Request) (disassembly : Disassembly) (stdout log : String) : Report :=
  match disassembly.failure with
  | none => { exitCode := 0, stdout, stderr := log }
  | some error =>
      let failure := Failure.ofDecodeError error
      { exitCode := failure.exitCode
        stdout
        stderr := log ++ said library failure request.verbose }

/-- The report of a command that gives no text. -/
def fail (request : Request) (failure : Failure) (log : String) : Report :=
  { exitCode := failure.exitCode
    stderr := log ++ said library failure request.verbose }

/-- Prints a text. -/
def print (request : Request) (disassembly : Disassembly) (log : String) : Report :=
  match (library.echo disassembly.text).toText with
  | .error error => fail library request (.ofLoneSurrogates error) log
  | .ok text => finish library request disassembly text log

/-- Puts a text into a file. One that cannot be written leaves the file empty. -/
def write (files : FileSystem m) (request : Request) (path : String) (disassembly : Disassembly)
    (log : String) : m Report := do
  let text := disassembly.text.toText
  match ← files.writeText path (text.toOption.getD ""), text with
  | .error error, _ => return fail library request (.ofFileError error) log
  | .ok _, .error error => return fail library request (.ofLoneSurrogates error) log
  | .ok _, .ok _ =>
      let note :=
        if request.verbose then library.echoed ("Output written to: " ++ path ++ "\n") else ""
      return finish library request disassembly "" (log ++ note)

/-- Carries out a request. -/
def perform (files : FileSystem m) (config : Config) (request : Request) : m Report := do
  let input ← files.readBytes request.inputFile
  let symbols ← match request.symbolsFile with
    | none => pure none
    | some path => some <$> files.readBytes path
  match request.disassemble library config input symbols "" with
  | (.error failure, log) => return fail library request failure log
  | (.ok disassembly, log) =>
      match request.outputFile with
      | none => return print library request disassembly log
      | some path => write library files request path disassembly log

/-- Runs the command with some arguments, under the settings of an environment. -/
def run (files : FileSystem m) (environment : String → Option String) (arguments : List String) :
    m Report := do
  match ← library.parse files arguments with
  | .error report => return report
  | .ok request => perform library files (Config.ofEnvironment environment) request

end CilTrace.Command
