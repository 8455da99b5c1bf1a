import CilTrace.BodyFile
import CilTrace.Command.Library
import CilTrace.Symbol.Table
import CilTrace.Trace

/-!
How a command fails.

A failure is about the method body, about what the user handed in, or about the program itself. The
name of the error says which, and the exit code follows.
-/

namespace CilTrace

inductive FailureKind where
  /-- The body cannot be decoded. -/
  | decoding
  /-- An argument or a file makes no sense or is not there. -/
  | input
  /-- Anything else, by the name it has in traces. -/
  | internal (typeName : String)
deriving DecidableEq, Repr

namespace FailureKind

/-- The errors about a method body and its symbols. -/
def decodingErrors : List String :=
  ["TinyIlError", "DecodeError", "OutOfBoundsError", "UnknownOpcodeError",
    "UnresolvedReferenceError", "FrameFormatError"]

/-- The errors about arguments and texts that make no sense, and about files that are missing or
locked. -/
def inputErrors : List String :=
  ["click.exceptions.BadParameter", "ValueError", "UnicodeDecodeError", "UnicodeEncodeError",
    "JSONDecodeError", "FileNotFoundError", "PermissionError"]

/-- The kind of failure that an error leads to. -/
def ofTypeName (typeName : String) : FailureKind :=
  if decodingErrors.contains typeName then decoding
  else if inputErrors.contains typeName then input
  else internal typeName

end FailureKind

structure Failure where
  kind : FailureKind
  message : String
deriving DecidableEq, Repr

namespace Failure

def exitCode (failure : Failure) : Nat :=
  match failure.kind with
  | .decoding => 1
  | .input => 2
  | .internal _ => 3

/-- What is said about a failure, piece by piece; a verbose command adds the level of an internal
one. -/
def texts (failure : Failure) (verbose : Bool) : List String :=
  match failure.kind with
  | .decoding | .input => ["Error: " ++ failure.message ++ "\n"]
  | .internal typeName =>
      let level : Level := { typeName, message := failure.message }
      ("Internal error: " ++ failure.message ++ "\n") ::
        if verbose then [level.header ++ "\n"] else []

/-- The failure that an error leads to. -/
def raised (typeName message : String) : Failure :=
  ⟨.ofTypeName typeName, message⟩

/-- A failure of the host is reported by the first text that is to be had. -/
def ofHostFailure : HostFailure → Failure
  | .told kind text => raised kind text
  | .untold _ inner => ofHostFailure inner
  | .circular kind => raised kind ""

def ofDecodeError (error : DecodeError) : Failure :=
  match error.message with
  | .ok message => raised error.typeName message
  | .error failure => ofHostFailure failure

def ofBodyFileError (error : BodyFileError) : Failure :=
  raised error.typeName error.message

def ofNumeralError (error : NumeralError) : Failure :=
  raised "ValueError" error.message

def ofLoneSurrogates (error : LoneSurrogates) : Failure :=
  raised "UnicodeEncodeError" error.message

def ofSymbolError (error : SymbolError) : Failure :=
  raised error.typeName error.message

def ofFileError (error : FileError) : Failure :=
  raised (FileFault.typeName error.fault.code) error.message

end Failure

end CilTrace
