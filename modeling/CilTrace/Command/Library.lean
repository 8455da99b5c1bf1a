import CilTrace.Files.Basic
import CilTrace.Text.Wide

/-!
What a command is asked to do, what it leaves behind, and the library between it and its caller.

A library for command lines turns the arguments of a command into a request and prints its texts. It
is not part of the program: everything here works with any such library.
-/

namespace CilTrace

structure Request where
  inputFile : String
  /-- The file for the text; without one it goes to the standard output. -/
  outputFile : Option String := none
  symbolsFile : Option String := none
  /-- Whether the input spells its bytes in hexadecimal digits. -/
  inputIsText : Bool := false
  maxStack : Int := 8
  /-- The types of the local variables. -/
  locals : List String := []
  initLocals : Bool := false
  name : Option String := none
  /-- The offset of a snippet; without one the whole body is listed. -/
  offset : Option String := none
  withBytes : Bool := false
  verbose : Bool := false
deriving DecidableEq, Repr

/-- What a command leaves behind. -/
structure Report where
  exitCode : Nat := 0
  stdout : String := ""
  stderr : String := ""
deriving DecidableEq, Repr

/-- A library for command lines. -/
structure CommandLibrary (m : Type → Type) where
  /-- The request that arguments make; or a report, if they make none. -/
  parse : FileSystem m → List String → m (Except Report Request)
  /-- What arrives of a text that is printed. -/
  echo : WideText → WideText

/-- What arrives of an ordinary text. -/
def CommandLibrary.echoed {m : Type → Type} (library : CommandLibrary m) (text : String) : String :=
  (library.echo text).toString

end CilTrace
