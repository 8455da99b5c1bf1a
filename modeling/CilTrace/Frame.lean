import CilTrace.Instruction

/-!
Call frames and the instructions they were executing.

A snippet shows the instruction at an offset and the one after it. A call frame with a positive
offset has a snippet; at offset zero nothing has been executed yet, so there is none.
-/

namespace CilTrace

structure CallFrame where
  declaringType : Option String := none
  methodName : String
  method : Option Method := none
  file : Option String := none
  /-- The source line, or zero. -/
  line : Int := 0
  /-- The source column, or zero. -/
  column : Int := 0
  /-- The offset of the instruction that was being executed. -/
  offset : Option Int := none

/-- Writes the instruction at the cursor and the one after it. -/
def appendTwo (resolver : Option Resolver) (withBytes : Bool) : Write Unit := do
  let _ ← Instruction.append resolver withBytes (some "; ")
  let _ ← Instruction.append resolver withBytes (some ";")
  Write.writing fun buffer => buffer.trimEnd " "

namespace Method

/-- Writes the snippet at an offset; what was written before a failure stays. -/
def appendSnippet (method : Method) (offset : Int) (withBytes : Bool) (buffer : TextBuffer) :
    TextBuffer × Option DecodeError :=
  match Cursor.openAt method.body offset with
  | .error error => (buffer, some error)
  | .ok cursor =>
      match appendTwo method.resolver withBytes ⟨cursor, buffer⟩ with
      | (.ok _, writer) => (writer.buffer, none)
      | (.error error, writer) => (writer.buffer, some error)

end Method

/-- Why the snippet of a call frame cannot be had. -/
inductive SnippetError where
  /-- The instructions cannot be decoded, for a reason that the message ends with. -/
  | frame (message : String) (cause : DecodeError)
  /-- The message cannot be written, as a part of it has no text. -/
  | unsaid (failure : HostFailure)
deriving DecidableEq, Repr

namespace CallFrame

/-- Whether line and column are both known. -/
def hasLocation (frame : CallFrame) : Bool :=
  frame.line != 0 && frame.column != 0

/-- The offset, if the frame is past the first instruction. -/
def snippetOffset? (frame : CallFrame) : Option Int :=
  frame.offset.filter (0 < ·)

/-- Writes the snippet of a frame. -/
def appendSnippet (frame : CallFrame) (withBytes : Bool) (buffer : TextBuffer) :
    TextBuffer × Option DecodeError :=
  match frame.snippetOffset? with
  | none => (buffer, none)
  | some offset =>
      match frame.method with
      | none => (buffer, some (.noMethod frame.methodName))
      | some method => method.appendSnippet offset withBytes buffer

/-- The offset in messages. -/
def offsetName (frame : CallFrame) : Except HostFailure String :=
  match frame.offset with
  | none => .ok "None"
  | some offset => (Numeral.write offset).mapError HostFailure.ofNumeralError

/-- What is said about a snippet that cannot be had. -/
def snippetMessage (frame : CallFrame) (cause : DecodeError) : Except HostFailure String := do
  return "cannot decode " ++ frame.methodName ++ " at IL offset " ++ (← frame.offsetName) ++ ": " ++
    (← cause.message)

def snippetError (frame : CallFrame) (cause : DecodeError) : SnippetError :=
  match frame.snippetMessage cause with
  | .ok message => .frame message cause
  | .error failure => .unsaid failure

/-- The snippet of a frame; empty if it has none. -/
def snippet (frame : CallFrame) (withBytes : Bool) : Except SnippetError String :=
  match frame.appendSnippet withBytes (.ofString "") with
  | (buffer, none) => .ok buffer.toString
  | (_, some cause) => .error (frame.snippetError cause)

end CallFrame

end CilTrace
