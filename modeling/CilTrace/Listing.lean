import CilTrace.Instruction

/-!
Listings of whole method bodies.

A listing has a heading if the method has a name, then its local variables, its stack depth and one
line for each instruction, between braces. If decoding stops, the reason comes first and the listing
follows as far as it got; a reason without a text leaves no listing.
-/

namespace CilTrace

structure Listing where
  text : String
  /-- The number of instructions, if all were listed. -/
  count : Option Nat
  failure : Option DecodeError
deriving DecidableEq, Repr

namespace Listing

open Write

/-- The heading of a listing. -/
def heading (name : String) (parameters : List String) : String :=
  ".method " ++ name ++ "(" ++ String.intercalate "," parameters ++ ")"

def appendHeading (method : Method) (buffer : TextBuffer) : TextBuffer :=
  match method.name with
  | none => buffer
  | some name => buffer.appendLine (heading name method.parameters)

/-- Writes a line that may hold a number. -/
def appendLine (text : Except NumeralError String) : Write Unit := do
  let text ← text.mapError fun _ => DecodeError.unwritable
  writing fun buffer => buffer.appendLine text

/-- One line for each local variable. -/
def appendSlots : List LocalVariable → Write Unit
  | [] => return ()
  | slot :: slots => do
      appendLine (slot.text.map fun text => "    " ++ text)
      appendSlots slots

def appendLocals (method : Method) : Write Unit := do
  if method.locals.isEmpty then return ()
  appendLine (.ok (if method.initLocals then "  .locals init (" else "  .locals ("))
  appendSlots method.locals
  appendLine (.ok "  )")

/-- The lines before the first instruction. A number that is too long to be written stops them. -/
def appendPreamble (method : Method) : Write Unit := do
  appendLine (.ok "\x7b")
  appendLocals method
  appendLine ((Numeral.write method.maxStack).map fun depth => "  .maxstack " ++ depth)
  appendLine (.ok "")

/-- Lists instructions up to the end and counts them on from `count`. A body of `limit` bytes holds
at most `limit` instructions. -/
def appendInstructions (method : Method) (withBytes : Bool) : Nat → Nat → Write Nat
  | 0, count => return count
  | limit + 1, count => do
      if (← get).cursor.atEnd then return count
      let position := (← get).cursor.position
      writing fun buffer => buffer.append ("  " ++ Hex.signed 4 position ++ ": ")
      let _ ← Instruction.append method.resolver withBytes none
      writing fun buffer => buffer.appendLine ""
      appendInstructions method withBytes limit (count + 1)

/-- The part of a listing between and with its braces. -/
def appendBody (method : Method) (withBytes : Bool) : Write Nat := do
  appendPreamble method
  let count ← appendInstructions method withBytes (← get).cursor.length 0
  writing fun buffer => buffer.appendLine "\x7d"
  return count

/-- A listing that stopped, if there is a text that says why. -/
def stopped (error : DecodeError) (buffer : TextBuffer) : Except HostFailure Listing := do
  return ⟨(← error.message) ++ "\n" ++ buffer.toString, none, some error⟩

/-- The listing of a method. -/
def ofMethod (method : Method) (withBytes : Bool) : Except HostFailure Listing :=
  let headed := appendHeading method (.ofString "")
  match Cursor.openAt method.body 0 with
  | .error error => stopped error headed
  | .ok cursor =>
      match appendBody method withBytes ⟨cursor, headed⟩ with
      | (.ok count, writer) => .ok ⟨writer.buffer.toString, some count, none⟩
      | (.error error, writer) => stopped error writer.buffer

/-- What a log says about a listing that stopped. -/
def note? (listing : Listing) : Option String := do
  let reason ← (← listing.failure).message.toOption
  return "Disassembly stopped: " ++ reason

end Listing

namespace Method

/-- The instructions up to the end or the first failure, after those in `before` (last one first). -/
def readDecodable (resolver : Option Resolver) :
    Nat → List Instruction → Cursor → List Instruction
  | 0, before, _ => before.reverse
  | limit + 1, before, cursor =>
      match Instruction.read resolver cursor with
      | (.ok (some instruction), cursor) =>
          readDecodable resolver limit (instruction :: before) cursor
      | _ => before.reverse

/-- What a log says about the tokens of the first instructions from an offset on, at most `limit`
of them. -/
def resolutionNotes (method : Method) (offset : Int) (limit : Nat) : List String :=
  match Cursor.openAt method.body offset with
  | .error _ => []
  | .ok cursor =>
      (readDecodable method.resolver limit [] cursor).filterMap fun instruction =>
        instruction.operand.note?

end Method

end CilTrace
