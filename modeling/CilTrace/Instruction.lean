import CilTrace.Method
import CilTrace.Operand
import CilTrace.TextBuffer

/-!
Instructions: reading one, and writing one while it is read.

`Instruction.read` gives an instruction as a record. `Instruction.append` writes it into a buffer
piece by piece, so that the mnemonic stays behind when the operand cannot be read.
-/

namespace CilTrace

structure Instruction where
  offset : Int
  opcode : Opcode
  operand : Operand
  /-- All bytes, those of the opcode first. -/
  bytes : List UInt8
deriving DecidableEq, Repr

namespace Instruction

/-- Raw bytes as they stand behind an instruction. -/
def rawText (bytes : List UInt8) : String :=
  " $" ++ Hex.pairs bytes

def size (instruction : Instruction) : Nat :=
  instruction.bytes.length

/-- The text of an instruction without its offset. -/
def text (withBytes : Bool) (instruction : Instruction) : String :=
  let plain := Text.trimEndOf ' '
    (instruction.opcode.mnemonic ++ " " ++ instruction.operand.text)
  if withBytes then plain ++ rawText instruction.bytes else plain

/-- The text of an instruction behind its offset. -/
def line (instruction : Instruction) : String :=
  Hex.signed 4 instruction.offset ++ ": " ++ instruction.text false

/-- Reads the next instruction; at the end of the body there is none. -/
def read (resolver : Option Resolver) : Decode (Option Instruction) := do
  if (← get).atEnd then return none
  let offset := (← get).position
  let opcode ← Cursor.readOpcode
  let operand ← Operand.read resolver opcode.operand
  return some ⟨offset, opcode, operand, (← get).instructionBytes⟩

end Instruction

/-! ## Writing while reading -/

/-- A cursor and the buffer that its instructions are written to. -/
structure Writer where
  cursor : Cursor
  buffer : TextBuffer
deriving DecidableEq, Repr

/-- A step that reads and writes; what was read and written before a failure stays. -/
abbrev Write := ExceptT DecodeError (StateM Writer)

namespace Write

/-- A step that only reads. -/
def reading {α : Type} (step : Decode α) : Write α := fun writer =>
  let (result, cursor) := step writer.cursor
  (result, { writer with cursor })

/-- A step that only writes. -/
def writing (change : TextBuffer → TextBuffer) : Write Unit :=
  modify fun writer => { writer with buffer := change writer.buffer }

end Write

namespace Instruction

/--
Writes the next instruction and then `ending`. Spaces at the end are trimmed, so an instruction
without an operand ends with its mnemonic. At the end of the body nothing is written.
-/
def append (resolver : Option Resolver) (withBytes : Bool) (ending : Option String) :
    Write Bool := do
  if (← get).cursor.atEnd then return false
  let opcode ← Write.reading Cursor.readOpcode
  Write.writing fun buffer => (buffer.append opcode.mnemonic).append " "
  let operand ← Write.reading (Operand.read resolver opcode.operand)
  Write.writing fun buffer => buffer.append operand.text
  if withBytes then
    let bytes := (← get).cursor.instructionBytes
    Write.writing fun buffer => (buffer.trimEnd " ").append (rawText bytes)
  Write.writing fun buffer => (buffer.trimEnd " ").append (ending.getD "")
  return true

/-- The text of the single instruction at an offset; empty at the end of the body. -/
def textAt (method : Method) (offset : Int) (withBytes : Bool) : Except DecodeError String := do
  let cursor ← Cursor.openAt method.body offset
  match append method.resolver withBytes none ⟨cursor, TextBuffer.ofString ""⟩ with
  | (.ok _, writer) => return writer.buffer.toString
  | (.error error, _) => throw error

end Instruction

namespace Method

/-- Reads instructions up to the end, after those in `before` (last one first). A body of `limit`
bytes holds at most `limit` instructions. -/
def readAll (resolver : Option Resolver) : Nat → List Instruction → Decode (List Instruction)
  | 0, before => return before.reverse
  | limit + 1, before => do
      match ← Instruction.read resolver with
      | none => return before.reverse
      | some instruction => readAll resolver limit (instruction :: before)

/-- All instructions of a method body, in order. -/
def disassemble (method : Method) : Except DecodeError (List Instruction) := do
  let cursor ← Cursor.openAt method.body 0
  (readAll method.resolver cursor.length [] cursor).1

end Method

end CilTrace
