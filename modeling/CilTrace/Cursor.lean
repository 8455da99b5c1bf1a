import CilTrace.DecodeError
import CilTrace.Opcode.InstructionSet

/-!
A cursor over the bytes of a method body.

The cursor knows the place of the next byte and the place where the last opcode began. Numbers are
little-endian. A number or a run of bytes that is cut leaves the cursor where it is, and an opcode
whose second byte is missing leaves it behind the first. The cursor after a failure is part of the
result, so that decoding can go on from there.

Places may be set freely. One below zero counts from the end of the body.
-/

namespace CilTrace

structure Cursor where
  data : Array UInt8
  position : Int
  instructionStart : Int
deriving DecidableEq, Repr

namespace Opcode

/-- The opcode of a number that was read at a place. -/
def lookup (id : Int) (position : Option Int) : Except DecodeError Opcode :=
  match (if 0 ≤ id then find? id.toNat else none) with
  | some opcode => .ok opcode
  | none => .error (.unknownOpcode id position)

end Opcode

/-- A step of decoding: it moves the cursor, also when it fails. -/
abbrev Decode := ExceptT DecodeError (StateM Cursor)

namespace Cursor

/-- A cursor at `offset` of a body, if there is a body and the offset lies in it or at its end. -/
def openAt (body : Option (Array UInt8)) (offset : Int) : Except DecodeError Cursor :=
  match body with
  | none => .error .noBody
  | some data =>
      if 0 ≤ offset ∧ offset ≤ data.size then .ok ⟨data, offset, offset⟩
      else .error (.misplaced offset data.size)

def length (cursor : Cursor) : Nat :=
  cursor.data.size

/-- The number of bytes from the cursor to the end. -/
def remaining (cursor : Cursor) : Int :=
  cursor.length - cursor.position

def atEnd (cursor : Cursor) : Bool :=
  cursor.length ≤ cursor.position

/-- The index of a place in the body: below zero it counts from the end, and none lies outside. -/
def index (cursor : Cursor) (place : Int) : Nat :=
  if place < 0 then (place + cursor.length).toNat else min place.toNat cursor.length

/-- The bytes from one place up to another. -/
def slice (cursor : Cursor) (first stop : Int) : List UInt8 :=
  (cursor.data.extract (cursor.index first) (cursor.index stop)).toList

/-- The bytes read since the last opcode began. -/
def instructionBytes (cursor : Cursor) : List UInt8 :=
  cursor.slice cursor.instructionStart cursor.position

/-- Puts the cursor at any place. -/
def seek (cursor : Cursor) (place : Int) : Cursor :=
  { cursor with position := place }

/-! ## Reading -/

/-- The number that bytes spell, the first one least significant. -/
def littleEndian (bytes : List UInt8) : Nat :=
  bytes.foldr (fun byte rest => byte.toNat + 0x100 * rest) 0

/-- The lowest place that a machine word holds. -/
def lowestPlace : Int := -0x8000000000000000

/-- The next `size` bytes, for a number of that size. -/
def take (size : Nat) : Decode (List UInt8) := do
  let cursor ← get
  if cursor.length < cursor.position + size then
    throw (.outOfBounds size cursor.position cursor.length)
  if cursor.position < lowestPlace then
    throw .beyondWord
  if cursor.position < 0 ∧
      (cursor.position + cursor.length < 0 ∨ 0 < cursor.position + size) then
    throw (.beforeStart size cursor.position cursor.length)
  let first := cursor.index cursor.position
  set { cursor with position := cursor.position + size }
  return (cursor.data.extract first (first + size)).toList

/-- The next bytes as they are; a size below zero is refused. -/
def takeBytes (size : Int) : Decode (List UInt8) := do
  let cursor ← get
  if size < 0 ∨ cursor.length < cursor.position + size then
    throw (.short size cursor.position cursor.length)
  set { cursor with position := cursor.position + size }
  return cursor.slice cursor.position (cursor.position + size)

/-- An unsigned number of `size` bytes. -/
def readUnsigned (size : Nat) : Decode Nat := do
  return littleEndian (← take size)

/-- A number of `size` bytes in two's complement. -/
def readSigned (size : Nat) : Decode Int := do
  return Int.bmod (littleEndian (← take size)) (Nat.pow 0x100 size)

/-- The pattern of a four-byte floating-point number. -/
def readSingle : Decode Nat := do
  let bytes ← takeBytes 4
  if bytes.length = 4 then return littleEndian bytes
  throw .cutSingle

/-- Notes where an opcode begins. -/
def beginInstruction : Decode Int := do
  let cursor ← get
  set { cursor with instructionStart := cursor.position }
  return cursor.position

/-- The number of an opcode: one byte, or two if the first opens the two-byte page. -/
def readOpcodeId : Decode Nat := do
  let first ← readUnsigned 1
  if first = Opcode.pageByte.toNat then
    return 0x100 * first + (← readUnsigned 1)
  return first

/-- The next opcode. -/
def readOpcode : Decode Opcode := do
  let start ← beginInstruction
  let id ← readOpcodeId
  Opcode.lookup id (some start)

end Cursor

end CilTrace
