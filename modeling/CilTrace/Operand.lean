import CilTrace.Cursor
import CilTrace.Resolver

/-!
Operands and their texts.

A metadata token is four bytes that are read like any number. What it names is asked for right after
it has been read, and kept with it; a token that cannot be named is written as the name of its kind
in brackets.
-/

namespace CilTrace

inductive Operand where
  | none
  | int (value : Int)
  | single (pattern : Nat)
  | double (pattern : Nat)
  /-- A local or argument number of one byte. -/
  | index8 (number : Nat)
  /-- A local or argument number of two bytes. -/
  | index16 (number : Nat)
  /-- The offset that a branch goes to. -/
  | target (offset : Nat)
  /-- The offsets that a jump table goes to. -/
  | targets (offsets : List Nat)
  | token (kind : ReferenceKind) (number : Nat) (resolution : Resolution)
deriving DecidableEq, Repr

namespace Operand

/-- The place a displacement leads to, as a 32-bit number. -/
def wrap (place : Int) : Nat :=
  (place % 0x100000000).toNat

/-- An offset in at least four hexadecimal digits. -/
def targetText (offset : Nat) : String :=
  Hex.padded 4 offset

/-! ## Reading -/

/-- Reads as many displacements as are asked for, after those in `before` (last one first). -/
def readDisplacements : Nat → List Int → Decode (List Int)
  | 0, before => return before.reverse
  | count + 1, before => do
      let displacement ← Cursor.readSigned 4
      readDisplacements count (displacement :: before)

/-- Reads a displacement of `size` bytes; it counts from the end of the operand. -/
def readBranch (size : Nat) : Decode Operand := do
  let displacement ← Cursor.readSigned size
  return .target (wrap (displacement + (← get).position))

/-- Reads a jump table; all displacements count from the end of the table. -/
def readSwitch : Decode Operand := do
  let count ← Cursor.readUnsigned 4
  let displacements ← readDisplacements count []
  let base := (← get).position
  return .targets (displacements.map fun displacement => wrap (displacement + base))

/-- Reads a metadata token and asks what it names. -/
def readToken (resolver : Option Resolver) (kind : ReferenceKind) : Decode Operand := do
  let number ← Cursor.readUnsigned 4
  let resolution ← (Resolution.ask resolver kind number).mapError DecodeError.host
  return .token kind number resolution

/-- Reads the operand of an opcode. -/
def read (resolver : Option Resolver) : OperandKind → Decode Operand
  | .none => return .none
  | .int8 => return .int (← Cursor.readSigned 1)
  | .int16 => return .int (← Cursor.readSigned 2)
  | .int32 => return .int (← Cursor.readSigned 4)
  | .int64 => return .int (← Cursor.readSigned 8)
  | .float32 => return .single (← Cursor.readSingle)
  | .float64 => return .double (← Cursor.readUnsigned 8)
  | .index8 => return .index8 (← Cursor.readUnsigned 1)
  | .index16 => return .index16 (← Cursor.readUnsigned 2)
  | .branch8 => readBranch 1
  | .branch32 => readBranch 4
  | .switch => readSwitch
  | .reference kind => readToken resolver kind

/-! ## Writing -/

def text : Operand → String
  | none => ""
  | int value => Numeral.decimal value
  | single pattern => singleText pattern
  | double pattern => doubleText pattern
  | index8 number => "[" ++ number.repr ++ "]"
  | index16 number => number.repr
  | target offset => targetText offset
  | targets offsets => "(" ++ String.intercalate "," (offsets.map targetText) ++ ")"
  | token kind _ resolution => resolution.text kind

/-- What a log says about naming the token of an operand. -/
def note? : Operand → Option String
  | token kind number resolution => resolution.note? kind number
  | _ => .none

end Operand

end CilTrace
