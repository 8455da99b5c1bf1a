import CilTrace.Text.Hex
import CilTrace.Text.LetterCase
import CilTrace.Text.Quoted

/-!
Opcodes and the shapes of their operands.

An opcode has a number, a mnemonic and the kind of the operand that follows it in a method body.
Numbers up to `0xFF` are encoded in one byte; larger ones in two, the high byte first.
-/

namespace CilTrace

/-- What a metadata token names. -/
inductive ReferenceKind where
  | method
  | field
  | type
  | string
  | member
  | signature
deriving DecidableEq, Repr

namespace ReferenceKind

def all : List ReferenceKind :=
  [method, field, type, string, member, signature]

def name : ReferenceKind → String
  | method => "method"
  | field => "field"
  | type => "type"
  | string => "string"
  | member => "member"
  | signature => "signature"

end ReferenceKind

/-- The shape of the bytes that follow an opcode. -/
inductive OperandKind where
  | none
  | int8
  | int16
  | int32
  | int64
  | float32
  | float64
  /-- A local or argument number in one byte. -/
  | index8
  /-- A local or argument number in two bytes. -/
  | index16
  | branch8
  | branch32
  /-- A count and that many displacements of four bytes each. -/
  | switch
  /-- A metadata token of four bytes. -/
  | reference (kind : ReferenceKind)
deriving DecidableEq, Repr

namespace OperandKind

def all : List OperandKind :=
  [none, int8, int16, int32, int64, float32, float64, index8, index16, branch8, branch32, switch] ++
    ReferenceKind.all.map reference

def name : OperandKind → String
  | none => "none"
  | int8 => "int8"
  | int16 => "int16"
  | int32 => "int32"
  | int64 => "int64"
  | float32 => "float32"
  | float64 => "float64"
  | index8 => "var8"
  | index16 => "var16"
  | branch8 => "branch8"
  | branch32 => "branch32"
  | switch => "switch"
  | reference kind => kind.name

end OperandKind

structure Opcode where
  id : Nat
  mnemonic : String
  operand : OperandKind
deriving DecidableEq, Repr

namespace Opcode

/-- The number of bytes of the opcode itself. -/
def size (opcode : Opcode) : Nat :=
  if 0xFF < opcode.id then 2 else 1

/-- The bytes of an opcode whose number has at most two bytes. -/
def encoding (opcode : Opcode) : List UInt8 :=
  if 0xFF < opcode.id then [UInt8.ofNat (opcode.id / 0x100), UInt8.ofNat (opcode.id % 0x100)]
  else [UInt8.ofNat opcode.id]

/-- A one-line description for diagnostics. -/
def summary (opcode : Opcode) : String :=
  "OpcodeInfo($" ++ Hex.padded 2 opcode.id ++ ", " ++ Text.quoted opcode.mnemonic ++ ", " ++
    opcode.operand.name ++ ")"

/-! ## Tables -/

/-- The first definition of a number in a list of opcodes. -/
def findIn (opcodes : List Opcode) (id : Nat) : Option Opcode :=
  opcodes.find? fun opcode => opcode.id == id

/-- The first opcode of a mnemonic that is given in any letter case. -/
def findMnemonicIn (opcodes : List Opcode) (mnemonic : String) : Option Opcode :=
  opcodes.find? fun opcode => opcode.mnemonic == Text.lower mnemonic

end Opcode

/-- An opcode as it is entered into a table, with any number. -/
structure OpcodeDefinition where
  id : Int
  mnemonic : String
  operand : OperandKind
deriving DecidableEq, Repr

/-- Why definitions do not make a table. -/
inductive OpcodeTableError where
  /-- The number of a definition is taken by an earlier one. -/
  | duplicate (definition : OpcodeDefinition)
  /-- A number is negative or has more than two bytes. -/
  | notEncodable
deriving DecidableEq, Repr

namespace OpcodeTableError

def message : OpcodeTableError → String
  | duplicate definition =>
      "duplicate opcode id 0x" ++ Hex.signed 2 definition.id ++ " (" ++ definition.mnemonic ++ ")"
  | notEncodable => "bytes must be in range(0, 256)"

end OpcodeTableError

namespace OpcodeDefinition

/-- The opcode of a definition whose number has at most two bytes. -/
def toOpcode? (definition : OpcodeDefinition) : Option Opcode :=
  if 0 ≤ definition.id ∧ definition.id ≤ 0xFFFF then
    some ⟨definition.id.toNat, definition.mnemonic, definition.operand⟩
  else none

/-- The first definition of a list whose number an earlier one, or one of `taken`, has. -/
def firstDuplicate : List OpcodeDefinition → List Int → Option OpcodeDefinition
  | [], _ => none
  | definition :: rest, taken =>
      if taken.contains definition.id then some definition
      else firstDuplicate rest (definition.id :: taken)

/-- The table of definitions, in their order. Numbers that are taken are found before numbers that
cannot be encoded. -/
def table (definitions : List OpcodeDefinition) : Except OpcodeTableError (List Opcode) :=
  match firstDuplicate definitions [] with
  | some definition => .error (.duplicate definition)
  | none =>
      match definitions.mapM toOpcode? with
      | some opcodes => .ok opcodes
      | none => .error .notEncodable

end OpcodeDefinition

end CilTrace
