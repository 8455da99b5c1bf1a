import CilTrace.HostFailure

/-!
Why decoding a method body stops.
-/

namespace CilTrace

inductive DecodeError where
  /-- The method has no body. -/
  | noBody
  /-- A call frame names a method of which nothing else is known. -/
  | noMethod (name : String)
  /-- Decoding was asked to start outside the body. -/
  | outside (offset : Int) (length : Nat)
  /-- A read needs more bytes than are left. -/
  | outOfBounds (needed position length : Int)
  /-- No opcode has the number that was read. -/
  | unknownOpcode (id : Int) (position : Option Int)
  /-- A fixed-size read before the start of the body cannot be served from its end. -/
  | beforeStart (size : Nat) (position : Int) (length : Nat)
  /-- A fixed-size read at a place that a machine word cannot hold. -/
  | beyondWord
  /-- A four-byte number was cut short at the end of the body. -/
  | cutSingle
  /-- A number of the listing or of a message is too long to be written. -/
  | unwritable
  /-- A failure of the host that nothing holds up. -/
  | host (failure : HostFailure)
deriving DecidableEq, Repr

namespace DecodeError

/-- The failure of a read that asks for `needed` bytes. -/
def short (needed position length : Int) : DecodeError :=
  if Numeral.isWritable needed && Numeral.isWritable (max (length - position) 0) then
    .outOfBounds needed position length
  else .unwritable

/-- The failure of a cursor that is to be opened outside a body. -/
def misplaced (offset : Int) (length : Nat) : DecodeError :=
  if Numeral.isWritable offset then .outside offset length else .unwritable

/-- The place that a message ends with. -/
def place : Option Int → String
  | none => ""
  | some position => " (at IL offset " ++ Hex.signed 4 position ++ ")"

/-- The text of an error; only that of a host may fail to be had. -/
def message : DecodeError → Except HostFailure String
  | noBody => .ok "cannot get IL bytes"
  | noMethod name => .ok ("no method body for " ++ name)
  | outside offset length =>
      .ok ("offset " ++ Numeral.decimal offset ++ " is outside the " ++ length.repr ++
        "-byte IL buffer" ++ place (some offset))
  | outOfBounds needed position length =>
      .ok ("need " ++ Numeral.decimal needed ++ " byte(s) but only " ++
        Numeral.decimal (max (length - position) 0) ++ " remain in " ++ Numeral.decimal length ++
        "-byte IL buffer" ++ place (some position))
  | unknownOpcode id position =>
      .ok ("unknown opcode 0x" ++ Hex.signed (if 0xFF < id then 4 else 2) id ++ place position)
  | beforeStart size position length =>
      .ok (if 0 < position + size then
        "not enough data to unpack " ++ size.repr ++ " bytes at offset " ++ Numeral.decimal position
      else
        "offset " ++ Numeral.decimal position ++ " out of range for " ++ length.repr ++
          "-byte buffer")
  | beyondWord => .ok "Python int too large to convert to C ssize_t"
  | cutSingle => .ok "unpack requires a buffer of 4 bytes"
  | unwritable => .ok NumeralError.tooLongToWrite.message
  | host failure => failure.text

/-- The name of an error in traces. -/
def typeName : DecodeError → String
  | noBody => "DecodeError"
  | noMethod _ => "DecodeError"
  | outside _ _ => "OutOfBoundsError"
  | outOfBounds _ _ _ => "OutOfBoundsError"
  | unknownOpcode _ _ => "UnknownOpcodeError"
  | beforeStart _ _ _ => "struct.error"
  | beyondWord => "OverflowError"
  | cutSingle => "struct.error"
  | unwritable => "ValueError"
  | host failure => failure.kind

/-- Whether an error says that the body cannot be decoded. -/
def isAboutBody : DecodeError → Bool
  | noBody => true
  | noMethod _ => true
  | outside _ _ => true
  | outOfBounds _ _ _ => true
  | unknownOpcode _ _ => true
  | _ => false

end DecodeError

end CilTrace
