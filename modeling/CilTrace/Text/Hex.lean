/-!
Hexadecimal text.

A number is written in upper-case digits and filled with zeros up to a least width; a byte is
always a pair of digits. Offsets, opcode ids, tokens and raw bytes are all written this way.
-/

namespace CilTrace.Hex

/-- The upper-case digits of a number, most significant first. -/
def digits (number : Nat) : List Char :=
  (Nat.toDigits 16 number).map Char.toUpper

/-- A number filled with zeros on the left up to `width` digits. -/
def padded (width number : Nat) : String :=
  String.ofList ((digits number).leftpad width '0')

/-- A signed number; the sign takes one place of the width. -/
def signed (width : Nat) : Int → String
  | .ofNat number => padded width number
  | .negSucc below => "-" ++ padded (width - 1) (below + 1)

/-- One byte as two upper-case digits. -/
def byte (value : UInt8) : String :=
  padded 2 value.toNat

/-- Bytes as consecutive pairs of digits. -/
def pairs (bytes : List UInt8) : String :=
  String.join (bytes.map byte)

/-- A number in lower-case digits, filled with zeros up to `width`, as escapes show it. -/
def lower (width number : Nat) : String :=
  String.ofList ((Nat.toDigits 16 number).leftpad width '0')

/-- The value of a hexadecimal digit of either case. -/
def digitValue? (char : Char) : Option Nat :=
  if '0' ≤ char ∧ char ≤ '9' then some (char.toNat - '0'.toNat)
  else if 'a' ≤ char ∧ char ≤ 'f' then some (char.toNat - 'a'.toNat + 10)
  else if 'A' ≤ char ∧ char ≤ 'F' then some (char.toNat - 'A'.toNat + 10)
  else none

end CilTrace.Hex
