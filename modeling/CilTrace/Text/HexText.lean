import CilTrace.Text.Blank
import CilTrace.Text.Hex

/-!
Bytes written as pairs of hexadecimal digits.

ASCII blanks may stand before, between and after pairs and never inside one. A text with any
character outside ASCII is refused at the first such character; any other text at the first
character that breaks the rule, or at its end when the last pair is cut.
-/

namespace CilTrace

/-- Where a text of digit pairs goes wrong, counted in characters. -/
structure HexTextError where
  position : Nat
deriving DecidableEq, Repr

namespace HexTextError

def message (error : HexTextError) : String :=
  "non-hexadecimal number found in fromhex() arg at position " ++ error.position.repr

end HexTextError

namespace HexText

/-- Reads the pairs of a text whose first character stands at `position`. -/
def readPairs (position : Nat) : List Char → Except HexTextError (List UInt8)
  | [] => .ok []
  | char :: rest =>
      if Text.isAsciiBlank char then readPairs (position + 1) rest
      else match Hex.digitValue? char with
        | none => .error ⟨position⟩
        | some high =>
            match rest with
            | [] => .error ⟨position + 1⟩
            | second :: rest =>
                match Hex.digitValue? second with
                | none => .error ⟨position + 1⟩
                | some low =>
                    match readPairs (position + 2) rest with
                    | .error error => .error error
                    | .ok bytes => .ok (UInt8.ofNat (16 * high + low) :: bytes)

/-- The bytes that a text of digit pairs stands for. -/
def read (chars : List Char) : Except HexTextError (List UInt8) :=
  match chars.findIdx? fun char => 0x80 ≤ char.toNat with
  | some position => .error ⟨position⟩
  | none => readPairs 0 chars

example : read " 0a\tFF ".toList = .ok [0x0A, 0xFF] := by cbv
example : read "0".toList = .error ⟨1⟩ := by cbv

end HexText

end CilTrace
