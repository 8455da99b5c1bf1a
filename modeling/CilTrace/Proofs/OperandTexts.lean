import CilTrace.Proofs.InstructionReads
import CilTrace.Proofs.NumberTexts

/-!
The texts of operands.

A jump is shown by its target, a number of 32 bits. Where an operand is neither a token nor a
floating-point number its text is a word, and says its bytes once the kind and the place of the
operand are known.
-/

namespace CilTrace

namespace OperandKind

end OperandKind

/-! ## Numbers of some bytes -/

namespace Cursor

theorem littleEndian_lt (bytes : List UInt8) :
    littleEndian bytes < Nat.pow 0x100 bytes.length := by
  induction bytes with
  | nil => decide
  | cons byte bytes induction =>
      have bound := byte.toNat_lt
      have power : Nat.pow 0x100 (bytes.length + 1) = Nat.pow 0x100 bytes.length * 0x100 := rfl
      have value : littleEndian (byte :: bytes) = byte.toNat + 0x100 * littleEndian bytes := rfl
      rw [List.length_cons, power, value]
      omega

theorem littleEndian_injective {left right : List UInt8} (sameLength : left.length = right.length)
    (same : littleEndian left = littleEndian right) : left = right := by
  induction left generalizing right with
  | nil => exact (List.length_eq_zero_iff.mp sameLength.symm).symm
  | cons byte left induction =>
      cases right with
      | nil => cases sameLength
      | cons other right =>
          have bound := byte.toNat_lt
          have otherBound := other.toNat_lt
          have sum : byte.toNat + 0x100 * littleEndian left =
              other.toNat + 0x100 * littleEndian right := same
          have first : byte = other := UInt8.toNat_inj.mp (by omega)
          have rest : left = right := induction (Nat.succ.inj sameLength) (by omega)
          rw [first, rest]

end Cursor

/-! ## Targets -/

namespace Operand

theorem wrap_lt (place : Int) : wrap place < 0x100000000 := by
  have lower := Int.emod_nonneg place (by decide : (0x100000000 : Int) ≠ 0)
  have upper := Int.emod_lt_of_pos place (by decide : (0 : Int) < 0x100000000)
  unfold wrap
  omega

theorem natCast_wrap (place : Int) : (wrap place : Int) = place % 0x100000000 :=
  Int.toNat_of_nonneg (Int.emod_nonneg place (by decide))

/-- Moving a target that was wrapped is moving it before it is wrapped. -/
theorem wrap_wrap_add (place : Int) (distance : Nat) :
    wrap (wrap place + distance) = wrap (place + distance) := by
  rw [natCast_wrap, wrap, Int.emod_add_emod]
  rfl

/-- The text of a jump table. -/
def tableText (offsets : List Nat) : String :=
  "(" ++ String.intercalate "," (offsets.map targetText) ++ ")"

section Texts

variable (stop : Int) (bytes : List UInt8) (resolution : Resolution)

theorem text_ofBytes_branch {kind : OperandKind} (jumps : kind ∈ [.branch8, .branch32]) :
    (ofBytes stop bytes resolution kind).text =
      targetText (wrap (Cursor.signedValue bytes + stop)) := by
  cases kind with
  | branch8 | branch32 => rfl
  | _ => simp at jumps

theorem text_ofBytes_switch :
    (ofBytes stop bytes resolution .switch).text =
      tableText ((displacements (bytes.drop 4)).map fun displacement =>
        wrap (displacement + stop)) := rfl

end Texts

/-! ## Tables -/

theorem length_displacements {count : Nat} {entries : List UInt8}
    (filled : entries.length = 4 * count) : (displacements entries).length = count := by
  induction count generalizing entries with
  | zero =>
      have none : entries = [] := List.length_eq_zero_iff.mp (by omega)
      subst none
      rfl
  | succ count induction =>
      rcases exists_front (by omega : 4 ≤ entries.length) with ⟨entry, others, rfl, whole⟩
      rw [List.length_append] at filled
      rw [displacements_append whole, List.length_cons, induction (by omega)]

section Plain

variable {kind : OperandKind} {resolution otherResolution : Resolution}

end Plain

end Operand

end CilTrace
