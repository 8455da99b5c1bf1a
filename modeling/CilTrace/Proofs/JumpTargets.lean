import CilTrace.Proofs.InstructionWrites
import CilTrace.Proofs.NumberSpellings
import CilTrace.Proofs.OperandTexts
import CilTrace.Proofs.Snippets

/-!
Where jumps lead.

A displacement counts from the end of its instruction. Jumps show the place it leads to as a 32-bit
number in hexadecimal digits; the entries of a jump table all count from the end of the table. Where
an instruction stands in a body, it is written alone as it is written in the listing.
-/

namespace CilTrace

open Cursor

/-! ## Places -/

namespace Operand

/-- A numeral of the 32-bit number of a place, which is the place itself if it has 32 bits. -/
def LeadsTo (text : String) (place : Int) : Prop :=
  ∃ number : Nat, Hex.IsNumeral text number ∧ (number : Int) = place % 0x100000000 ∧
    (0 ≤ place → place < 0x100000000 → (number : Int) = place)

theorem leadsTo_wrap (place : Int) : LeadsTo (targetText (wrap place)) place := by
  refine ⟨wrap place, Hex.isNumeral_padded _, natCast_wrap place, ?_⟩
  intro lower upper
  rw [natCast_wrap, Int.emod_eq_of_lt lower upper]

theorem getElem?_displacements {count : Nat} {entries : List UInt8}
    (filled : entries.length = 4 * count) {index : Nat} (inside : index < count) :
    (displacements entries)[index]? =
      some (signedValue ((entries.drop (4 * index)).take 4)) := by
  induction count generalizing entries index with
  | zero => exact absurd inside (Nat.not_lt_zero _)
  | succ count induction =>
      rcases exists_front (by omega : 4 ≤ entries.length) with ⟨entry, others, rfl, whole⟩
      rw [List.length_append] at filled
      rw [displacements_append whole]
      cases index with
      | zero => simp [List.take_left' whole]
      | succ index =>
          have later := induction (by omega : others.length = 4 * count)
            (Nat.lt_of_succ_lt_succ inside)
          have skip : 4 * (index + 1) = entry.length + 4 * index := by omega
          rw [List.getElem?_cons_succ, later, skip, List.drop_length_add_append]

end Operand

/-! ## Records among others -/

namespace Code

theorem exists_of_mem_instructionsFrom {resolver : Option Resolver} {offset : Nat}
    {codes : List Code} {record : Instruction}
    (member : record ∈ instructionsFrom resolver offset codes) :
    ∃ before code behind, codes = before ++ code :: behind ∧
      record = code.instructionAt resolver (offset + (joined before).length) := by
  induction codes generalizing offset with
  | nil => cases member
  | cons first codes induction =>
      rcases List.mem_cons.mp member with rfl | member
      · exact ⟨[], first, codes, rfl, rfl⟩
      · rcases induction member with ⟨before, code, behind, rfl, rfl⟩
        exact ⟨first :: before, code, behind, rfl, by simp [Nat.add_assoc]⟩

end Code

namespace Instruction

/-- The bytes behind the opcode. -/
def operandBytes (record : Instruction) : List UInt8 :=
  record.bytes.drop record.opcode.size

/-- The bytes of an entry of a jump table. -/
def entryBytes (record : Instruction) (index : Nat) : List UInt8 :=
  (record.operandBytes.drop (4 + 4 * index)).take 4

/-- The place behind the last byte. -/
def stop (record : Instruction) : Int :=
  record.offset + record.size

/-- Jumps that show the places to which their displacements lead from the end. -/
structure ShowsTargets (record : Instruction) : Prop where
  branch8 : record.opcode.operand = .branch8 → record.operandBytes.length = 1
  branch32 : record.opcode.operand = .branch32 → record.operandBytes.length = 4
  branch : record.opcode.operand ∈ [.branch8, .branch32] →
    Operand.LeadsTo record.operand.text (record.stop + signedValue record.operandBytes)
  table : record.opcode.operand = .switch → ∃ texts : List String,
    texts.length = littleEndian (record.operandBytes.take 4) ∧
      record.size = 5 + 4 * texts.length ∧
      record.operand.text = "(" ++ String.intercalate "," texts ++ ")" ∧
      ∀ index (inside : index < texts.length),
        Operand.LeadsTo texts[index] (record.stop + signedValue (record.entryBytes index))

end Instruction

namespace Code

variable (resolver : Option Resolver) (offset : Nat) (code : Code)

theorem operandBytes_instructionAt :
    (code.instructionAt resolver offset).operandBytes = code.operand := by
  rw [Instruction.operandBytes, bytes_instructionAt, opcode_instructionAt, bytes,
    List.drop_left' code.opcode.length_encoding]

theorem stop_instructionAt :
    (code.instructionAt resolver offset).stop = (offset + code.bytes.length : Nat) := by
  simp [Instruction.stop, Instruction.size]

theorem length_operand {width : Nat} (fixed : code.opcode.operand.width? = some width) :
    (code.instructionAt resolver offset).operandBytes.length = width := by
  rw [operandBytes_instructionAt]
  exact (OperandKind.fits_of_width fixed _).mp code.fits

theorem leadsTo_branch (jumps : code.opcode.operand ∈ [.branch8, .branch32]) :
    Operand.LeadsTo (code.instructionAt resolver offset).operand.text
      ((code.instructionAt resolver offset).stop +
        signedValue (code.instructionAt resolver offset).operandBytes) := by
  have shown := Operand.text_ofBytes_branch (offset + code.bytes.length : Nat) code.operand
    (code.resolution resolver) jumps
  rw [operandBytes_instructionAt, stop_instructionAt, Int.add_comm]
  exact shown ▸ Operand.leadsTo_wrap _

section Table

variable (jumps : code.opcode.operand = .switch)

include jumps

theorem length_entries :
    (code.operand.drop 4).length = 4 * littleEndian (code.operand.take 4) := by
  have fits := code.fits
  rw [jumps, OperandKind.fits_switch] at fits
  rw [List.length_drop]
  omega

theorem length_bytes_switch :
    code.bytes.length = 5 + 4 * littleEndian (code.operand.take 4) := by
  have fits := code.fits
  rw [jumps, OperandKind.fits_switch] at fits
  rw [bytes, List.length_append, Opcode.length_encoding,
    Opcode.size_of_switch _ code.listed jumps]
  omega

theorem leadsTo_table : ∃ texts : List String,
    texts.length = littleEndian (code.operand.take 4) ∧
      (code.instructionAt resolver offset).operand.text =
        "(" ++ String.intercalate "," texts ++ ")" ∧
      ∀ index (inside : index < texts.length),
        Operand.LeadsTo texts[index] ((code.instructionAt resolver offset).stop +
          signedValue ((code.instructionAt resolver offset).entryBytes index)) := by
  have filled := code.length_entries jumps
  have shown := Operand.text_ofBytes_switch (offset + code.bytes.length : Nat) code.operand
    (code.resolution resolver)
  rw [← jumps] at shown
  refine ⟨_, ?_, shown, ?_⟩
  · rw [List.length_map, List.length_map, Operand.length_displacements filled]
  · intro index inside
    rw [List.length_map, List.length_map, Operand.length_displacements filled] at inside
    have entry := Operand.getElem?_displacements filled inside
    rw [List.drop_drop] at entry
    rcases List.getElem_of_getElem? entry with ⟨bound, found⟩
    rw [stop_instructionAt, Instruction.entryBytes, operandBytes_instructionAt, Int.add_comm]
    simp only [List.getElem_map, found]
    exact Operand.leadsTo_wrap _

end Table

theorem showsTargets : (code.instructionAt resolver offset).ShowsTargets where
  branch8 kind := code.length_operand resolver offset (congrArg OperandKind.width? kind)
  branch32 kind := code.length_operand resolver offset (congrArg OperandKind.width? kind)
  branch jumps := code.leadsTo_branch resolver offset jumps
  table jumps := by
    rcases code.leadsTo_table resolver offset jumps with ⟨texts, count, shown, entries⟩
    refine ⟨texts, ?_, ?_, shown, entries⟩
    · rw [operandBytes_instructionAt, count]
    · rw [count]
      exact code.length_bytes_switch jumps

end Code

namespace Method

theorem textAt_of_cut {method : Method} {data : Array UInt8} (present : method.body = some data)
    {before : List Code} {code : Code} {behind : List Code}
    (cut : data.toList = Code.joined (before ++ code :: behind))
    (readable : code.IsReadable method.resolver) (withBytes : Bool) :
    Instruction.textAt method (Code.joined before).length withBytes =
      .ok ((code.instructionAt method.resolver (Code.joined before).length).text withBytes) := by
  rw [Code.joined_append, Code.joined_cons] at cut
  have opened := openAt_of_cut cut
  rw [← present] at opened
  rcases Instruction.append_code withBytes none readable (Code.joined before)
    (Code.joined behind) (Code.joined before).length (TextBuffer.ofString "") with
    ⟨written, run, shown⟩
  rw [Instruction.textAt, opened]
  simp [bind, Except.bind, run, shown, pure, Except.pure]

/--
Jumps show the places they lead to, counted from the end of the instruction and taken as 32-bit
numbers; a place of 32 bits is shown as it is. An instruction written alone at its offset has the
text that it has among the others.
-/
theorem jumps_show_targets (method : Method) (records : List Instruction)
    (ok : method.disassemble = .ok records) (record : Instruction) (member : record ∈ records) :
    record.ShowsTargets ∧
      ∀ withBytes, Instruction.textAt method record.offset withBytes =
        .ok (record.text withBytes) := by
  cases present : method.body with
  | none =>
      rw [disassemble_noBody present] at ok
      cases ok
  | some data =>
      rcases codes_of_disassemble_ok present ok with ⟨codes, cut, readable, rfl⟩
      rcases Code.exists_of_mem_instructionsFrom member with ⟨before, code, behind, rfl, rfl⟩
      rw [Nat.zero_add]
      exact ⟨code.showsTargets method.resolver _,
        textAt_of_cut present cut (readable code (by simp))⟩

/-- A branch to before the start of the body, behind a jump table of two entries. -/
theorem jumps_show_targets_behind_table :
    ({ body := some #[0x45, 2, 0, 0, 0, 0, 0, 0, 0, 5, 0, 0, 0, 0x2B, 0xEF] } :
        Method).disassemble =
        .ok [⟨0, ⟨0x45, "switch", .switch⟩, .targets [13, 18],
            [0x45, 2, 0, 0, 0, 0, 0, 0, 0, 5, 0, 0, 0]⟩,
          ⟨13, ⟨0x2B, "br.s", .branch8⟩, .target 0xFFFFFFFE, [0x2B, 0xEF]⟩] ∧
      Operand.LeadsTo (Operand.target 0xFFFFFFFE).text (-2) := by
  have ok : ({ body := some #[0x45, 2, 0, 0, 0, 0, 0, 0, 0, 5, 0, 0, 0, 0x2B, 0xEF] } :
      Method).disassemble =
        .ok [⟨0, ⟨0x45, "switch", .switch⟩, .targets [13, 18],
            [0x45, 2, 0, 0, 0, 0, 0, 0, 0, 5, 0, 0, 0]⟩,
          ⟨13, ⟨0x2B, "br.s", .branch8⟩, .target 0xFFFFFFFE, [0x2B, 0xEF]⟩] := by
    decide +kernel
  let branch : Instruction :=
    ⟨13, ⟨0x2B, "br.s", .branch8⟩, .target 0xFFFFFFFE, [0x2B, 0xEF]⟩
  have place : branch.stop + signedValue branch.operandBytes = -2 := by decide +kernel
  have shows := jumps_show_targets _ _ ok branch (by simp [branch])
  exact ⟨ok, place ▸ shows.1.branch (by decide)⟩

end Method

end CilTrace
