import Mathlib.Data.List.Forall2
import CilTrace.Proofs.Disassembly
import CilTrace.Proofs.OperandTexts

/-!
Bodies one behind the other.

Behind a body that disassembles, bytes are read as they are read alone, but further on: offsets,
branch targets and places of errors move by the length of the first body, and nothing else changes.
-/

namespace CilTrace

/-- A record and the one of the same bytes a distance further on. -/
structure Relocated (distance : Nat) (record moved : Instruction) : Prop where
  offset : moved.offset = record.offset + distance
  opcode : moved.opcode = record.opcode
  bytes : moved.bytes = record.bytes
  kept : record.opcode.operand ∉ [.branch8, .branch32, .switch] →
    moved.operand.text = record.operand.text
  branch : record.opcode.operand ∈ [.branch8, .branch32] → ∃ value < 0x100000000,
    record.operand.text = Operand.targetText value ∧
      moved.operand.text = Operand.targetText (Operand.wrap (value + distance))
  table : record.opcode.operand = .switch → ∃ values : List Nat,
    (∀ value ∈ values, value < 0x100000000) ∧
      record.operand.text = Operand.tableText values ∧
      moved.operand.text =
        Operand.tableText (values.map fun value : Nat => Operand.wrap (value + distance))

namespace DecodeError

/-- An error and the same one a distance further on in a body that is longer by as much. -/
inductive Relocated (distance : Nat) : DecodeError → DecodeError → Prop where
  | unknownOpcode (id position : Int) :
      Relocated distance (.unknownOpcode id (some position))
        (.unknownOpcode id (some (position + distance)))
  | outOfBounds (needed position length : Int) :
      Relocated distance (.outOfBounds needed position length)
        (.outOfBounds needed (position + distance) (length + distance))
  /-- A failure of the host has no place. -/
  | host (failure : HostFailure) : Relocated distance (.host failure) (.host failure)

end DecodeError

/-! ## Instructions -/

namespace Operand

variable (stop : Int) (distance : Nat) (bytes : List UInt8) (resolution : Resolution)

theorem ofBytes_of_not_jump {kind : OperandKind} (plain : kind ∉ [.branch8, .branch32, .switch])
    (other : Int) : ofBytes other bytes resolution kind = ofBytes stop bytes resolution kind := by
  cases kind with
  | branch8 | branch32 | switch => exact absurd plain (by decide)
  | _ => rfl

theorem relocated_branch {kind : OperandKind} (jumps : kind ∈ [.branch8, .branch32]) :
    ∃ value < 0x100000000, (ofBytes stop bytes resolution kind).text = targetText value ∧
      (ofBytes (stop + distance) bytes resolution kind).text =
        targetText (wrap (value + distance)) := by
  refine ⟨wrap (Cursor.signedValue bytes + stop), wrap_lt _, ?_, ?_⟩
  · exact text_ofBytes_branch stop bytes resolution jumps
  · rw [text_ofBytes_branch _ bytes resolution jumps, wrap_wrap_add, Int.add_assoc]

theorem relocated_switch :
    ∃ values : List Nat, (∀ value ∈ values, value < 0x100000000) ∧
      (ofBytes stop bytes resolution .switch).text = tableText values ∧
      (ofBytes (stop + distance) bytes resolution .switch).text =
        tableText (values.map fun value : Nat => wrap (value + distance)) := by
  refine ⟨_, ?_, text_ofBytes_switch stop bytes resolution, ?_⟩
  · intro value member
    rcases List.mem_map.mp member with ⟨displacement, _, rfl⟩
    exact wrap_lt _
  · rw [text_ofBytes_switch, List.map_map]
    simp [Function.comp_def, wrap_wrap_add, Int.add_assoc]

end Operand

namespace Code

theorem relocated (resolver : Option Resolver) (distance offset : Nat) (code : Code) :
    Relocated distance (code.instructionAt resolver offset)
      (code.instructionAt resolver (offset + distance)) := by
  have stop : ((offset + distance + code.bytes.length : Nat) : Int) =
      (offset + code.bytes.length : Nat) + distance := by
    omega
  unfold instructionAt
  rw [stop]
  constructor
  case offset => rfl
  case opcode => rfl
  case bytes => rfl
  case kept =>
    intro plain
    exact congrArg Operand.text (Operand.ofBytes_of_not_jump _ _ _ plain _)
  case branch => exact Operand.relocated_branch _ distance code.operand _
  case table =>
    intro jumps
    dsimp only at jumps ⊢
    rw [jumps]
    exact Operand.relocated_switch _ distance code.operand _

theorem instructionsFrom_relocated (resolver : Option Resolver) (distance offset : Nat)
    (codes : List Code) :
    List.Forall₂ (Relocated distance) (instructionsFrom resolver offset codes)
      (instructionsFrom resolver (offset + distance) codes) := by
  induction codes generalizing offset with
  | nil => exact .nil
  | cons code codes induction =>
      have later := induction (offset + code.bytes.length)
      rw [Nat.add_right_comm] at later
      exact .cons (code.relocated resolver distance offset) later

end Code

/-! ## Errors -/

namespace Stops

theorem relocated {offset length : Nat} {rest : List UInt8} {known : Option Opcode}
    {error : DecodeError} (stops : Stops offset length rest known error) (distance : Nat) :
    ∃ moved, error.Relocated distance moved ∧
      Stops (offset + distance) (length + distance) rest known moved := by
  cases stops with
  | unknownByte byte rest single unknown =>
      exact ⟨_, .unknownOpcode _ _, .unknownByte byte rest single unknown⟩
  | unknownOnPage byte rest unknown =>
      exact ⟨_, .unknownOpcode _ _, .unknownOnPage byte rest unknown⟩
  | cutPage => exact ⟨_, .outOfBounds _ _ _, .cutPage⟩
  | cutOperand opcode width rest listed fixed short =>
      refine ⟨_, .outOfBounds _ _ _, ?_⟩
      have place : ((offset + opcode.size : Nat) : Int) + distance =
          (offset + distance + opcode.size : Nat) := by
        omega
      rw [place]
      exact .cutOperand opcode width rest listed fixed short
  | cutCount opcode rest listed table short =>
      refine ⟨_, .outOfBounds _ _ _, ?_⟩
      have place : ((offset + 1 : Nat) : Int) + distance = (offset + distance + 1 : Nat) := by
        omega
      rw [place]
      exact .cutCount opcode rest listed table short
  | cutTable opcode count entries listed table counted short =>
      refine ⟨_, .outOfBounds _ _ _, ?_⟩
      have left : length + distance - (offset + distance) - 5 = length - offset - 5 := by
        omega
      have place : ((offset + 5 + 4 * ((length - offset - 5) / 4) : Nat) : Int) + distance =
          (offset + distance + 5 +
            4 * ((length + distance - (offset + distance) - 5) / 4) : Nat) := by
        rw [left]
        omega
      rw [place]
      exact .cutTable opcode count entries listed table counted short

end Stops

theorem Halts.relocated {resolver : Option Resolver} {offset length : Nat} {rest : List UInt8}
    {known : Option Opcode} {error : DecodeError}
    (halts : Halts resolver offset length rest known error) (distance : Nat) :
    ∃ moved, error.Relocated distance moved ∧
      Halts resolver (offset + distance) (length + distance) rest known moved := by
  cases halts with
  | stops stops =>
      rcases stops.relocated distance with ⟨moved, relocated, stops⟩
      exact ⟨moved, relocated, .stops stops⟩
  | untold code behind failure asked =>
      exact ⟨_, .host failure, .untold code behind failure asked⟩

/-! ## Bodies -/

namespace Method

section Behind

variable (method : Method) {front back : Array UInt8} {codes : List Code}
  (first : front.toList = Code.joined codes)
  (readable : ∀ code ∈ codes, code.IsReadable method.resolver)
include first readable

theorem disassemble_behind_codes {others : List Instruction}
    (ok : ({ method with body := some back } : Method).disassemble = .ok others) :
    ∃ moved, ({ method with body := some (front ++ back) } : Method).disassemble =
        .ok (Code.instructionsFrom method.resolver 0 codes ++ moved) ∧
      List.Forall₂ (Relocated front.size) others moved := by
  let whole : Method := { method with body := some (front ++ back) }
  rcases codes_of_disassemble_ok rfl ok with ⟨behind, cut, behindReadable, rfl⟩
  have both : (front ++ back).toList = Code.joined (codes ++ behind) := by
    rw [Array.toList_append, first, cut, Code.joined_append]
  have size : front.size = (Code.joined codes).length := by
    rw [← first, Array.length_toList]
  have allReadable : ∀ code ∈ codes ++ behind, code.IsReadable whole.resolver :=
    List.forall_mem_append.mpr ⟨readable, behindReadable⟩
  refine ⟨_, ?_, Code.instructionsFrom_relocated method.resolver front.size 0 behind⟩
  rw [disassemble_codes rfl both allReadable, Code.instructionsFrom_append, size]

theorem disassemble_error_behind_codes {error : DecodeError}
    (failed : ({ method with body := some back } : Method).disassemble = .error error) :
    ∃ moved, ({ method with body := some (front ++ back) } : Method).disassemble =
        .error moved ∧
      error.Relocated front.size moved := by
  let whole : Method := { method with body := some (front ++ back) }
  rcases codes_of_disassemble_error rfl failed with
    ⟨behind, rest, known, cut, behindReadable, halts⟩
  have both : (front ++ back).toList = Code.joined (codes ++ behind) ++ rest := by
    rw [Array.toList_append, first, cut, Code.joined_append, List.append_assoc]
  have size : front.size = (Code.joined codes).length := by
    rw [← first, Array.length_toList]
  have allReadable : ∀ code ∈ codes ++ behind, code.IsReadable whole.resolver :=
    List.forall_mem_append.mpr ⟨readable, behindReadable⟩
  rcases halts.relocated front.size with ⟨moved, relocated, halts⟩
  have offset : (Code.joined behind).length + front.size =
      (Code.joined (codes ++ behind)).length := by
    rw [Code.joined_append, List.length_append, ← size, Nat.add_comm]
  have length : back.size + front.size = (front ++ back).size := by
    rw [Array.size_append, Nat.add_comm]
  rw [offset, length] at halts
  exact ⟨moved, disassemble_halts rfl both allReadable halts, relocated⟩

end Behind

/--
Behind a body that disassembles, other bytes give the records or the error that they give alone,
moved by the length of that body.
-/
theorem disassemble_concatenation (method : Method) (front back : Array UInt8)
    (records : List Instruction)
    (ok : ({ method with body := some front } : Method).disassemble = .ok records) :
    (∀ others, ({ method with body := some back } : Method).disassemble = .ok others →
      ∃ moved, ({ method with body := some (front ++ back) } : Method).disassemble =
          .ok (records ++ moved) ∧
        List.Forall₂ (Relocated front.size) others moved) ∧
    ∀ error, ({ method with body := some back } : Method).disassemble = .error error →
      ∃ moved, ({ method with body := some (front ++ back) } : Method).disassemble =
          .error moved ∧
        error.Relocated front.size moved := by
  rcases codes_of_disassemble_ok rfl ok with ⟨codes, first, readable, rfl⟩
  constructor
  · intro others alone
    exact disassemble_behind_codes method first readable alone
  · intro error failed
    exact disassemble_error_behind_codes method first readable failed

/-- A branch to before the start of its body, and an opcode that is cut, both behind a branch. -/
theorem disassemble_concatenation_behind_branch :
    ({ body := some #[0x2B, 0xFE] } : Method).disassemble =
        .ok [⟨0, ⟨0x2B, "br.s", .branch8⟩, .target 0, [0x2B, 0xFE]⟩] ∧
      (∃ moved, ({ body := some (#[0x2B, 0xFE] ++ #[0x2B, 0xFC]) } : Method).disassemble =
          .ok ([⟨0, ⟨0x2B, "br.s", .branch8⟩, .target 0, [0x2B, 0xFE]⟩] ++ moved) ∧
        List.Forall₂ (Relocated 2)
          [⟨0, ⟨0x2B, "br.s", .branch8⟩, .target 0xFFFFFFFE, [0x2B, 0xFC]⟩] moved) ∧
      ∃ moved, ({ body := some (#[0x2B, 0xFE] ++ #[0x00, 0xFE]) } : Method).disassemble =
          .error moved ∧
        DecodeError.Relocated 2 (.outOfBounds 1 2 2) moved := by
  have first : ({ body := some #[0x2B, 0xFE] } : Method).disassemble =
      .ok [⟨0, ⟨0x2B, "br.s", .branch8⟩, .target 0, [0x2B, 0xFE]⟩] := by
    decide +kernel
  have behind := disassemble_concatenation { body := none } #[0x2B, 0xFE] #[0x2B, 0xFC] _ first
  have cut := disassemble_concatenation { body := none } #[0x2B, 0xFE] #[0x00, 0xFE] _ first
  refine ⟨first, behind.1 _ ?_, cut.2 _ ?_⟩
  · decide +kernel
  · decide +kernel

end Method

end CilTrace
