import CilTrace.Proofs.InstructionReads

/-!
Disassembling a whole body.

The body is cut into instructions from the front for as long as one begins there that can be read.
If nothing is left, these are the records; otherwise disassembly ends with the error that the
grammar gives for what is left, or with the failure to tell why a token has no name. Both runs of
the loop go by induction over the instructions before the end.
-/

namespace CilTrace

open Cursor

/-! ## Cutting a body into instructions -/

namespace Code

theorem exists_joined (resolver : Option Resolver) (body : List UInt8) :
    ∃ codes rest, body = joined codes ++ rest ∧ (∀ code ∈ codes, code.IsReadable resolver) ∧
      (rest = [] ∨ ∃ known error, Halts resolver 0 0 rest known error) := by
  by_cases empty : body = []
  · exact ⟨[], [], by simp [empty], by simp, .inl rfl⟩
  · rcases readable_or_halts resolver 0 0 empty with ⟨code, behind, readable, begins⟩ | halts
    · rcases exists_joined resolver behind with ⟨codes, rest, split, others, ending⟩
      exact ⟨code :: codes, rest, by simp [begins, split],
        List.forall_mem_cons.mpr ⟨readable, others⟩, ending⟩
    · exact ⟨[], body, rfl, by simp, .inr halts⟩
termination_by body.length
decreasing_by
  have positive := code.length_bytes_pos
  rw [begins, List.length_append]
  omega

end Code

/-! ## The loop -/

namespace Method

section Loop

variable {resolver : Option Resolver} {codes : List Code}
  (readable : ∀ code ∈ codes, code.IsReadable resolver)
include readable

theorem readAll_codes {limit : Nat} (enough : codes.length ≤ limit) (read : List Instruction)
    (before : List UInt8) (start : Int) :
    (readAll resolver limit read (between before (Code.joined codes) start)).1 =
      .ok (read.reverse ++ Code.instructionsFrom resolver before.length codes) := by
  induction codes generalizing limit read before start with
  | nil =>
      cases limit with
      | zero => simp [readAll, Code.instructionsFrom]
      | succ limit =>
          rw [readAll, Code.joined_nil, bind_of_ok (Instruction.read_end resolver before start)]
          simp [Code.instructionsFrom]
  | cons code codes induction =>
      have parts := List.forall_mem_cons.mp readable
      cases limit with
      | zero => exact absurd enough (Nat.not_succ_le_zero _)
      | succ limit =>
          have fewer : codes.length ≤ limit := Nat.le_of_succ_le_succ enough
          rw [readAll, Code.joined_cons, bind_of_ok (Instruction.read_code parts.1 before _ start)]
          dsimp only
          rw [induction parts.2 fewer]
          simp [Code.instructionsFrom]

theorem readAll_halts {limit : Nat} (more : codes.length < limit) {rest : List UInt8}
    {known : Option Opcode} {error : DecodeError} (read : List Instruction)
    (before : List UInt8) (start : Int)
    (halts : Halts resolver (before ++ Code.joined codes).length
      ((before ++ Code.joined codes).length + rest.length) rest known error) :
    (readAll resolver limit read (between before (Code.joined codes ++ rest) start)).1 =
      .error error := by
  induction codes generalizing limit read before start with
  | nil =>
      cases limit with
      | zero => exact absurd more (Nat.not_lt_zero _)
      | succ limit =>
          rw [Code.joined_nil, List.append_nil] at halts
          rcases Instruction.read_halts before start halts with ⟨cursor, stopped⟩
          rw [readAll, Code.joined_nil, List.nil_append, bind_of_error stopped]
  | cons code codes induction =>
      have parts := List.forall_mem_cons.mp readable
      cases limit with
      | zero => exact absurd more (Nat.not_lt_zero _)
      | succ limit =>
          rw [Code.joined_cons, ← List.append_assoc] at halts
          rw [readAll, Code.joined_cons, List.append_assoc,
            bind_of_ok (Instruction.read_code parts.1 before _ start)]
          exact induction parts.2 (Nat.lt_of_succ_lt_succ more) _ _ _ halts

end Loop

theorem disassemble_noBody {method : Method} (absent : method.body = none) :
    method.disassemble = .error .noBody := by
  rw [disassemble, absent]
  rfl

section Body

variable {method : Method} {data : Array UInt8}

theorem size_of_cut {front rest : List UInt8} (cut : data.toList = front ++ rest) :
    data.size = front.length + rest.length := by
  rw [← Array.length_toList, cut, List.length_append]

theorem disassemble_of_body (present : method.body = some data) :
    method.disassemble =
      (readAll method.resolver data.size [] (between [] data.toList 0)).1 := by
  rw [disassemble, present, openAt_zero]
  change (readAll method.resolver (between [] data.toList 0).length []
    (between [] data.toList 0)).1 = _
  simp

theorem disassemble_codes (present : method.body = some data) {codes : List Code}
    (cut : data.toList = Code.joined codes)
    (readable : ∀ code ∈ codes, code.IsReadable method.resolver) :
    method.disassemble = .ok (Code.instructionsFrom method.resolver 0 codes) := by
  have enough : codes.length ≤ data.size := by
    rw [← Array.length_toList, cut]
    exact Code.length_le_length_joined codes
  rw [disassemble_of_body present, cut]
  exact readAll_codes readable enough [] [] 0

theorem disassemble_halts (present : method.body = some data) {codes : List Code}
    {rest : List UInt8} (cut : data.toList = Code.joined codes ++ rest)
    (readable : ∀ code ∈ codes, code.IsReadable method.resolver) {known : Option Opcode}
    {error : DecodeError}
    (halts : Halts method.resolver (Code.joined codes).length data.size rest known error) :
    method.disassemble = .error error := by
  have more : codes.length < data.size := by
    rw [← Array.length_toList, cut]
    exact Code.length_lt_length_joined_append codes halts.ne_nil
  rw [size_of_cut cut] at halts
  rw [disassemble_of_body present, cut]
  exact readAll_halts readable more [] [] 0 halts

/-- The two ways in which disassembly ends. -/
theorem disassemble_cases (present : method.body = some data) :
    (∃ codes, data.toList = Code.joined codes ∧
      (∀ code ∈ codes, code.IsReadable method.resolver) ∧
      method.disassemble = .ok (Code.instructionsFrom method.resolver 0 codes)) ∨
    ∃ codes rest known error, data.toList = Code.joined codes ++ rest ∧
      (∀ code ∈ codes, code.IsReadable method.resolver) ∧
      Halts method.resolver (Code.joined codes).length data.size rest known error ∧
      method.disassemble = .error error := by
  rcases Code.exists_joined method.resolver data.toList with
    ⟨codes, rest, cut, readable, empty | ⟨known, error, halts⟩⟩
  · rw [empty, List.append_nil] at cut
    exact .inl ⟨codes, cut, readable, disassemble_codes present cut readable⟩
  · rcases halts.moved (Code.joined codes).length data.size with ⟨placed, halts⟩
    exact .inr ⟨codes, rest, known, placed, cut, readable, halts,
      disassemble_halts present cut readable halts⟩

theorem codes_of_disassemble_ok (present : method.body = some data) {records : List Instruction}
    (ok : method.disassemble = .ok records) :
    ∃ codes, data.toList = Code.joined codes ∧
      (∀ code ∈ codes, code.IsReadable method.resolver) ∧
      records = Code.instructionsFrom method.resolver 0 codes := by
  rcases disassemble_cases present with ⟨codes, cut, readable, run⟩ | ⟨_, _, _, _, _, _, _, run⟩
  · rw [run] at ok
    exact ⟨codes, cut, readable, (Except.ok.inj ok).symm⟩
  · rw [run] at ok
    cases ok

theorem codes_of_disassemble_error (present : method.body = some data) {error : DecodeError}
    (failed : method.disassemble = .error error) :
    ∃ codes rest known, data.toList = Code.joined codes ++ rest ∧
      (∀ code ∈ codes, code.IsReadable method.resolver) ∧
      Halts method.resolver (Code.joined codes).length data.size rest known error := by
  rcases disassemble_cases present with
    ⟨_, _, _, run⟩ | ⟨codes, rest, known, _, cut, readable, halts, run⟩
  · rw [run] at failed
    cases failed
  · rw [run] at failed
    cases failed
    exact ⟨codes, rest, known, cut, readable, halts⟩

end Body

end Method

/-! ## Records -/

namespace Code

variable {resolver : Option Resolver}

/-- What a record says whatever its offset is. -/
theorem map_instructionsFrom {β : Type} {field : Instruction → β} {view : Code → β}
    (same : ∀ offset code, field (instructionAt resolver offset code) = view code) (offset : Nat)
    (codes : List Code) : (instructionsFrom resolver offset codes).map field = codes.map view := by
  induction codes generalizing offset with
  | nil => rfl
  | cons code codes induction =>
      rw [instructionsFrom, List.map_cons, List.map_cons, same, induction]

theorem length_instructionsFrom (offset : Nat) (codes : List Code) :
    (instructionsFrom resolver offset codes).length = codes.length := by
  simpa using congrArg List.length
    (map_instructionsFrom (bytes_instructionAt resolver) offset codes)

end Code

namespace Method

end Method

end CilTrace
