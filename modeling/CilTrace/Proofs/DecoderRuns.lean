import Mathlib.Data.List.Forall2
import CilTrace.Proofs.InstructionWrites
import CilTrace.Proofs.Snippets

/-!
Runs of one decoder that reads and writes by turns.

Writing an instruction and reading it take the cursor through the same places, so in a run either
may stand in for the other: every later step starts from the same place and ends in the same way.
What a run writes is told by the records that reads would give at those places.
-/

namespace CilTrace

/-- A step of a decoder. -/
inductive DecoderStep where
  /-- Writes the next instruction and a text behind it. -/
  | append (ending : Option String)
  /-- Gives the next instruction as a record. -/
  | read
  /-- Says whether raw bytes are written from now on. -/
  | showBytes (shown : Bool)

namespace DecoderStep

/-- What a step answers. -/
inductive Report where
  /-- Whether an instruction was written. -/
  | wrote (found : Bool)
  | gave (record : Option Instruction)
  | failed (error : DecodeError)
  | changed
deriving DecidableEq

namespace Report

/-- How decoding went, whichever step asked for it: an error, or if there was an instruction. -/
def outcome : Report → Option (Except DecodeError Bool)
  | wrote found => some (.ok found)
  | gave record => some (.ok record.isSome)
  | failed error => some (.error error)
  | changed => none

end Report

/-- Steps that decode an instruction. -/
inductive Decodes : DecoderStep → Prop where
  | append (ending : Option String) : Decodes (.append ending)
  | read : Decodes .read

/-- Steps that may stand in for each other: all that decode, and the same change of setting. -/
inductive StandsFor : DecoderStep → DecoderStep → Prop where
  | decoding {step other : DecoderStep} (decodes : step.Decodes) (otherDecodes : other.Decodes) :
      StandsFor step other
  | showBytes (shown : Bool) : StandsFor (.showBytes shown) (.showBytes shown)

end DecoderStep

/-- A decoder: its cursor, the buffer that it writes to, and whether it writes raw bytes. -/
structure Decoder where
  cursor : Cursor
  buffer : TextBuffer
  withBytes : Bool

namespace Decoder

variable (resolver : Option Resolver)

/-- Takes one step. What was read and written before a failure stays. -/
def step (decoder : Decoder) : DecoderStep → DecoderStep.Report × Decoder
  | .append ending =>
      match Instruction.append resolver decoder.withBytes ending
        ⟨decoder.cursor, decoder.buffer⟩ with
      | (.ok found, ⟨cursor, buffer⟩) => (.wrote found, ⟨cursor, buffer, decoder.withBytes⟩)
      | (.error error, ⟨cursor, buffer⟩) => (.failed error, ⟨cursor, buffer, decoder.withBytes⟩)
  | .read =>
      match Instruction.read resolver decoder.cursor with
      | (.ok record, cursor) => (.gave record, { decoder with cursor })
      | (.error error, cursor) => (.failed error, { decoder with cursor })
  | .showBytes shown => (.changed, { decoder with withBytes := shown })

/-- What each step of a run answers, and the decoder after it. A run goes on after a failure. -/
def run : Decoder → List DecoderStep → List (DecoderStep.Report × Decoder)
  | _, [] => []
  | decoder, step :: steps =>
      let taken := decoder.step resolver step
      taken :: run taken.2 steps

/-! ## What is written, told by reads -/

/-- What writing adds at a cursor: the text of the record there, the mnemonic alone if only the
operand cannot be read, and nothing without an opcode or at the end. -/
def writtenAt (withBytes : Bool) (ending : Option String) (cursor : Cursor) : String :=
  match (Instruction.read resolver cursor).1 with
  | .ok record => Instruction.addedText withBytes ending record
  | .error _ => Instruction.partText cursor.opcode?

/-- What each step of a run adds to the text, found by reads alone. -/
def added : Cursor → Bool → List DecoderStep → List String
  | _, _, [] => []
  | cursor, withBytes, .append ending :: steps =>
      writtenAt resolver withBytes ending cursor ::
        added (Instruction.read resolver cursor).2 withBytes steps
  | cursor, withBytes, .read :: steps =>
      "" :: added (Instruction.read resolver cursor).2 withBytes steps
  | cursor, _, .showBytes shown :: steps => "" :: added cursor shown steps

/-! ## One step -/

theorem step_append (decoder : Decoder) (ending : Option String) :
    ∃ report buffer, decoder.step resolver (.append ending) =
        (report, ⟨(Instruction.read resolver decoder.cursor).2, buffer, decoder.withBytes⟩) ∧
      report.outcome = some ((Instruction.read resolver decoder.cursor).1.map Option.isSome) ∧
      buffer.toString =
        decoder.buffer.toString ++ writtenAt resolver decoder.withBytes ending decoder.cursor := by
  rcases run : Instruction.read resolver decoder.cursor with ⟨error | record, reached⟩
  · rcases Instruction.append_of_read_error decoder.withBytes ending decoder.buffer run
      with ⟨written, appended, shown⟩
    refine ⟨.failed error, written, ?_, rfl, ?_⟩
    · simp [step, appended]
    · rw [shown, writtenAt, run]
  · rcases Instruction.append_of_read_ok decoder.withBytes ending decoder.buffer run with
      ⟨written, appended, shown⟩
    refine ⟨.wrote record.isSome, written, ?_, rfl, ?_⟩
    · simp [step, appended]
    · rw [shown, writtenAt, run]

theorem step_read (decoder : Decoder) :
    ∃ report, decoder.step resolver .read =
        (report, { decoder with cursor := (Instruction.read resolver decoder.cursor).2 }) ∧
      report.outcome = some ((Instruction.read resolver decoder.cursor).1.map Option.isSome) := by
  rcases run : Instruction.read resolver decoder.cursor with ⟨error | record, reached⟩
  · exact ⟨.failed error, by simp [step, run], rfl⟩
  · exact ⟨.gave record, by simp [step, run], rfl⟩

/-- A step that decodes goes where reading goes, whether it writes or not. -/
theorem step_of_decodes (decoder : Decoder) {step : DecoderStep} (decodes : step.Decodes) :
    (decoder.step resolver step).2.cursor = (Instruction.read resolver decoder.cursor).2 ∧
      (decoder.step resolver step).2.withBytes = decoder.withBytes ∧
      (decoder.step resolver step).1.outcome =
        some ((Instruction.read resolver decoder.cursor).1.map Option.isSome) := by
  cases decodes with
  | append ending =>
      rcases step_append resolver decoder ending with ⟨report, buffer, run, outcome, _⟩
      rw [run]
      exact ⟨rfl, rfl, outcome⟩
  | read =>
      rcases step_read resolver decoder with ⟨report, run, outcome⟩
      rw [run]
      exact ⟨rfl, rfl, outcome⟩

/-- Two results of a step that differ in the text and in the kind of answer only. -/
structure Alike (left right : DecoderStep.Report × Decoder) : Prop where
  cursor : left.2.cursor = right.2.cursor
  withBytes : left.2.withBytes = right.2.withBytes
  outcome : left.1.outcome = right.1.outcome

theorem step_alike {left right : Decoder} (sameCursor : left.cursor = right.cursor)
    (sameBytes : left.withBytes = right.withBytes) {step other : DecoderStep}
    (stands : step.StandsFor other) :
    Alike (left.step resolver step) (right.step resolver other) := by
  cases stands with
  | showBytes shown => exact ⟨sameCursor, rfl, rfl⟩
  | decoding decodes otherDecodes =>
      rcases step_of_decodes resolver left decodes with ⟨cursor, bytes, outcome⟩
      rcases step_of_decodes resolver right otherDecodes with
        ⟨otherCursor, otherBytes, otherOutcome⟩
      constructor
      · rw [cursor, otherCursor, sameCursor]
      · rw [bytes, otherBytes, sameBytes]
      · rw [outcome, otherOutcome, sameCursor]

/-! ## Whole runs -/

theorem run_alike {left right : Decoder} (sameCursor : left.cursor = right.cursor)
    (sameBytes : left.withBytes = right.withBytes) {steps others : List DecoderStep}
    (stand : List.Forall₂ DecoderStep.StandsFor steps others) :
    List.Forall₂ Alike (run resolver left steps) (run resolver right others) := by
  induction stand generalizing left right with
  | nil => exact .nil
  | cons first _ induction =>
      have taken := step_alike resolver sameCursor sameBytes first
      exact .cons taken (induction taken.cursor taken.withBytes)

/-- After every step of a run the text is what it was, and what the step adds. -/
theorem run_texts (decoder : Decoder) (steps : List DecoderStep) :
    decoder.buffer.toString :: (run resolver decoder steps).map (·.2.buffer.toString) =
      (added resolver decoder.cursor decoder.withBytes steps).scanl (· ++ ·)
        decoder.buffer.toString := by
  induction steps generalizing decoder with
  | nil => rfl
  | cons step steps induction =>
      cases step with
      | append ending =>
          rcases step_append resolver decoder ending with ⟨report, buffer, taken, _, shown⟩
          have later := induction
            ⟨(Instruction.read resolver decoder.cursor).2, buffer, decoder.withBytes⟩
          rw [run, taken, added, List.scanl_cons, ← shown, ← later]
          rfl
      | read =>
          rcases step_read resolver decoder with ⟨report, taken, _⟩
          have later := induction
            { decoder with cursor := (Instruction.read resolver decoder.cursor).2 }
          rw [run, taken, added, List.scanl_cons, String.append_empty, ← later]
          rfl
      | showBytes shown =>
          have later := induction { decoder with withBytes := shown }
          rw [run, added, List.scanl_cons, String.append_empty, ← later]
          rfl

theorem isChain_scanl (text : String) (pieces : List String) :
    (pieces.scanl (· ++ ·) text).IsChain fun before after => ∃ more, after = before ++ more := by
  induction pieces generalizing text with
  | nil => simp
  | cons piece pieces induction =>
      have later := induction (text ++ piece)
      cases pieces with
      | nil => simp
      | cons next pieces =>
          simp only [List.scanl_cons, List.isChain_cons_cons] at later ⊢
          exact ⟨⟨piece, rfl⟩, later⟩

/--
Writing and reading stand in for each other in every run of a decoder. Whichever of them is used at
which place, all steps lead to the same places and end in the same way. After each step the text is
the text before it and what the record read there says; so no step takes text away.
-/
theorem append_and_read_interchange (method : Method) (data : Array UInt8)
    (present : method.body = some data) (position : Nat) (inside : position ≤ data.size)
    (buffer : TextBuffer) (withBytes : Bool) (steps others : List DecoderStep)
    (stand : List.Forall₂ DecoderStep.StandsFor steps others) :
    ∃ cursor, Cursor.openAt method.body position = .ok cursor ∧
      List.Forall₂ Alike (run method.resolver ⟨cursor, buffer, withBytes⟩ steps)
        (run method.resolver ⟨cursor, buffer, withBytes⟩ others) ∧
      buffer.toString ::
          (run method.resolver ⟨cursor, buffer, withBytes⟩ steps).map (·.2.buffer.toString) =
        (added method.resolver cursor withBytes steps).scanl (· ++ ·) buffer.toString ∧
      (buffer.toString ::
          (run method.resolver ⟨cursor, buffer, withBytes⟩ steps).map (·.2.buffer.toString)).IsChain
        fun before after => ∃ more, after = before ++ more := by
  have opened : Cursor.openAt method.body position = .ok ⟨data, position, position⟩ := by
    rw [present]
    exact Cursor.openAt_of_le inside
  have texts := run_texts method.resolver ⟨⟨data, position, position⟩, buffer, withBytes⟩ steps
  refine ⟨_, opened, run_alike method.resolver rfl rfl stand, texts, ?_⟩
  rw [texts]
  exact isChain_scanl _ _

/-- A run that goes on inside an instruction whose operand is cut, behind a text that ends in a
space. -/
theorem append_and_read_interchange_after_failure :
    List.Forall₂ DecoderStep.StandsFor
        [.append (some "; "), .showBytes true, .read, .append none, .append none]
        [.read, .showBytes true, .append none, .read, .append none] ∧
      ∃ cursor, Cursor.openAt (some #[0x20, 0x01, 0x2A]) 0 = .ok cursor ∧
        List.Forall₂ Alike
          (run none ⟨cursor, .ofString "a ", false⟩
            [.append (some "; "), .showBytes true, .read, .append none, .append none])
          (run none ⟨cursor, .ofString "a ", false⟩
            [.read, .showBytes true, .append none, .read, .append none]) ∧
        "a " :: (run none ⟨cursor, .ofString "a ", false⟩
            [.append (some "; "), .showBytes true, .read, .append none, .append none]).map
              (·.2.buffer.toString) =
          ["a ", "a ldc.i4 ", "a ldc.i4 ", "a ldc.i4 ", "a ldc.i4 ret $2A",
            "a ldc.i4 ret $2A"] := by
  have stand : List.Forall₂ DecoderStep.StandsFor
      [.append (some "; "), .showBytes true, .read, .append none, .append none]
      [.read, .showBytes true, .append none, .read, .append none] :=
    .cons (.decoding (.append _) .read) <| .cons (.showBytes true) <|
      .cons (.decoding .read (.append _)) <| .cons (.decoding (.append _) .read) <|
        .cons (.decoding (.append _) (.append _)) .nil
  rcases append_and_read_interchange { body := some #[0x20, 0x01, 0x2A] } _ rfl 0 (by decide)
    (.ofString "a ") false _ _ stand with ⟨cursor, opened, alike, texts, _⟩
  refine ⟨stand, cursor, opened, alike, ?_⟩
  cases opened
  rw [TextBuffer.toString_ofString] at texts
  refine texts.trans ?_
  decide +kernel

end Decoder

end CilTrace
