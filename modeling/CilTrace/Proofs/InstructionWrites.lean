import CilTrace.Proofs.InstructionReads
import CilTrace.Proofs.NumberTexts
import CilTrace.Proofs.TextTrimming

/-!
Writing an instruction is reading it and writing its text.

Writing takes the same steps through the body as reading, so at every cursor, inside the body or
not, both end in the same way and at the same place. What is written is the text of the record that
reading gives; if the operand cannot be read, the mnemonic stays behind.
-/

namespace CilTrace

open Cursor

/-! ## Texts that keep their end -/

namespace Text

theorem trimEndOf_eq_self {char : Char} {text : String} (free : char ∉ text.toList) :
    trimEndOf char text = text := by
  have kept : text.toList.reverse.dropWhile (· == char) = text.toList.reverse := by
    rw [List.dropWhile_eq_self_iff]
    intro inside same
    exact free (eq_of_beq same ▸ List.mem_reverse.mp (List.getElem_mem inside))
  apply String.toList_inj.mp
  simp [trimEndOf, dropTrailing, kept]

theorem IsWord.exists_ne {text : String} (word : IsWord text) (shown : text ≠ "") :
    ∃ kept ∈ text.toList, kept ≠ ' ' := by
  rcases List.exists_mem_of_ne_nil text.toList (by simpa using shown) with ⟨char, member⟩
  refine ⟨char, member, ?_⟩
  rintro rfl
  exact absurd (word ' ' member) (by decide)

theorem trimEndOf_append_word {word : String} (solid : IsWord word) (shown : word ≠ "")
    (front : String) : trimEndOf ' ' (front ++ word) = front ++ word := by
  rw [trimEndOf_append (solid.exists_ne shown), trimEndOf_eq_self (solid.notMem (by decide))]

end Text

namespace Hex

theorem isWord_pairs (bytes : List UInt8) : Text.IsWord (pairs bytes) := by
  intro char member
  rw [pairs, String.toList_join] at member
  rcases List.mem_flatMap.mp member with ⟨text, shown, member⟩
  rcases List.mem_map.mp shown with ⟨value, _, rfl⟩
  exact isWord_padded 2 value.toNat char member

end Hex

namespace Opcode

/-- Every mnemonic is a word that is not empty. -/
theorem mnemonic_word {opcode : Opcode} (listed : opcode ∈ instructionSet) :
    Text.IsWord opcode.mnemonic ∧ opcode.mnemonic ≠ "" := by
  have checked : instructionSet.all (fun opcode =>
      decide (Text.IsWord opcode.mnemonic) && opcode.mnemonic != "") = true := by
    decide +kernel
  simpa using List.all_eq_true.mp checked opcode listed

end Opcode

namespace Instruction

theorem trimEndOf_rawText (bytes : List UInt8) (front : String) :
    Text.trimEndOf ' ' (front ++ rawText bytes) = front ++ rawText bytes := by
  have word : Text.IsWord ("$" ++ Hex.pairs bytes) := .append (by decide) (Hex.isWord_pairs bytes)
  have split : rawText bytes = " " ++ ("$" ++ Hex.pairs bytes) := by
    rw [rawText, ← String.append_assoc]
    rfl
  rw [split, ← String.append_assoc, Text.trimEndOf_append_word word (by simp)]

/-- Trimming behind an operand never goes past the mnemonic. -/
theorem trimEndOf_mnemonic {opcode : Opcode} (listed : opcode ∈ Opcode.instructionSet)
    (front operand : String) :
    Text.trimEndOf ' ' (front ++ opcode.mnemonic ++ " " ++ operand) =
      front ++ Text.trimEndOf ' ' (opcode.mnemonic ++ " " ++ operand) := by
  have known := Opcode.mnemonic_word listed
  rcases known.1.exists_ne known.2 with ⟨char, member, different⟩
  have inside : char ∈ (opcode.mnemonic ++ " " ++ operand).toList := by
    simp [member]
  rw [← Text.trimEndOf_append ⟨char, inside, different⟩]
  simp only [String.append_assoc]

end Instruction

/-! ## The opcode at a cursor -/

namespace Cursor

/-- The opcode at a cursor, if it can be read. -/
def opcode? (cursor : Cursor) : Option Opcode :=
  (readOpcode cursor).1.toOption

theorem opcode?_of_readOpcode {cursor reached : Cursor} {result : Except DecodeError Opcode}
    (run : readOpcode cursor = (result, reached)) : cursor.opcode? = result.toOption := by
  rw [opcode?, run]

theorem listed_of_readOpcode {cursor reached : Cursor} {opcode : Opcode}
    (run : readOpcode cursor = (.ok opcode, reached)) : opcode ∈ Opcode.instructionSet := by
  have begun : beginInstruction cursor =
      (.ok cursor.position, { cursor with instructionStart := cursor.position }) := rfl
  rw [readOpcode, bind_of_ok begun] at run
  rcases number : readOpcodeId { cursor with instructionStart := cursor.position } with
    ⟨error | id, behind⟩
  · rw [bind_of_error number] at run
    cases run
  · rw [bind_of_ok number] at run
    cases found : Opcode.find? id with
    | none =>
        rw [Opcode.lookup_of_find?_none _ found] at run
        cases run
    | some known =>
        rw [Opcode.lookup_of_find?_some _ found] at run
        cases run
        exact (Opcode.find?_eq_some_iff.mp found).1

end Cursor

theorem Halts.opcode?_between {resolver : Option Resolver} {before rest : List UInt8}
    {known : Option Opcode} {error : DecodeError} {start : Int}
    (halts : Halts resolver before.length (before.length + rest.length) rest known error) :
    (between before rest start).opcode? = known := by
  cases known with
  | none =>
      rcases readOpcode_stops before start halts.stops_of_none with ⟨cursor, stopped⟩
      exact opcode?_of_readOpcode stopped
  | some opcode =>
      rcases Operand.read_halts before start halts with ⟨left, _, listed, rfl, _⟩
      exact opcode?_of_readOpcode (readOpcode_encoding listed before left start)

/-! ## Writing one instruction -/

namespace Write

theorem reading_of_eq {α : Type} {step : Decode α} {cursor reached : Cursor}
    {result : Except DecodeError α} (run : step cursor = (result, reached)) (buffer : TextBuffer) :
    reading step ⟨cursor, buffer⟩ = (result, ⟨reached, buffer⟩) := by
  simp [reading, run]

theorem writing_bind {α : Type} (change : TextBuffer → TextBuffer) (next : Unit → Write α)
    (cursor : Cursor) (buffer : TextBuffer) :
    (writing change >>= next) ⟨cursor, buffer⟩ = next () ⟨cursor, change buffer⟩ := rfl

end Write

namespace Instruction

/-- The steps of reading an instruction, each with its result. -/
inductive ReadSteps (resolver : Option Resolver) (cursor : Cursor) :
    Except DecodeError (Option Instruction) × Cursor → Prop where
  | ended (ended : cursor.atEnd = true) : ReadSteps resolver cursor (.ok none, cursor)
  | noOpcode (error : DecodeError) (reached : Cursor) (left : ¬ cursor.atEnd = true)
      (opcodeRun : readOpcode cursor = (.error error, reached)) :
      ReadSteps resolver cursor (.error error, reached)
  | noOperand (opcode : Opcode) (error : DecodeError) (behind reached : Cursor)
      (left : ¬ cursor.atEnd = true) (opcodeRun : readOpcode cursor = (.ok opcode, behind))
      (operandRun : Operand.read resolver opcode.operand behind = (.error error, reached)) :
      ReadSteps resolver cursor (.error error, reached)
  | whole (opcode : Opcode) (operand : Operand) (behind reached : Cursor)
      (left : ¬ cursor.atEnd = true) (opcodeRun : readOpcode cursor = (.ok opcode, behind))
      (operandRun : Operand.read resolver opcode.operand behind = (.ok operand, reached)) :
      ReadSteps resolver cursor
        (.ok (some ⟨cursor.position, opcode, operand, reached.instructionBytes⟩), reached)

theorem readSteps (resolver : Option Resolver) (cursor : Cursor) :
    ReadSteps resolver cursor (read resolver cursor) := by
  rw [read, get_bind]
  by_cases ended : cursor.atEnd = true
  · rw [if_pos ended]
    exact .ended ended
  · rw [if_neg ended, get_bind]
    rcases opcodeRun : readOpcode cursor with ⟨error | opcode, behind⟩
    · rw [bind_of_error opcodeRun]
      exact .noOpcode error behind ended opcodeRun
    · rw [bind_of_ok opcodeRun]
      rcases operandRun : Operand.read resolver opcode.operand behind with ⟨error | operand, reached⟩
      · rw [bind_of_error operandRun]
        exact .noOperand opcode error behind reached ended opcodeRun operandRun
      · rw [bind_of_ok operandRun, get_bind, pure_apply]
        exact .whole opcode operand behind reached ended opcodeRun operandRun

/-- What stays written of an instruction that is not read to its end. -/
def partText (known : Option Opcode) : String :=
  known.elim "" fun opcode => opcode.mnemonic ++ " "

/-- What is written where reading gives an instruction or comes to the end of the body. -/
def addedText (withBytes : Bool) (ending : Option String) (record : Option Instruction) : String :=
  record.elim "" fun record => record.text withBytes ++ ending.getD ""

section Append

variable {resolver : Option Resolver} (withBytes : Bool) (ending : Option String)
  {cursor reached : Cursor} (buffer : TextBuffer)

theorem append_of_read_ok {record : Option Instruction}
    (run : read resolver cursor = (.ok record, reached)) :
    ∃ written, append resolver withBytes ending ⟨cursor, buffer⟩ =
        (.ok record.isSome, ⟨reached, written⟩) ∧
      written.toString = buffer.toString ++ addedText withBytes ending record := by
  have steps := readSteps resolver cursor
  rw [run] at steps
  rw [append, get_bind]
  cases steps with
  | ended ended =>
      rw [if_pos ended, pure_apply]
      exact ⟨buffer, rfl, by simp [addedText]⟩
  | whole opcode operand behind _ left opcodeRun operandRun =>
      have trimmed :=
        trimEndOf_mnemonic (listed_of_readOpcode opcodeRun) buffer.toString operand.text
      rw [if_neg left, bind_of_ok (Write.reading_of_eq opcodeRun buffer), Write.writing_bind,
        bind_of_ok (Write.reading_of_eq operandRun _), Write.writing_bind]
      cases withBytes with
      | false =>
          refine ⟨_, rfl, ?_⟩
          simp only [TextBuffer.toString_append, TextBuffer.toString_trimEnd_space, trimmed]
          simp [addedText, text, String.append_assoc]
      | true =>
          refine ⟨_, rfl, ?_⟩
          simp only [TextBuffer.toString_append, TextBuffer.toString_trimEnd_space, trimmed,
            trimEndOf_rawText]
          simp [addedText, text, String.append_assoc]

theorem append_of_read_error {error : DecodeError}
    (run : read resolver cursor = (.error error, reached)) :
    ∃ written, append resolver withBytes ending ⟨cursor, buffer⟩ =
        (.error error, ⟨reached, written⟩) ∧
      written.toString = buffer.toString ++ partText cursor.opcode? := by
  have steps := readSteps resolver cursor
  rw [run] at steps
  rw [append, get_bind]
  cases steps with
  | noOpcode _ _ left opcodeRun =>
      rw [if_neg left, bind_of_error (Write.reading_of_eq opcodeRun buffer)]
      exact ⟨buffer, rfl, by simp [opcode?_of_readOpcode opcodeRun, partText, Except.toOption]⟩
  | noOperand opcode _ behind _ left opcodeRun operandRun =>
      rw [if_neg left, bind_of_ok (Write.reading_of_eq opcodeRun buffer), Write.writing_bind,
        bind_of_error (Write.reading_of_eq operandRun _)]
      refine ⟨_, rfl, ?_⟩
      simp [opcode?_of_readOpcode opcodeRun, partText, Except.toOption, String.append_assoc]

end Append

/-! ## Writing by the grammar -/

section Grammar

variable {resolver : Option Resolver} (withBytes : Bool) (ending : Option String)

/-- Writing where an instruction begins adds the text of its record. -/
theorem append_code {code : Code} (readable : code.IsReadable resolver)
    (before rest : List UInt8) (start : Int) (buffer : TextBuffer) :
    ∃ written, append resolver withBytes ending
        ⟨between before (code.bytes ++ rest) start, buffer⟩ =
          (.ok true, ⟨between (before ++ code.bytes) rest before.length, written⟩) ∧
      written.toString = buffer.toString ++
        (code.instructionAt resolver before.length).text withBytes ++ ending.getD "" := by
  have run := append_of_read_ok withBytes ending buffer (read_code readable before rest start)
  simpa [addedText, String.append_assoc] using run

/-- Writing where reading ends early adds the mnemonic, if the opcode is known. -/
theorem append_halts {rest : List UInt8} {known : Option Opcode} {error : DecodeError}
    (before : List UInt8) (start : Int)
    (halts : Halts resolver before.length (before.length + rest.length) rest known error)
    (buffer : TextBuffer) :
    ∃ cursor written, append resolver withBytes ending ⟨between before rest start, buffer⟩ =
        (.error error, ⟨cursor, written⟩) ∧
      written.toString = buffer.toString ++ partText known := by
  rcases read_halts before start halts with ⟨cursor, stopped⟩
  have run := append_of_read_error withBytes ending buffer stopped
  rw [halts.opcode?_between] at run
  exact ⟨cursor, run⟩

end Grammar

end Instruction

end CilTrace
