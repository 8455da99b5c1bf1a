import CilTrace.Frame
import CilTrace.Proofs.Disassembly
import CilTrace.Proofs.InstructionWrites

/-!
A snippet shows two instructions as a listing shows them.

Two reads from the cursor say which instructions there are, or which error comes first. At the
offset of a record these are the record and the one after it.
-/

namespace CilTrace

open Cursor

namespace Snippet

/-- What a snippet leaves of a text, and the error if it fails: told from two reads at a cursor. -/
def after (resolver : Option Resolver) (withBytes : Bool) (cursor : Cursor) (text : String) :
    String × Option DecodeError :=
  match Instruction.read resolver cursor with
  | (.error error, _) => (text ++ Instruction.partText cursor.opcode?, some error)
  | (.ok first, next) =>
      let begun := text ++ Instruction.addedText withBytes (some "; ") first
      match Instruction.read resolver next with
      | (.error error, _) => (begun ++ Instruction.partText next.opcode?, some error)
      | (.ok second, _) =>
          (Text.trimEndOf ' ' (begun ++ Instruction.addedText withBytes (some ";") second), none)

end Snippet

section Two

variable {resolver : Option Resolver} (withBytes : Bool) {cursor next reached : Cursor}
  (buffer : TextBuffer)

theorem appendTwo_of_error {error : DecodeError}
    (run : Instruction.read resolver cursor = (.error error, reached)) :
    ∃ written, appendTwo resolver withBytes ⟨cursor, buffer⟩ =
        (.error error, ⟨reached, written⟩) ∧
      written.toString = buffer.toString ++ Instruction.partText cursor.opcode? := by
  rcases Instruction.append_of_read_error withBytes (some "; ") buffer run with
    ⟨written, stopped, shown⟩
  exact ⟨written, bind_of_error stopped, shown⟩

theorem appendTwo_of_second_error {first : Option Instruction} {error : DecodeError}
    (firstRun : Instruction.read resolver cursor = (.ok first, next))
    (run : Instruction.read resolver next = (.error error, reached)) :
    ∃ written, appendTwo resolver withBytes ⟨cursor, buffer⟩ =
        (.error error, ⟨reached, written⟩) ∧
      written.toString = buffer.toString ++
        Instruction.addedText withBytes (some "; ") first ++
        Instruction.partText next.opcode? := by
  rcases Instruction.append_of_read_ok withBytes (some "; ") buffer firstRun with
    ⟨begun, firstAppended, firstShown⟩
  rcases Instruction.append_of_read_error withBytes (some ";") begun run with
    ⟨written, stopped, shown⟩
  refine ⟨written, ?_, ?_⟩
  · rw [appendTwo, bind_of_ok firstAppended, bind_of_error stopped]
  · rw [shown, firstShown]

theorem appendTwo_of_ok {first second : Option Instruction}
    (firstRun : Instruction.read resolver cursor = (.ok first, next))
    (secondRun : Instruction.read resolver next = (.ok second, reached)) :
    ∃ written, appendTwo resolver withBytes ⟨cursor, buffer⟩ = (.ok (), ⟨reached, written⟩) ∧
      written.toString = Text.trimEndOf ' ' (buffer.toString ++
        Instruction.addedText withBytes (some "; ") first ++
        Instruction.addedText withBytes (some ";") second) := by
  rcases Instruction.append_of_read_ok withBytes (some "; ") buffer firstRun with
    ⟨begun, firstAppended, firstShown⟩
  rcases Instruction.append_of_read_ok withBytes (some ";") begun secondRun with
    ⟨both, secondAppended, secondShown⟩
  refine ⟨both.trimEnd " ", ?_, ?_⟩
  · rw [appendTwo, bind_of_ok firstAppended, bind_of_ok secondAppended]
    rfl
  · rw [TextBuffer.toString_trimEnd_space, secondShown, firstShown]

end Two

namespace Method

/-- The text that a snippet leaves and the error, told from the two reads. -/
theorem appendSnippet_of_openAt {method : Method} {offset : Int} {cursor : Cursor}
    (opened : openAt method.body offset = .ok cursor) (withBytes : Bool) (buffer : TextBuffer) :
    Prod.map TextBuffer.toString id (method.appendSnippet offset withBytes buffer) =
      Snippet.after method.resolver withBytes cursor buffer.toString := by
  rw [appendSnippet, opened, Snippet.after]
  rcases firstRun : Instruction.read method.resolver cursor with ⟨error | first, next⟩
  · rcases appendTwo_of_error withBytes buffer firstRun with
      ⟨written, run, shown⟩
    simp [run, shown]
  · rcases secondRun : Instruction.read method.resolver next with ⟨error | second, reached⟩
    · rcases appendTwo_of_second_error withBytes buffer firstRun secondRun with
        ⟨written, run, shown⟩
      simp [run, shown, secondRun]
    · rcases appendTwo_of_ok withBytes buffer firstRun secondRun with
        ⟨written, run, shown⟩
      simp [run, shown, secondRun]

end Method

/-! ## Snippets at the offsets of records -/

namespace Cursor

theorem openAt_of_le {data : Array UInt8} {offset : Nat} (within : offset ≤ data.size) :
    openAt (some data) offset = .ok ⟨data, offset, offset⟩ := by
  have inside : 0 ≤ (offset : Int) ∧ (offset : Int) ≤ data.size := by omega
  exact if_pos inside

theorem openAt_of_cut {data : Array UInt8} {before rest : List UInt8}
    (cut : data.toList = before ++ rest) :
    openAt (some data) before.length = .ok (between before rest before.length) := by
  have same : data = (before ++ rest).toArray := by
    rw [← cut]
  subst same
  rw [openAt_of_le (by simp)]
  rfl

end Cursor

namespace Code

variable {resolver : Option Resolver}

/-- The records from one of them on are those of the instructions from there on. -/
theorem drop_instructionsFrom (offset index : Nat) (codes : List Code) :
    (instructionsFrom resolver offset codes).drop index =
      instructionsFrom resolver (offset + (joined (codes.take index)).length)
        (codes.drop index) := by
  induction codes generalizing offset index with
  | nil => simp [instructionsFrom]
  | cons code codes induction =>
      cases index with
      | zero => simp
      | succ index => simp [instructionsFrom, induction, Nat.add_assoc]

theorem offset_of_first {offset : Nat} {codes : List Code} {record : Instruction}
    (first : (instructionsFrom resolver offset codes)[0]? = some record) :
    record.offset = offset := by
  cases codes with
  | nil => cases first
  | cons code codes =>
      cases first
      rfl

/-- Reading among instructions gives the record of the first one, if there is any. -/
theorem read_joined {codes : List Code} (readable : ∀ code ∈ codes, code.IsReadable resolver)
    (before : List UInt8) (start : Int) :
    Instruction.read resolver (between before (joined codes) start) =
      (.ok (instructionsFrom resolver before.length codes)[0]?,
        between (before ++ joined (codes.take 1)) (joined (codes.drop 1))
          (if codes = [] then start else before.length)) := by
  cases codes with
  | nil => simpa [instructionsFrom] using Instruction.read_end resolver before start
  | cons code codes =>
      have first := readable code List.mem_cons_self
      simpa [instructionsFrom] using Instruction.read_code first before (joined codes) start

end Code

namespace Snippet

variable (withBytes : Bool)

theorem after_codes {resolver : Option Resolver} {codes : List Code}
    (readable : ∀ code ∈ codes, code.IsReadable resolver) (before : List UInt8) (start : Int)
    (text : String) :
    after resolver withBytes (between before (Code.joined codes) start) text =
      (Text.trimEndOf ' ' (text ++
        Instruction.addedText withBytes (some "; ")
          (Code.instructionsFrom resolver before.length codes)[0]? ++
        Instruction.addedText withBytes (some ";")
          (Code.instructionsFrom resolver before.length codes)[1]?), none) := by
  have second : (Code.instructionsFrom resolver before.length codes)[1]? =
      (Code.instructionsFrom resolver (before ++ Code.joined (codes.take 1)).length
        (codes.drop 1))[0]? := by
    rw [List.length_append, ← Code.drop_instructionsFrom, List.getElem?_drop]
  have rest : ∀ code ∈ codes.drop 1, code.IsReadable resolver := fun code member =>
    readable code (List.mem_of_mem_drop member)
  rw [after, Code.read_joined readable]
  dsimp only
  rw [Code.read_joined rest, second]

/-- What stands before a semicolon is kept, also when a space comes behind it. -/
theorem trimEndOf_semicolon {ending : String} (semicolon : ending = ";" ∨ ending = "; ")
    (front : String) : Text.trimEndOf ' ' (front ++ ending) = front ++ ";" := by
  rcases semicolon with rfl | rfl
  · have visible : ∃ kept ∈ ";".toList, kept ≠ ' ' := ⟨';', by decide, by decide⟩
    rw [Text.trimEndOf_append visible]
    rfl
  · have visible : ∃ kept ∈ "; ".toList, kept ≠ ' ' := ⟨';', by decide, by decide⟩
    rw [Text.trimEndOf_append visible]
    rfl

/-- The text of a snippet that begins with a record. -/
def shown (record : Instruction) (next : Option Instruction) : String :=
  match next with
  | some next => record.text withBytes ++ "; " ++ next.text withBytes ++ ";"
  | none => record.text withBytes ++ ";"

theorem trimEndOf_added (text : String) (record : Instruction) (next : Option Instruction) :
    Text.trimEndOf ' ' (text ++
        Instruction.addedText withBytes (some "; ") (some record) ++
        Instruction.addedText withBytes (some ";") next) =
      text ++ shown withBytes record next := by
  cases next with
  | none =>
      have trimmed := trimEndOf_semicolon (.inr rfl) (text ++ record.text withBytes)
      simpa [Instruction.addedText, shown, String.append_assoc] using trimmed
  | some next =>
      have trimmed := trimEndOf_semicolon (.inl rfl)
        (text ++ record.text withBytes ++ "; " ++ next.text withBytes)
      simpa [Instruction.addedText, shown, String.append_assoc] using trimmed

end Snippet

namespace Method

variable {method : Method} {data : Array UInt8} (withBytes : Bool) (buffer : TextBuffer)

theorem appendSnippet_at_record {records : List Instruction}
    (ok : method.disassemble = .ok records) {index : Nat} {record : Instruction}
    (found : records[index]? = some record) :
    Prod.map TextBuffer.toString id (method.appendSnippet record.offset withBytes buffer) =
      (buffer.toString ++ Snippet.shown withBytes record records[index + 1]?,
        none) := by
  cases present : method.body with
  | none =>
      rw [disassemble_noBody present] at ok
      cases ok
  | some data =>
      rcases codes_of_disassemble_ok present ok with ⟨codes, cut, readable, rfl⟩
      -- The body is cut before the record; the two reads are made in what comes behind.
      have split : data.toList =
          Code.joined (codes.take index) ++ Code.joined (codes.drop index) := by
        rw [cut, ← Code.joined_append, List.take_append_drop]
      have rest : ∀ code ∈ codes.drop index, code.IsReadable method.resolver :=
        fun code member => readable code (List.mem_of_mem_drop member)
      have behind : (Code.instructionsFrom method.resolver 0 codes).drop index = _ :=
        Code.drop_instructionsFrom 0 index codes
      rw [Nat.zero_add] at behind
      have first : (Code.instructionsFrom method.resolver (Code.joined (codes.take index)).length
          (codes.drop index))[0]? = some record := by
        rw [← behind, List.getElem?_drop]
        exact found
      have second : (Code.instructionsFrom method.resolver (Code.joined (codes.take index)).length
          (codes.drop index))[1]? = (Code.instructionsFrom method.resolver 0 codes)[index + 1]? := by
        rw [← behind, List.getElem?_drop]
      have opened := openAt_of_cut split
      rw [← present, ← Code.offset_of_first first] at opened
      rw [appendSnippet_of_openAt opened, Snippet.after_codes withBytes rest, first, second,
        Snippet.trimEndOf_added]

theorem appendSnippet_at_end (present : method.body = some data) :
    Prod.map TextBuffer.toString id (method.appendSnippet data.size withBytes buffer) =
      (Text.trimEndOf ' ' buffer.toString, none) := by
  have opened := openAt_of_cut (List.append_nil data.toList).symm
  rw [Array.length_toList, ← present] at opened
  rw [appendSnippet_of_openAt opened, ← Code.joined_nil, Snippet.after_codes withBytes (by simp)]
  simp [Code.instructionsFrom, Instruction.addedText]

/--
At the offset of a record a snippet shows that record and the next one, if there is one, as a listing
shows them; at the end of the body it only trims spaces. At any other place, the two reads from there
say what it shows and how it ends.
-/
theorem snippet_shows_two_reads (method : Method) (withBytes : Bool) (buffer : TextBuffer) :
    (∀ records index record, method.disassemble = .ok records → records[index]? = some record →
      Prod.map TextBuffer.toString id (method.appendSnippet record.offset withBytes buffer) =
        (buffer.toString ++ Snippet.shown withBytes record records[index + 1]?,
          none)) ∧
    ∀ data, method.body = some data →
      Prod.map TextBuffer.toString id (method.appendSnippet data.size withBytes buffer) =
        (Text.trimEndOf ' ' buffer.toString, none) ∧
      ∀ offset : Nat, offset ≤ data.size →
        Prod.map TextBuffer.toString id (method.appendSnippet offset withBytes buffer) =
          Snippet.after method.resolver withBytes ⟨data, offset, offset⟩ buffer.toString := by
  constructor
  · intro records index record ok found
    exact appendSnippet_at_record withBytes buffer ok found
  · intro data present
    refine ⟨appendSnippet_at_end withBytes buffer present, ?_⟩
    intro offset within
    have opened := openAt_of_le within
    rw [← present] at opened
    exact appendSnippet_of_openAt opened withBytes buffer

end Method

end CilTrace
