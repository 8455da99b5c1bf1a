import Mathlib.Data.List.Forall2
import CilTrace.Listing
import CilTrace.Proofs.Disassembly
import CilTrace.Proofs.InstructionWrites
import CilTrace.Proofs.NumberSpellings

/-!
A listing shows what disassembly gives.

The listing is written while the body is read, so its loop is compared with the records one
instruction at a time: each step adds the line of one record to the text, whatever stood there
before. Two things stop a listing for reasons of its own: a number in front of the first instruction
that is too long to be written, and a reason that has no text.
-/

namespace CilTrace

open Cursor

/-! ## The lines of a listing -/

namespace Listing

/-- The line of a record. -/
def lineText (withBytes : Bool) (record : Instruction) : String :=
  "  " ++ Hex.signed 4 record.offset ++ ": " ++ record.text withBytes ++ "\n"

/-- The lines of records, one after another. -/
def linesText (withBytes : Bool) (records : List Instruction) : String :=
  String.join (records.map (lineText withBytes))

/-- A line that gives the offset of a record as a numeral, and behind it the text of the record. -/
def IsLine (withBytes : Bool) (record : Instruction) (line : String) : Prop :=
  ∃ (place : Nat) (digits : String), record.offset = place ∧ Hex.IsNumeral digits place ∧
    line = "  " ++ digits ++ ": " ++ record.text withBytes ++ "\n"

theorem isLine_lineText (withBytes : Bool) (resolver : Option Resolver) (offset : Nat)
    (code : Code) :
    IsLine withBytes (code.instructionAt resolver offset)
      (lineText withBytes (code.instructionAt resolver offset)) :=
  ⟨offset, Hex.padded 4 offset, rfl, Hex.isNumeral_padded offset, rfl⟩

theorem areLines_instructionsFrom (withBytes : Bool) (resolver : Option Resolver) (offset : Nat)
    (codes : List Code) :
    List.Forall₂ (IsLine withBytes) (Code.instructionsFrom resolver offset codes)
      ((Code.instructionsFrom resolver offset codes).map (lineText withBytes)) := by
  induction codes generalizing offset with
  | nil => exact .nil
  | cons code codes induction =>
      exact .cons (isLine_lineText withBytes resolver offset code) (induction _)

variable (method : Method) (withBytes : Bool)

theorem appendInstructions_step (limit count : Nat) {code : Code}
    (readable : code.IsReadable method.resolver) (before rest : List UInt8) (start : Int)
    (buffer : TextBuffer) :
    ∃ written, appendInstructions method withBytes (limit + 1) count
        ⟨between before (code.bytes ++ rest) start, buffer⟩ =
      appendInstructions method withBytes limit (count + 1)
        ⟨between (before ++ code.bytes) rest before.length, written⟩ ∧
      written.toString = buffer.toString ++
        lineText withBytes (code.instructionAt method.resolver before.length) := by
  rcases Instruction.append_code withBytes none readable before rest start
    (buffer.append ("  " ++ Hex.signed 4 before.length ++ ": ")) with
    ⟨written, run, shown⟩
  refine ⟨written.appendLine "", ?_, ?_⟩
  · rw [appendInstructions, get_bind, if_neg (code.atEnd_bytes before rest start), get_bind,
      Write.writing_bind, position_between, bind_of_ok run, Write.writing_bind]
  · simp [shown, lineText, String.append_assoc]

section Loop

variable {codes : List Code} (readable : ∀ code ∈ codes, code.IsReadable method.resolver)
include readable

theorem appendInstructions_codes {limit : Nat} (enough : codes.length ≤ limit) (count : Nat)
    (before : List UInt8) (start : Int) (buffer : TextBuffer) :
    ∃ cursor written, appendInstructions method withBytes limit count
        ⟨between before (Code.joined codes) start, buffer⟩ =
          (.ok (count + codes.length), ⟨cursor, written⟩) ∧
      written.toString = buffer.toString ++ linesText withBytes
        (Code.instructionsFrom method.resolver before.length codes) := by
  induction codes generalizing limit count before start buffer with
  | nil =>
      refine ⟨between before [] start, buffer, ?_, by simp [linesText, Code.instructionsFrom]⟩
      cases limit with
      | zero => rfl
      | succ limit =>
          rw [appendInstructions, get_bind, Code.joined_nil,
            if_pos (atEnd_between_nil before start)]
          rfl
  | cons code codes induction =>
      have parts := List.forall_mem_cons.mp readable
      cases limit with
      | zero => exact absurd enough (Nat.not_succ_le_zero _)
      | succ limit =>
          rcases appendInstructions_step method withBytes limit count parts.1
            before (Code.joined codes) start buffer with
            ⟨written, run, shown⟩
          rcases induction parts.2 (Nat.le_of_succ_le_succ enough) (count + 1)
            (before ++ code.bytes) before.length written with
            ⟨cursor, ended, rest, all⟩
          refine ⟨cursor, ended, ?_, ?_⟩
          · rw [Code.joined_cons, run, rest, List.length_cons, Nat.add_assoc, Nat.add_comm 1]
          · rw [all, shown]
            simp [linesText, Code.instructionsFrom, String.append_assoc]

theorem appendInstructions_halts {limit : Nat} (more : codes.length < limit)
    {rest : List UInt8} {known : Option Opcode} {error : DecodeError} (count : Nat)
    (before : List UInt8) (start : Int)
    (halts : Halts method.resolver (before ++ Code.joined codes).length
      ((before ++ Code.joined codes).length + rest.length) rest known error)
    (buffer : TextBuffer) :
    ∃ cursor written, appendInstructions method withBytes limit count
        ⟨between before (Code.joined codes ++ rest) start, buffer⟩ =
          (.error error, ⟨cursor, written⟩) ∧
      written.toString = buffer.toString ++ linesText withBytes
          (Code.instructionsFrom method.resolver before.length codes) ++
        "  " ++ Hex.signed 4 (before ++ Code.joined codes).length ++ ": " ++
          Instruction.partText known := by
  induction codes generalizing limit count before start buffer with
  | nil =>
      cases limit with
      | zero => exact absurd more (Nat.not_lt_zero _)
      | succ limit =>
          rw [Code.joined_nil, List.append_nil] at halts ⊢
          rcases Instruction.append_halts withBytes none before start halts
            (buffer.append ("  " ++ Hex.signed 4 before.length ++ ": ")) with
            ⟨cursor, written, run, shown⟩
          refine ⟨cursor, written, ?_, ?_⟩
          · rw [appendInstructions, List.nil_append, get_bind,
              if_neg (halts.atEnd_rest before start), get_bind, Write.writing_bind,
              position_between, bind_of_error run]
          · simp [shown, linesText, Code.instructionsFrom, String.append_assoc]
  | cons code codes induction =>
      have parts := List.forall_mem_cons.mp readable
      cases limit with
      | zero => exact absurd more (Nat.not_lt_zero _)
      | succ limit =>
          rw [Code.joined_cons, ← List.append_assoc] at halts
          rcases appendInstructions_step method withBytes limit count parts.1
            before (Code.joined codes ++ rest) start buffer with
            ⟨written, run, shown⟩
          rcases induction parts.2 (Nat.lt_of_succ_lt_succ more) (count + 1)
            (before ++ code.bytes) before.length halts written with
            ⟨cursor, ended, stopped, all⟩
          refine ⟨cursor, ended, ?_, ?_⟩
          · rw [Code.joined_cons, List.append_assoc, run, stopped]
          · rw [all, shown]
            simp [linesText, Code.instructionsFrom, String.append_assoc]

end Loop

/-! ## In front of the instructions -/

/-- The line of the signature, if the method has a name. -/
def headingText : String :=
  method.name.elim "" fun name =>
    ".method " ++ name ++ "(" ++ String.intercalate "," method.parameters ++ ")\n"

/-- The line of a local variable. -/
def slotText (slot : LocalVariable) : String :=
  "    " ++ Text.trimEnd ("[" ++ Numeral.decimal slot.index ++ "] " ++ slot.typeName.getD "") ++ "\n"

/-- The line before the first local variable. -/
def localsHead : String :=
  "  .locals " ++ (if method.initLocals then "init " else "") ++ "(\n"

/-- The block of the local variables, if there are any. -/
def localsText : String :=
  if method.locals = [] then ""
  else localsHead method ++ String.join (method.locals.map slotText) ++ "  )\n"

/-- What stands before the first instruction. -/
def openingText : String :=
  "\x7b\n" ++ localsText method ++ "  .maxstack " ++ Numeral.decimal method.maxStack ++ "\n\n"

/-- Whether the number of every local variable can be written. -/
def HasWritableSlots (slots : List LocalVariable) : Prop :=
  ∀ slot ∈ slots, Numeral.isWritable slot.index = true

instance (slots : List LocalVariable) : Decidable (HasWritableSlots slots) :=
  inferInstanceAs (Decidable (∀ slot ∈ slots, _))

/-- Whether all numbers before the first instruction can be written. -/
def HasWritableNumbers : Prop :=
  HasWritableSlots method.locals ∧ Numeral.isWritable method.maxStack = true

theorem toString_appendHeading (buffer : TextBuffer) :
    (appendHeading method buffer).toString = buffer.toString ++ headingText method := by
  unfold appendHeading headingText
  cases method.name with
  | none => simp
  | some name => simp [heading, String.append_assoc]

theorem appendLine_ok (text : String) (cursor : Cursor) (buffer : TextBuffer) :
    appendLine (.ok text) ⟨cursor, buffer⟩ = (.ok (), ⟨cursor, buffer.appendLine text⟩) := rfl

section Slots

variable {slots : List LocalVariable} (cursor : Cursor) (buffer : TextBuffer)

theorem appendSlots_step {slot : LocalVariable} (short : Numeral.isWritable slot.index = true)
    (slots : List LocalVariable) :
    ∃ written, appendSlots (slot :: slots) ⟨cursor, buffer⟩ = appendSlots slots ⟨cursor, written⟩ ∧
      written.toString = buffer.toString ++ slotText slot := by
  rw [appendSlots, LocalVariable.text, Numeral.write_of_writable short]
  exact ⟨_, bind_of_ok (appendLine_ok ..), by simp [slotText, String.append_assoc]⟩

theorem appendSlots_ok (short : HasWritableSlots slots) :
    ∃ written, appendSlots slots ⟨cursor, buffer⟩ = (.ok (), ⟨cursor, written⟩) ∧
      written.toString = buffer.toString ++ String.join (slots.map slotText) := by
  induction slots generalizing buffer with
  | nil => exact ⟨buffer, rfl, by simp⟩
  | cons slot slots induction =>
      have parts := List.forall_mem_cons.mp short
      rcases appendSlots_step cursor buffer parts.1 slots with ⟨behind, step, line⟩
      rcases induction behind parts.2 with ⟨written, run, shown⟩
      exact ⟨written, step.trans run, by simp [shown, line, String.append_assoc]⟩

end Slots

/-! ### The whole opening -/

section Opening

variable {method : Method} (cursor : Cursor) (buffer : TextBuffer)

theorem localsLine : (if method.initLocals then "  .locals init (" else "  .locals (") ++ "\n" =
    localsHead method := by
  unfold localsHead
  cases method.initLocals <;> rfl

theorem appendLocals_ok (short : HasWritableSlots method.locals) :
    ∃ written, appendLocals method ⟨cursor, buffer⟩ = (.ok (), ⟨cursor, written⟩) ∧
      written.toString = buffer.toString ++ localsText method := by
  unfold appendLocals localsText
  by_cases empty : method.locals = []
  · exact ⟨buffer, by rw [empty]; rfl, by simp [empty]⟩
  · rcases appendSlots_ok cursor (buffer.appendLine _) short with ⟨written, run, shown⟩
    refine ⟨written.appendLine "  )", ?_, ?_⟩
    · rw [if_neg (by simpa using empty), bind_of_ok (appendLine_ok ..), bind_of_ok run]
      rfl
    · rw [if_neg empty, ← localsLine]
      simp [shown, String.append_assoc]

theorem appendPreamble_ok (short : HasWritableNumbers method) :
    ∃ written, appendPreamble method ⟨cursor, buffer⟩ = (.ok (), ⟨cursor, written⟩) ∧
      written.toString = buffer.toString ++ openingText method := by
  rcases appendLocals_ok cursor (buffer.appendLine "\x7b") short.1 with ⟨written, run, shown⟩
  refine ⟨(written.appendLine ("  .maxstack " ++ Numeral.decimal method.maxStack)).appendLine "",
    ?_, ?_⟩
  · rw [appendPreamble, bind_of_ok (appendLine_ok ..), bind_of_ok run,
      Numeral.write_of_writable short.2]
    rfl
  · simp [shown, openingText, String.append_assoc]

end Opening

/-! ## Whole listings -/

theorem stopped_of_told {error : DecodeError} {reason : String} (told : error.message = .ok reason)
    (buffer : TextBuffer) :
    stopped error buffer = .ok ⟨reason ++ "\n" ++ buffer.toString, none, some error⟩ := by
  rw [stopped, told]
  rfl

theorem stopped_of_untold {error : DecodeError} {failure : HostFailure}
    (untold : error.message = .error failure) (buffer : TextBuffer) :
    stopped error buffer = .error failure := by
  rw [stopped, untold]
  rfl

section Body

variable {method : Method} (withBytes : Bool) {data : Array UInt8}

theorem ofMethod_noBody (absent : method.body = none) :
    ofMethod method withBytes = stopped .noBody (appendHeading method (.ofString "")) := by
  rw [ofMethod, absent]
  rfl

theorem ofMethod_codes (present : method.body = some data) (short : HasWritableNumbers method)
    {codes : List Code} (cut : data.toList = Code.joined codes)
    (readable : ∀ code ∈ codes, code.IsReadable method.resolver) :
    ofMethod method withBytes =
      .ok ⟨headingText method ++ openingText method ++
          linesText withBytes (Code.instructionsFrom method.resolver 0 codes) ++ "\x7d\n",
        some codes.length, none⟩ := by
  have enough : codes.length ≤ (between [] (Code.joined codes) 0).length := by
    rw [length_between, List.length_nil, Nat.zero_add]
    exact Code.length_le_length_joined codes
  rcases appendPreamble_ok (between [] (Code.joined codes) 0)
    (appendHeading method (.ofString "")) short with ⟨opened, opening, openingShown⟩
  rcases appendInstructions_codes method withBytes readable enough 0 [] 0 opened with
    ⟨cursor, written, run, shown⟩
  have body : appendBody method withBytes
      ⟨between [] (Code.joined codes) 0, appendHeading method (.ofString "")⟩ =
        (.ok codes.length, ⟨cursor, written.appendLine "\x7d"⟩) := by
    rw [appendBody, bind_of_ok opening, get_bind, bind_of_ok run, Write.writing_bind, pure_apply,
      Nat.zero_add]
  rw [ofMethod, present, openAt_zero, cut]
  dsimp only
  rw [body]
  simp [shown, openingShown, toString_appendHeading, String.append_assoc]

theorem ofMethod_halts (present : method.body = some data) (short : HasWritableNumbers method)
    {codes : List Code} {rest : List UInt8} (cut : data.toList = Code.joined codes ++ rest)
    (readable : ∀ code ∈ codes, code.IsReadable method.resolver) {known : Option Opcode}
    {error : DecodeError}
    (halts : Halts method.resolver (Code.joined codes).length data.size rest known error) :
    ∃ written, ofMethod method withBytes = stopped error written ∧
      written.toString = headingText method ++ openingText method ++
        linesText withBytes (Code.instructionsFrom method.resolver 0 codes) ++
        "  " ++ Hex.signed 4 (Code.joined codes).length ++ ": " ++ Instruction.partText known := by
  have more : codes.length < (between [] (Code.joined codes ++ rest) 0).length := by
    rw [length_between, List.length_nil, Nat.zero_add]
    exact Code.length_lt_length_joined_append codes halts.ne_nil
  rw [Method.size_of_cut cut] at halts
  rcases appendPreamble_ok (between [] (Code.joined codes ++ rest) 0)
    (appendHeading method (.ofString "")) short with ⟨opened, opening, openingShown⟩
  rcases appendInstructions_halts method withBytes readable more 0 [] 0 halts opened with
    ⟨cursor, written, run, shown⟩
  have body : appendBody method withBytes
      ⟨between [] (Code.joined codes ++ rest) 0, appendHeading method (.ofString "")⟩ =
        (.error error, ⟨cursor, written⟩) := by
    rw [appendBody, bind_of_ok opening, get_bind, bind_of_error run]
  refine ⟨written, ?_, ?_⟩
  · rw [ofMethod, present, openAt_zero, cut]
    dsimp only
    rw [body]
  · simp [shown, openingShown, toString_appendHeading, String.append_assoc]

end Body

/-! ## Two views of one decoding -/

/--
A listing shows what disassembly gives: the lines of all records, or the reason why reading ends, and
behind it the lines of the records before that place and the mnemonic there if the opcode is known.
-/
structure Shows (listing : Listing) : Prop where
  complete : listing.failure = none ↔ ∃ records, method.disassemble = .ok records
  whole : ∀ records, method.disassemble = .ok records →
    listing.count = some records.length ∧
    ∃ lines, List.Forall₂ (IsLine withBytes) records lines ∧
      listing.text =
        headingText method ++ openingText method ++ String.join lines ++ "\x7d\n"
  cut : ∀ error, method.disassemble = .error error →
    listing.failure = some error ∧ listing.count = none ∧
    ∃ reason, error.message = .ok reason ∧
      (method.body = none → listing.text = reason ++ "\n" ++ headingText method) ∧
      ∀ data, method.body = some data → ∃ front rest records lines known digits,
        data.toList = front ++ rest ∧
        ({ method with body := some front.toArray } : Method).disassemble = .ok records ∧
        Halts method.resolver front.length data.size rest known error ∧
        List.Forall₂ (IsLine withBytes) records lines ∧
        Hex.IsNumeral digits front.length ∧
        listing.text =
          reason ++ "\n" ++ headingText method ++ openingText method ++ String.join lines ++
            "  " ++ digits ++ ": " ++ Instruction.partText known

section Views

variable {method : Method} (withBytes : Bool)

theorem body_of_ok {records : List Instruction} (ok : method.disassemble = .ok records) :
    ¬ method.body = none := by
  intro absent
  rw [Method.disassemble_noBody absent] at ok
  cases ok

theorem ofMethod_of_ok {records : List Instruction} (short : HasWritableNumbers method)
    (ok : method.disassemble = .ok records) :
    ofMethod method withBytes =
        .ok ⟨headingText method ++ openingText method ++ linesText withBytes records ++ "\x7d\n",
          some records.length, none⟩ ∧
      List.Forall₂ (IsLine withBytes) records (records.map (lineText withBytes)) := by
  cases present : method.body with
  | none => exact absurd present (body_of_ok ok)
  | some data =>
      rcases Method.codes_of_disassemble_ok present ok with ⟨codes, cut, readable, rfl⟩
      rw [ofMethod_codes withBytes present short cut readable, Code.length_instructionsFrom]
      exact ⟨rfl, areLines_instructionsFrom withBytes method.resolver 0 codes⟩

/-- Where disassembly fails, the listing stops for the same reason. -/
theorem ofMethod_of_error {error : DecodeError}
    (short : method.body = none ∨ HasWritableNumbers method)
    (failed : method.disassemble = .error error) :
    ∃ written, ofMethod method withBytes = stopped error written ∧
      (method.body = none → written.toString = headingText method) ∧
      ∀ data, method.body = some data → ∃ front rest records lines known digits,
        data.toList = front ++ rest ∧
        ({ method with body := some front.toArray } : Method).disassemble = .ok records ∧
        Halts method.resolver front.length data.size rest known error ∧
        List.Forall₂ (IsLine withBytes) records lines ∧
        Hex.IsNumeral digits front.length ∧
        written.toString = headingText method ++ openingText method ++ String.join lines ++
          "  " ++ digits ++ ": " ++ Instruction.partText known := by
  cases present : method.body with
  | none =>
      rw [Method.disassemble_noBody present] at failed
      cases failed
      exact ⟨_, ofMethod_noBody withBytes present, by simp [toString_appendHeading], by simp⟩
  | some data =>
      have short : HasWritableNumbers method := short.resolve_left (by simp [present])
      rcases Method.codes_of_disassemble_error present failed with
        ⟨codes, rest, known, cut, readable, halts⟩
      rcases ofMethod_halts withBytes present short cut readable halts with ⟨written, run, shown⟩
      refine ⟨written, run, by simp, ?_⟩
      rintro _ ⟨⟩
      exact ⟨Code.joined codes, rest, Code.instructionsFrom method.resolver 0 codes, _, known,
        Hex.padded 4 (Code.joined codes).length, cut, Method.disassemble_codes rfl rfl readable,
        halts, areLines_instructionsFrom withBytes method.resolver 0 codes,
        Hex.isNumeral_padded _, shown⟩

theorem exists_message_of_told {error : DecodeError} (told : FailuresAreTold method.resolver)
    (failed : method.disassemble = .error error) : ∃ reason, error.message = .ok reason := by
  cases present : method.body with
  | none =>
      rw [Method.disassemble_noBody present] at failed
      cases failed
      exact ⟨_, rfl⟩
  | some data =>
      rcases Method.codes_of_disassemble_error present failed with ⟨_, _, _, _, _, halts⟩
      exact (halts.stops_of_told told).exists_message

theorem shows_of_ok {listing : Listing} (short : method.body = none ∨ HasWritableNumbers method)
    (listed : ofMethod method withBytes = .ok listing) : Shows method withBytes listing := by
  cases run : method.disassemble with
  | ok records =>
      rcases ofMethod_of_ok withBytes (short.resolve_left (body_of_ok run)) run with ⟨whole, lines⟩
      rw [whole] at listed
      cases listed
      refine ⟨by simp [run], ?_, by simp [run]⟩
      intro shown same
      cases run.symm.trans same
      exact ⟨rfl, _, lines, rfl⟩
  | error error =>
      rcases ofMethod_of_error withBytes short run with ⟨written, stop, noBody, cut⟩
      rw [stop] at listed
      cases told : error.message with
      | error failure =>
          rw [stopped_of_untold told] at listed
          cases listed
      | ok reason =>
          rw [stopped_of_told told] at listed
          cases listed
          refine ⟨by simp [run], by simp [run], ?_⟩
          intro other same
          cases run.symm.trans same
          refine ⟨rfl, rfl, reason, told, fun absent => by rw [noBody absent], ?_⟩
          intro data present
          rcases cut data present with
            ⟨front, rest, records, lines, known, digits, split, before, halts, shown, place, text⟩
          refine ⟨front, rest, records, lines, known, digits, split, before, halts, shown, place, ?_⟩
          simp [text, String.append_assoc]

/-- A listing is missing only for a reason that has no text. -/
theorem untold_of_missing {failure : HostFailure}
    (short : method.body = none ∨ HasWritableNumbers method)
    (missing : ofMethod method withBytes = .error failure) :
    ∃ error, method.disassemble = .error error ∧ error.message = .error failure := by
  cases run : method.disassemble with
  | ok records =>
      rw [(ofMethod_of_ok withBytes (short.resolve_left (body_of_ok run)) run).1] at missing
      cases missing
  | error error =>
      rcases ofMethod_of_error withBytes short run with ⟨written, stop, _⟩
      rw [stop] at missing
      refine ⟨error, rfl, ?_⟩
      cases told : error.message with
      | error other =>
          rw [stopped_of_untold told] at missing
          cases missing
          rfl
      | ok reason =>
          rw [stopped_of_told told] at missing
          cases missing

theorem exists_shows_of_told (short : method.body = none ∨ HasWritableNumbers method)
    (told : FailuresAreTold method.resolver) :
    ∃ listing, ofMethod method withBytes = .ok listing ∧ Shows method withBytes listing := by
  cases listed : ofMethod method withBytes with
  | ok listing => exact ⟨listing, rfl, shows_of_ok withBytes short listed⟩
  | error failure =>
      rcases untold_of_missing withBytes short listed with ⟨error, failed, untold⟩
      rcases exists_message_of_told told failed with ⟨reason, message⟩
      rw [untold] at message
      cases message

end Views

end Listing

end CilTrace
