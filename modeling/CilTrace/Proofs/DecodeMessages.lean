import CilTrace.Proofs.ListingText
import CilTrace.Proofs.NumberTexts
import CilTrace.Proofs.Snippets

/-!
Messages about a body.

Where every failure to name a token has a text, decoding a body stops only for reasons that lie in
the body, wherever it begins. What is then said has no escape character, so that no control sequence
can begin in it.
-/

namespace CilTrace

namespace Text

def HasNoEscape (text : String) : Prop :=
  '\x1b' ∉ text.toList

instance (text : String) : Decidable (HasNoEscape text) :=
  inferInstanceAs (Decidable ('\x1b' ∉ text.toList))

theorem HasNoEscape.append {left right : String} (leftFree : HasNoEscape left)
    (rightFree : HasNoEscape right) : HasNoEscape (left ++ right) := by
  simpa [HasNoEscape, String.toList_append] using And.intro leftFree rightFree

theorem IsWord.hasNoEscape {text : String} (word : IsWord text) : HasNoEscape text :=
  word.notMem (by decide)

end Text

namespace DecodeError

open Text

/-- An error that lies in a body, by what is said about it. -/
structure IsInBody (error : DecodeError) (reason : String) : Prop where
  about : error.isAboutBody = true
  message : error.message = .ok reason
  plain : HasNoEscape reason

theorem hasNoEscape_place (position : Option Int) : HasNoEscape (place position) := by
  cases position with
  | none => decide
  | some position =>
      have shown := (Hex.isWord_signed 4 position).hasNoEscape
      exact .append (.append (by decide) shown) (by decide)

theorem isInBody_noBody : ∃ reason, IsInBody .noBody reason :=
  ⟨_, rfl, rfl, by decide⟩

theorem isInBody_outside (offset : Int) (length : Nat) :
    ∃ reason, IsInBody (.outside offset length) reason := by
  refine ⟨_, rfl, rfl, ?_⟩
  have shown := (Numeral.isWord_decimal offset).hasNoEscape
  have size := (Numeral.isWord_repr length).hasNoEscape
  have front : HasNoEscape ("offset " ++ Numeral.decimal offset ++ " is outside the ") :=
    .append (.append (by decide) shown) (by decide)
  exact .append (.append (.append front size) (by decide)) (hasNoEscape_place (some offset))

theorem isInBody_unknownOpcode (number : Int) (position : Option Int) :
    ∃ reason, IsInBody (.unknownOpcode number position) reason :=
  ⟨_, rfl, rfl, .append (.append (by decide) (Hex.isWord_signed _ number).hasNoEscape)
    (hasNoEscape_place position)⟩

theorem isInBody_outOfBounds (needed position length : Int) :
    ∃ reason, IsInBody (.outOfBounds needed position length) reason := by
  refine ⟨_, rfl, rfl, ?_⟩
  have decimal (number : Int) := (Numeral.isWord_decimal number).hasNoEscape
  have missing : HasNoEscape ("need " ++ Numeral.decimal needed ++ " byte(s) but only ") :=
    .append (.append (by decide) (decimal needed)) (by decide)
  have left := (missing.append (decimal (max (length - position) 0))).append
    (by decide : HasNoEscape " remain in ")
  exact .append (.append (left.append (decimal length)) (by decide))
    (hasNoEscape_place (some position))

end DecodeError

theorem Stops.isInBody {offset length : Nat} {rest : List UInt8} {known : Option Opcode}
    {error : DecodeError} (stops : Stops offset length rest known error) :
    ∃ reason, error.IsInBody reason := by
  rcases stops.error_cases with ⟨number, rfl⟩ | ⟨needed, position, rfl⟩
  · exact DecodeError.isInBody_unknownOpcode number (some offset)
  · exact DecodeError.isInBody_outOfBounds needed position length

open Cursor

/-- Reading inside a body goes on inside it, or stops. -/
theorem Instruction.read_between_cases {resolver : Option Resolver}
    (told : FailuresAreTold resolver) (before rest : List UInt8) (start : Int) :
    (∃ record after left newStart,
      read resolver (between before rest start) = (.ok record, between after left newStart)) ∨
    ∃ known error reached, Stops before.length (before.length + rest.length) rest known error ∧
      read resolver (between before rest start) = (.error error, reached) := by
  by_cases ended : rest = []
  · subst ended
    exact .inl ⟨none, before, [], start, read_end resolver before start⟩
  · rcases readable_or_halts resolver before.length (before.length + rest.length) ended with
      ⟨code, behind, readable, rfl⟩ | ⟨known, error, halts⟩
    · exact .inl ⟨_, _, _, _, read_code readable before behind start⟩
    · rcases read_halts before start halts with ⟨reached, run⟩
      exact .inr ⟨known, error, reached, halts.stops_of_told told, run⟩

theorem Snippet.isInBody_of_after {resolver : Option Resolver} (told : FailuresAreTold resolver)
    {withBytes : Bool} {before rest : List UInt8} {start : Int} {text : String}
    {error : DecodeError}
    (failed : (after resolver withBytes (between before rest start) text).2 = some error) :
    ∃ reason, error.IsInBody reason := by
  rw [after] at failed
  rcases Instruction.read_between_cases told before rest start with
    ⟨first, middle, left, newStart, run⟩ | ⟨known, error, reached, stops, run⟩
  · rcases Instruction.read_between_cases told middle left newStart with
      ⟨second, _, _, _, next⟩ | ⟨known, error, reached, stops, next⟩
    · simp [run, next] at failed
    · simp only [run, next, Option.some.injEq] at failed
      subst failed
      exact stops.isInBody
  · simp only [run, Option.some.injEq] at failed
    subst failed
    exact stops.isInBody

namespace Method

variable {method : Method} {error : DecodeError}

theorem isInBody_of_disassemble_error (told : FailuresAreTold method.resolver)
    (failed : method.disassemble = .error error) : ∃ reason, error.IsInBody reason := by
  cases present : method.body with
  | none =>
      rw [disassemble_noBody present] at failed
      cases failed
      exact DecodeError.isInBody_noBody
  | some data =>
      rcases codes_of_disassemble_error present failed with ⟨_, _, _, _, _, halts⟩
      exact (halts.stops_of_told told).isInBody

theorem isInBody_of_appendSnippet (told : FailuresAreTold method.resolver) {offset : Int}
    (placed : Numeral.isWritable offset = true ∨ ∃ cursor, openAt method.body offset = .ok cursor)
    {withBytes : Bool} {buffer : TextBuffer}
    (failed : (method.appendSnippet offset withBytes buffer).2 = some error) :
    ∃ reason, error.IsInBody reason := by
  cases opened : openAt method.body offset with
  | error reason =>
      simp only [appendSnippet, opened, Option.some.injEq] at failed
      subst failed
      have short : Numeral.isWritable offset = true := by
        rcases placed with short | ⟨cursor, same⟩
        · exact short
        · cases opened.symm.trans same
      unfold openAt at opened
      split at opened
      · cases opened
        exact DecodeError.isInBody_noBody
      · split at opened
        · cases opened
        · rw [← Except.error.inj opened, DecodeError.misplaced, if_pos short]
          exact DecodeError.isInBody_outside _ _
  | ok cursor =>
      have shown := congrArg Prod.snd (appendSnippet_of_openAt opened withBytes buffer)
      rcases exists_between_of_openAt opened with ⟨before, rest, _, rfl⟩
      exact Snippet.isInBody_of_after told (shown.symm.trans failed)

end Method

/-- What stops a listing lies in the body. -/
theorem Listing.Shows.isInBody {method : Method} {withBytes : Bool} {listing : Listing}
    (shows : Shows method withBytes listing) (told : FailuresAreTold method.resolver) :
    ∀ error ∈ listing.failure, ∃ reason, error.IsInBody reason := by
  intro error stopped
  cases decoded : method.disassemble with
  | ok records => cases (shows.complete.mpr ⟨records, decoded⟩).symm.trans stopped
  | error other =>
      cases (shows.cut other decoded).1.symm.trans stopped
      exact Method.isInBody_of_disassemble_error told decoded

end CilTrace
