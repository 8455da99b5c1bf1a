import CilTrace.Trace
import CilTrace.Proofs.Snippets

/-!
The line of a call frame.

A snippet at the end of a body trims spaces off the text before it. In a trace these are spaces of
the frame's own line, so a line is the same whatever stands before it. A line is left unfinished only
by a failure that has no text.
-/

namespace CilTrace

open Cursor

/-! ## Snippets behind a text -/

namespace Snippet

/-- What a snippet leaves of a text does not hang on what stands before a visible character. -/
theorem after_append (resolver : Option Resolver) (withBytes : Bool) (cursor : Cursor)
    {text : String} (visible : ∃ kept ∈ text.toList, kept ≠ ' ') (front : String) :
    after resolver withBytes cursor (front ++ text) =
      Prod.map (front ++ ·) id (after resolver withBytes cursor text) := by
  unfold after
  rcases Instruction.read resolver cursor with ⟨error | first, next⟩
  · simp [String.append_assoc]
  · dsimp only
    rcases Instruction.read resolver next with ⟨error | second, reached⟩
    · simp [String.append_assoc]
    · have longer : ∃ kept ∈ (text ++ Instruction.addedText withBytes (some "; ") first ++
          Instruction.addedText withBytes (some ";") second).toList, kept ≠ ' ' := by
        rcases visible with ⟨kept, member, different⟩
        exact ⟨kept, by simp [member], different⟩
      have trimmed := Text.trimEndOf_append longer front
      simp only [String.append_assoc] at trimmed ⊢
      simp [trimmed]

theorem shown_ne_empty (withBytes : Bool) (record : Instruction) (next : Option Instruction) :
    shown withBytes record next ≠ "" := by
  cases next <;> simp [shown]

end Snippet

namespace Method

/-- What the snippet at an offset leaves of a text, and the error if it fails. -/
def snippetAfter (method : Method) (offset : Int) (withBytes : Bool) (text : String) :
    String × Option DecodeError :=
  match openAt method.body offset with
  | .error error => (text, some error)
  | .ok cursor => Snippet.after method.resolver withBytes cursor text

theorem appendSnippet_eq (method : Method) (offset : Int) (withBytes : Bool) (buffer : TextBuffer) :
    Prod.map TextBuffer.toString id (method.appendSnippet offset withBytes buffer) =
      method.snippetAfter offset withBytes buffer.toString := by
  cases opened : openAt method.body offset with
  | error error => simp [appendSnippet, snippetAfter, opened]
  | ok cursor =>
      rw [appendSnippet_of_openAt opened, snippetAfter, opened]

theorem snippetAfter_append (method : Method) (offset : Int) (withBytes : Bool) {text : String}
    (visible : ∃ kept ∈ text.toList, kept ≠ ' ') (front : String) :
    method.snippetAfter offset withBytes (front ++ text) =
      Prod.map (front ++ ·) id (method.snippetAfter offset withBytes text) := by
  unfold snippetAfter
  cases openAt method.body offset with
  | error error => rfl
  | ok cursor => exact Snippet.after_append method.resolver withBytes cursor visible front

/--
How the snippet at an offset fails: there is no body, the offset lies behind its end, or reading ends
at the offset or behind the instruction there. The text is what stays written.
-/
inductive SnippetFails (method : Method) (withBytes : Bool) (offset : Int) :
    String → DecodeError → Prop where
  | noBody (missing : method.body = none) : SnippetFails method withBytes offset "" .noBody
  | outside (data : Array UInt8) (present : method.body = some data) (beyond : data.size < offset) :
      SnippetFails method withBytes offset "" (.misplaced offset data.size)
  | first (data : Array UInt8) (before rest : List UInt8) (known : Option Opcode)
      (error : DecodeError) (present : method.body = some data)
      (cut : data.toList = before ++ rest) (place : offset = before.length)
      (halts : Halts method.resolver before.length data.size rest known error) :
      SnippetFails method withBytes offset (Instruction.partText known) error
  | second (data : Array UInt8) (before : List UInt8) (code : Code) (rest : List UInt8)
      (known : Option Opcode) (error : DecodeError) (present : method.body = some data)
      (cut : data.toList = before ++ (code.bytes ++ rest)) (place : offset = before.length)
      (readable : code.IsReadable method.resolver)
      (halts : Halts method.resolver (before.length + code.bytes.length) data.size rest known
        error) :
      SnippetFails method withBytes offset
        ((code.instructionAt method.resolver before.length).text withBytes ++ "; " ++
          Instruction.partText known) error

variable {method : Method} {withBytes : Bool} {offset : Int}

theorem snippetAfter_of_cut {data : Array UInt8} {before rest : List UInt8}
    (present : method.body = some data) (cut : data.toList = before ++ rest)
    (place : offset = before.length) (text : String) :
    method.snippetAfter offset withBytes text =
      Snippet.after method.resolver withBytes (between before rest before.length) text := by
  rw [snippetAfter, present, place, openAt_of_cut cut]

theorem snippetAfter_of_fails {part : String} {cause : DecodeError}
    (fails : method.SnippetFails withBytes offset part cause) (text : String) :
    method.snippetAfter offset withBytes text = (text ++ part, some cause) := by
  cases fails with
  | noBody missing =>
      rw [snippetAfter, missing]
      simp [openAt]
  | outside data present beyond =>
      have outside : ¬ (0 ≤ offset ∧ offset ≤ data.size) := by omega
      rw [snippetAfter, present, openAt]
      simp [outside]
  | first data before rest known _ present cut place halts =>
      rw [size_of_cut cut] at halts
      rcases Instruction.read_halts before before.length halts with ⟨reached, run⟩
      rw [snippetAfter_of_cut present cut place, Snippet.after, run]
      dsimp only
      rw [halts.opcode?_between]
  | second data before code rest known _ present cut place readable halts =>
      have size : data.size = (before ++ code.bytes).length + rest.length := by
        rw [size_of_cut cut]
        simp [Nat.add_assoc]
      rw [size, ← List.length_append] at halts
      rcases Instruction.read_halts (before ++ code.bytes) before.length halts with ⟨reached, run⟩
      rw [snippetAfter_of_cut present cut place, Snippet.after, Instruction.read_code readable]
      dsimp only
      rw [run]
      dsimp only
      rw [halts.opcode?_between]
      simp [Instruction.addedText, String.append_assoc]

theorem snippetAfter_of_two {data : Array UInt8} {before : List UInt8} {code : Code}
    {rest : List UInt8} {next : Option Instruction} {reached : Cursor}
    (present : method.body = some data) (cut : data.toList = before ++ (code.bytes ++ rest))
    (place : offset = before.length) (readable : code.IsReadable method.resolver)
    (run : Instruction.read method.resolver
      (between (before ++ code.bytes) rest before.length) = (.ok next, reached)) (text : String) :
    method.snippetAfter offset withBytes text =
      (text ++ Snippet.shown withBytes (code.instructionAt method.resolver before.length) next,
        none) := by
  rw [snippetAfter_of_cut present cut place, Snippet.after, Instruction.read_code readable]
  dsimp only
  rw [run]
  dsimp only
  rw [Snippet.trimEndOf_added]

theorem snippetAfter_at_end {data : Array UInt8} (present : method.body = some data)
    (place : offset = data.size) (text : String) :
    method.snippetAfter offset withBytes text = (Text.trimEndOf ' ' text, none) := by
  have cut : data.toList = data.toList ++ [] := (List.append_nil _).symm
  rw [snippetAfter_of_cut present cut (by simpa using place), ← Code.joined_nil,
    Snippet.after_codes withBytes (by simp)]
  simp [Code.instructionsFrom, Instruction.addedText]

/-- A snippet fails, or stands at the end of the body, or shows something. -/
theorem snippet_cases (method : Method) (withBytes : Bool) (inside : 0 ≤ offset) :
    (∃ part cause, method.SnippetFails withBytes offset part cause) ∨
      (∃ data, method.body = some data ∧ offset = data.size) ∨
      ∃ shown ≠ "", ∀ text, method.snippetAfter offset withBytes text = (text ++ shown, none) := by
  cases present : method.body with
  | none => exact .inl ⟨_, _, .noBody present⟩
  | some data =>
      by_cases beyond : data.size < offset
      · exact .inl ⟨_, _, .outside data present beyond⟩
      -- The body is cut at the offset, and what is left is cut behind an instruction.
      let before := data.toList.take offset.toNat
      let rest := data.toList.drop offset.toNat
      have cut : data.toList = before ++ rest := (List.take_append_drop _ _).symm
      have place : offset = before.length := by
        simp only [before, List.length_take, Array.length_toList]
        omega
      by_cases ended : rest = []
      · have size := size_of_cut cut
        rw [ended, List.length_nil] at size
        exact .inr (.inl ⟨data, rfl, by omega⟩)
      rcases readable_or_halts method.resolver before.length data.size ended with
        ⟨code, behind, readable, split⟩ | ⟨known, error, halts⟩
      · rw [split] at cut
        by_cases last : behind = []
        · have run := Instruction.read_end method.resolver (before ++ code.bytes) before.length
          rw [← last] at run
          exact .inr (.inr ⟨_, Snippet.shown_ne_empty _ _ _,
            snippetAfter_of_two present cut place readable run⟩)
        rcases readable_or_halts method.resolver (before.length + code.bytes.length) data.size last
          with ⟨next, left, nextReadable, nextSplit⟩ | ⟨known, error, halts⟩
        · have run := Instruction.read_code nextReadable (before ++ code.bytes) left before.length
          rw [← nextSplit] at run
          exact .inr (.inr ⟨_, Snippet.shown_ne_empty _ _ _,
            snippetAfter_of_two present cut place readable run⟩)
        · exact .inl ⟨_, _, .second data before code behind known error present cut place readable
            halts⟩
      · exact .inl ⟨_, _, .first data before rest known error present cut place halts⟩

/-- Where every failure has a text, so has the error of a snippet. -/
theorem SnippetFails.exists_message {part : String} {cause : DecodeError}
    (fails : method.SnippetFails withBytes offset part cause)
    (told : FailuresAreTold method.resolver) : ∃ reason, cause.message = .ok reason := by
  cases fails with
  | noBody missing => exact ⟨_, rfl⟩
  | outside data present beyond =>
      rw [DecodeError.misplaced]
      split <;> exact ⟨_, rfl⟩
  | first data before rest known _ present cut place halts =>
      exact (halts.stops_of_told told).exists_message
  | second data before code rest known _ present cut place readable halts =>
      exact (halts.stops_of_told told).exists_message

end Method

/-! ## Snippets of call frames -/

namespace CallFrame

/-- What the snippet of a frame leaves of a text, and the error if it fails. -/
def snippetAfter (frame : CallFrame) (withBytes : Bool) (text : String) :
    String × Option DecodeError :=
  match frame.snippetOffset? with
  | none => (text, none)
  | some offset =>
      match frame.method with
      | none => (text, some (.noMethod frame.methodName))
      | some method => method.snippetAfter offset withBytes text

theorem appendSnippet_eq (frame : CallFrame) (withBytes : Bool) (buffer : TextBuffer) :
    Prod.map TextBuffer.toString id (frame.appendSnippet withBytes buffer) =
      frame.snippetAfter withBytes buffer.toString := by
  unfold appendSnippet snippetAfter
  cases frame.snippetOffset? with
  | none => rfl
  | some offset =>
      cases frame.method with
      | none => rfl
      | some method => exact method.appendSnippet_eq offset withBytes buffer

theorem snippetAfter_append (frame : CallFrame) (withBytes : Bool) {text : String}
    (visible : ∃ kept ∈ text.toList, kept ≠ ' ') (front : String) :
    frame.snippetAfter withBytes (front ++ text) =
      Prod.map (front ++ ·) id (frame.snippetAfter withBytes text) := by
  unfold snippetAfter
  cases frame.snippetOffset? with
  | none => rfl
  | some offset =>
      cases frame.method with
      | none => rfl
      | some method => exact method.snippetAfter_append offset withBytes visible front

/-- How the snippet of a frame fails. -/
inductive SnippetFails (frame : CallFrame) (withBytes : Bool) : String → DecodeError → Prop where
  | noMethod (offset : Int) (numbered : frame.offset = some offset) (positive : 0 < offset)
      (missing : frame.method = none) :
      SnippetFails frame withBytes "" (.noMethod frame.methodName)
  | method (offset : Int) (method : Method) (part : String) (cause : DecodeError)
      (numbered : frame.offset = some offset) (positive : 0 < offset)
      (known : frame.method = some method)
      (fails : method.SnippetFails withBytes offset part cause) :
      SnippetFails frame withBytes part cause

/-- Whether every failure to name a token of the method has a text. -/
def TellsFailures (frame : CallFrame) : Prop :=
  ∀ method, frame.method = some method → FailuresAreTold method.resolver

variable {frame : CallFrame} {withBytes : Bool} {offset : Int}

theorem snippetOffset?_eq_some (numbered : frame.offset = some offset) (positive : 0 < offset) :
    frame.snippetOffset? = some offset := by
  simp [snippetOffset?, numbered, positive]

theorem snippetOffset?_eq_none (early : ∀ offset, frame.offset = some offset → offset ≤ 0) :
    frame.snippetOffset? = none := by
  rw [snippetOffset?, Option.filter_eq_none_iff]
  intro offset numbered
  simpa using early offset numbered

theorem snippetAfter_of_method {method : Method} (numbered : frame.offset = some offset)
    (positive : 0 < offset) (known : frame.method = some method) (text : String) :
    frame.snippetAfter withBytes text = method.snippetAfter offset withBytes text := by
  simp [snippetAfter, snippetOffset?_eq_some numbered positive, known]

theorem snippetAfter_of_fails {part : String} {cause : DecodeError}
    (fails : frame.SnippetFails withBytes part cause) (text : String) :
    frame.snippetAfter withBytes text = (text ++ part, some cause) := by
  cases fails with
  | noMethod offset numbered positive missing =>
      simp [snippetAfter, snippetOffset?_eq_some numbered positive, missing]
  | method offset method _ _ numbered positive known fails =>
      rw [snippetAfter_of_method numbered positive known, Method.snippetAfter_of_fails fails]

theorem snippetAfter_early (early : ∀ offset, frame.offset = some offset → offset ≤ 0)
    (text : String) : frame.snippetAfter withBytes text = (text, none) := by
  simp [snippetAfter, snippetOffset?_eq_none early]

theorem snippet_cases (frame : CallFrame) (withBytes : Bool) (numbered : frame.offset = some offset)
    (positive : 0 < offset) :
    (∃ part cause, frame.SnippetFails withBytes part cause) ∨
      (∃ method data, frame.method = some method ∧ method.body = some data ∧
        offset = data.size) ∨
      ∃ shown ≠ "", ∀ text, frame.snippetAfter withBytes text = (text ++ shown, none) := by
  cases known : frame.method with
  | none => exact .inl ⟨_, _, .noMethod offset numbered positive known⟩
  | some method =>
      rcases method.snippet_cases withBytes (Int.le_of_lt positive) with
        ⟨part, cause, fails⟩ | ⟨data, present, place⟩ | ⟨shown, visible, after⟩
      · exact .inl ⟨_, _, .method offset method part cause numbered positive known fails⟩
      · exact .inr (.inl ⟨method, data, rfl, present, place⟩)
      · refine .inr (.inr ⟨shown, visible, ?_⟩)
        intro text
        rw [snippetAfter_of_method numbered positive known, after]

theorem fails_of_snippetAfter {text written : String} {cause : DecodeError}
    (after : frame.snippetAfter withBytes text = (written, some cause)) :
    ∃ part, frame.SnippetFails withBytes part cause := by
  by_cases early : ∀ offset, frame.offset = some offset → offset ≤ 0
  · rw [snippetAfter_early early] at after
    cases after
  · simp only [not_forall, Int.not_le] at early
    rcases early with ⟨offset, numbered, positive⟩
    rcases frame.snippet_cases withBytes numbered positive with
      ⟨part, other, fails⟩ | ⟨method, data, known, present, place⟩ | ⟨shown, _, whole⟩
    · rw [snippetAfter_of_fails fails] at after
      cases after
      exact ⟨part, fails⟩
    · rw [snippetAfter_of_method numbered positive known,
        Method.snippetAfter_at_end present place] at after
      cases after
    · rw [whole] at after
      cases after

/-- Whether the error of a snippet has a text, if there is one. -/
def SaysErrors (frame : CallFrame) : Prop :=
  ∀ withBytes part cause, frame.SnippetFails withBytes part cause →
    ∃ reason, cause.message = .ok reason

theorem TellsFailures.saysErrors (told : frame.TellsFailures) : frame.SaysErrors := by
  intro withBytes part cause fails
  cases fails with
  | noMethod offset numbered positive missing => exact ⟨_, rfl⟩
  | method offset method _ _ numbered positive known fails =>
      exact fails.exists_message (told method known)

/-! ## Lines -/

/-- What a line names first. -/
def nameText (frame : CallFrame) : String :=
  "  in " ++ frame.declaringType.getD "" ++ "." ++ frame.methodName

/-- What a line has before its snippet, and the error if a number in it cannot be written. -/
def opening (frame : CallFrame) : String × Option NumeralError :=
  match frame.locationText, frame.offsetText with
  | .error error, _ => (frame.nameText, some error)
  | .ok location, .error error => (frame.nameText ++ location ++ ", ", some error)
  | .ok location, .ok offset => (frame.nameText ++ location ++ ", " ++ offset, none)

theorem appendOpening_eq (frame : CallFrame) (buffer : TextBuffer) :
    Prod.map TextBuffer.toString id (frame.appendOpening buffer) =
      Prod.map (buffer.toString ++ ·) id frame.opening := by
  unfold appendOpening opening
  cases frame.locationText with
  | error error => simp [nameText]
  | ok location =>
      cases frame.offsetText with
      | error error => simp [nameText, String.append_assoc]
      | ok offset => simp [nameText, String.append_assoc]

theorem opening_visible (frame : CallFrame) :
    ∃ kept ∈ frame.opening.1.toList, kept ≠ ' ' := by
  refine ⟨'.', ?_, by decide⟩
  unfold opening
  split <;> simp [nameText]

/-- How a line ends behind what is written of its snippet; an error without a text ends it not. -/
def ended (written : String) : Option DecodeError → String × Option HostFailure
  | none => (written ++ "\n", none)
  | some error =>
      match error.message with
      | .ok reason => (written ++ reason ++ "\n", none)
      | .error failure => (written, some failure)

/-- The line of a frame, and the failure if it has no end. -/
def shownLine (frame : CallFrame) : String × Option HostFailure :=
  match frame.opening with
  | (opened, some error) => (opened ++ error.message ++ "\n", none)
  | (opened, none) =>
      let written := frame.snippetAfter false opened
      ended written.1 written.2

theorem ended_append (front written : String) (cause : Option DecodeError) :
    ended (front ++ written) cause = Prod.map (front ++ ·) id (ended written cause) := by
  cases cause with
  | none => simp [ended, String.append_assoc]
  | some error =>
      simp only [ended]
      cases error.message <;> simp [String.append_assoc]

theorem appendLine_eq (frame : CallFrame) (buffer : TextBuffer) :
    Prod.map TextBuffer.toString id (frame.appendLine buffer) =
      Prod.map (buffer.toString ++ ·) id frame.shownLine := by
  have opened := frame.appendOpening_eq buffer
  have visible := frame.opening_visible
  unfold appendLine shownLine
  generalize frame.appendOpening buffer = result at opened ⊢
  generalize frame.opening = opening at opened visible ⊢
  rcases result with ⟨written, stop⟩
  rcases opening with ⟨text, error⟩
  have shown : written.toString = buffer.toString ++ text := congrArg Prod.fst opened
  have same : stop = error := congrArg Prod.snd opened
  subst same
  cases stop with
  | some error => simp [endLine, shown, String.append_assoc]
  | none =>
      have snippet := frame.appendSnippet_eq false written
      rw [shown, snippetAfter_append frame false visible] at snippet
      dsimp only at snippet ⊢
      generalize frame.snippetAfter false text = after at snippet ⊢
      generalize frame.appendSnippet false written = left at snippet ⊢
      rcases after with ⟨behind, cause⟩
      rcases left with ⟨left, stop⟩
      have same : stop = cause := congrArg Prod.snd snippet
      have text : left.toString = buffer.toString ++ behind := congrArg Prod.fst snippet
      subst same
      rw [← ended_append, ← text]
      cases stop with
      | none => simp [ended, endLine]
      | some error =>
          simp only [ended]
          cases error.message <;> simp [endLine, String.append_assoc]

/-- The line of a frame, as far as it can be written. -/
def lineText (frame : CallFrame) : String :=
  frame.shownLine.1

/-- The failure that leaves the line of a frame without an end. -/
def lineFailure (frame : CallFrame) : Option HostFailure :=
  frame.shownLine.2

/-- Where the error of its snippet has a text, the line of a frame has an end. -/
theorem lineFailure_of_said {frame : CallFrame} (said : frame.SaysErrors) :
    frame.lineFailure = none := by
  unfold lineFailure shownLine
  rcases frame.opening with ⟨opened, _ | error⟩
  · dsimp only
    rcases after : frame.snippetAfter false opened with ⟨written, _ | cause⟩
    · rfl
    · rcases fails_of_snippetAfter after with ⟨part, fails⟩
      rcases said false part cause fails with ⟨reason, message⟩
      simp [ended, message]
  · rfl

end CallFrame

end CilTrace
