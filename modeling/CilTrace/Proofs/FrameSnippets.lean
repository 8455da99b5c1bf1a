import CilTrace.Proofs.Containment

/-!
The snippet of a call frame and its line in a trace.

Both are written by the same steps, into an empty buffer and behind the start of a line. So they fail
in the same cases and with the same error, and a line shows the snippet; only where the snippet is
empty does the trimming at its end reach back into the line.
-/

namespace CilTrace

namespace CallFrame

variable {frame : CallFrame} {withBytes : Bool} {offset : Int}

theorem exists_written {text : String} {cause : Option DecodeError}
    (after : frame.snippetAfter withBytes "" = (text, cause)) :
    ∃ buffer, frame.appendSnippet withBytes (.ofString "") = (buffer, cause) ∧
      buffer.toString = text := by
  have same := frame.appendSnippet_eq withBytes (.ofString "")
  rw [TextBuffer.toString_ofString, after] at same
  generalize frame.appendSnippet withBytes (.ofString "") = written at same ⊢
  rcases written with ⟨buffer, cause⟩
  cases same
  exact ⟨buffer, rfl, rfl⟩

theorem snippet_of_ok {text : String} (after : frame.snippetAfter withBytes "" = (text, none)) :
    frame.snippet withBytes = .ok text := by
  rcases exists_written after with ⟨buffer, written, rfl⟩
  rw [snippet, written]

theorem snippet_of_fails {part : String} {cause : DecodeError}
    (fails : frame.SnippetFails withBytes part cause) :
    frame.snippet withBytes = .error (frame.snippetError cause) := by
  rcases exists_written (snippetAfter_of_fails fails "") with ⟨buffer, written, _⟩
  rw [snippet, written]

theorem snippet_at_end {method : Method} {data : Array UInt8}
    (numbered : frame.offset = some offset) (positive : 0 < offset)
    (known : frame.method = some method) (present : method.body = some data)
    (place : offset = data.size) : frame.snippet withBytes = .ok "" := by
  apply snippet_of_ok
  rw [snippetAfter_of_method numbered positive known, Method.snippetAfter_at_end present place]
  rfl

theorem fails_of_snippet {error : SnippetError} (failed : frame.snippet withBytes = .error error) :
    ∃ part cause, frame.SnippetFails withBytes part cause ∧ error = frame.snippetError cause := by
  rcases after : frame.snippetAfter withBytes "" with ⟨text, _ | cause⟩
  · rw [snippet_of_ok after] at failed
    cases failed
  · rcases fails_of_snippetAfter after with ⟨part, fails⟩
    rw [snippet_of_fails fails] at failed
    cases failed
    exact ⟨part, cause, fails, rfl⟩

/-- A snippet that does not fail is empty at the end of the body only. -/
theorem snippet_ok_cases (numbered : frame.offset = some offset) (positive : 0 < offset)
    {text : String} (ok : frame.snippet withBytes = .ok text) :
    (text = "" ∧ ∃ method data, frame.method = some method ∧ method.body = some data ∧
        offset = data.size) ∨
      text ≠ "" ∧ ∀ front, frame.snippetAfter withBytes front = (front ++ text, none) := by
  rcases frame.snippet_cases withBytes numbered positive with
    ⟨part, cause, fails⟩ | ⟨method, data, known, present, place⟩ | ⟨shown, visible, after⟩
  · rw [snippet_of_fails fails] at ok
    cases ok
  · rw [snippet_at_end numbered positive known present place] at ok
    cases ok
    exact .inl ⟨rfl, method, data, known, present, place⟩
  · rw [snippet_of_ok (after ""), String.empty_append] at ok
    cases ok
    exact .inr ⟨visible, after⟩

/-! ## Lines -/

/-- A line up to the number of its snippet. -/
def head (frame : CallFrame) : String :=
  "  in " ++ frame.declaringType.getD "" ++ "." ++ frame.methodName ++
    (if frame.line ≠ 0 ∧ frame.column ≠ 0 then
      " at (" ++ Numeral.decimal frame.line ++ "," ++ Numeral.decimal frame.column ++ ")"
    else "") ++ ", "

/-- The numbers that a line shows are not too long to be written. -/
structure IsWritable (frame : CallFrame) : Prop where
  location : frame.line ≠ 0 → frame.column ≠ 0 →
    Numeral.isWritable frame.line ∧ Numeral.isWritable frame.column
  offset : ∀ offset, frame.offset = some offset → 0 < offset → Numeral.isWritable offset

/-- What is said about a snippet that cannot be had for some reason. -/
def failureMessage (frame : CallFrame) (offset : Int) (reason : String) : String :=
  "cannot decode " ++ frame.methodName ++ " at IL offset " ++ Numeral.decimal offset ++ ": " ++
    reason

/-- What a line and the snippet of its frame have to do with each other. -/
structure AgreesWith (frame : CallFrame) (line : String) : Prop where
  failure : ∀ withBytes error, frame.snippet withBytes = .error error ↔
    ∃ offset part cause reason, frame.offset = some offset ∧
      frame.SnippetFails withBytes part cause ∧ cause.message = .ok reason ∧
      error = .frame (frame.failureMessage offset reason) cause
  early : (∀ offset, frame.offset = some offset → offset ≤ 0) →
    (∀ withBytes, frame.snippet withBytes = .ok "") ∧ line = frame.head ++ "\n"
  shown : ∀ offset text, frame.offset = some offset → 0 < offset →
    frame.snippet false = .ok text → text ≠ "" →
    line = frame.head ++ "#" ++ Numeral.decimal offset ++ ": " ++ text ++ "\n"
  atEnd : ∀ offset, frame.offset = some offset → 0 < offset →
    (frame.snippet false = .ok "" ↔ ∃ method data, frame.method = some method ∧
      method.body = some data ∧ offset = data.size) ∧
    (frame.snippet false = .ok "" →
      line = frame.head ++ "#" ++ Numeral.decimal offset ++ ":" ++ "\n")
  failed : ∀ offset part cause reason, frame.offset = some offset →
    frame.SnippetFails false part cause → cause.message = .ok reason →
    Prod.map TextBuffer.toString id (frame.appendSnippet false (.ofString "")) =
        (part, some cause) ∧
      line = frame.head ++ "#" ++ Numeral.decimal offset ++ ": " ++ part ++ reason ++ "\n"

/-- A line that ends at a number which is too long to be written. -/
inductive EndsAtNumber (frame : CallFrame) : String → Prop where
  | location (lined : frame.line ≠ 0) (columned : frame.column ≠ 0)
      (long : ¬ (Numeral.isWritable frame.line ∧ Numeral.isWritable frame.column)) :
      EndsAtNumber frame (frame.nameText ++ NumeralError.tooLongToWrite.message ++ "\n")
  | offset (offset : Int) (numbered : frame.offset = some offset) (positive : 0 < offset)
      (located : frame.line ≠ 0 → frame.column ≠ 0 →
        Numeral.isWritable frame.line ∧ Numeral.isWritable frame.column)
      (long : ¬ Numeral.isWritable offset) :
      EndsAtNumber frame (frame.head ++ NumeralError.tooLongToWrite.message ++ "\n")

theorem exists_locationText (writable : frame.line ≠ 0 → frame.column ≠ 0 →
      Numeral.isWritable frame.line ∧ Numeral.isWritable frame.column) :
    ∃ location, frame.locationText = .ok location ∧
      frame.nameText ++ location ++ ", " = frame.head := by
  by_cases located : frame.line ≠ 0 ∧ frame.column ≠ 0
  · rcases writable located.1 located.2 with ⟨line, column⟩
    refine ⟨" at (" ++ Numeral.decimal frame.line ++ "," ++ Numeral.decimal frame.column ++ ")",
      ?_, ?_⟩
    · rw [locationText, if_pos (by simpa [hasLocation] using located),
        Numeral.write_of_writable line, Numeral.write_of_writable column]
      rfl
    · rw [head, if_pos located, nameText]
  · refine ⟨"", ?_, ?_⟩
    · rw [locationText, if_neg (by simpa [hasLocation] using located)]
      rfl
    · rw [head, if_neg located, nameText]

theorem opening_early (writable : frame.IsWritable)
    (early : ∀ offset, frame.offset = some offset → offset ≤ 0) :
    frame.opening = (frame.head, none) := by
  rcases exists_locationText writable.location with ⟨location, located, headed⟩
  have unnumbered : frame.offsetText = .ok "" := by
    rw [offsetText, snippetOffset?_eq_none early]
    rfl
  simp [opening, located, unnumbered, headed]

theorem opening_numbered (writable : frame.IsWritable) (numbered : frame.offset = some offset)
    (positive : 0 < offset) :
    frame.opening = (frame.head ++ "#" ++ Numeral.decimal offset ++ ": ", none) := by
  rcases exists_locationText writable.location with ⟨location, located, headed⟩
  have number : frame.offsetText = .ok ("#" ++ Numeral.decimal offset ++ ": ") := by
    rw [offsetText, snippetOffset?_eq_some numbered positive]
    dsimp only
    rw [Numeral.write_of_writable (writable.offset offset numbered positive)]
    rfl
  simp [opening, located, number, headed, ← String.append_assoc]

theorem offsetText_of_long (numbered : frame.offset = some offset) (positive : 0 < offset)
    (long : ¬ Numeral.isWritable offset = true) : frame.offsetText = .error .tooLongToWrite := by
  rw [offsetText, snippetOffset?_eq_some numbered positive]
  dsimp only
  rw [Numeral.write_of_long long]
  rfl

theorem locationText_of_long (lined : frame.line ≠ 0) (columned : frame.column ≠ 0)
    (long : ¬ (Numeral.isWritable frame.line = true ∧ Numeral.isWritable frame.column = true)) :
    frame.locationText = .error .tooLongToWrite := by
  rw [locationText, if_pos (by simpa [hasLocation] using ⟨lined, columned⟩)]
  by_cases line : Numeral.isWritable frame.line = true
  · have column : ¬ Numeral.isWritable frame.column = true := fun column => long ⟨line, column⟩
    rw [Numeral.write_of_writable line, Numeral.write_of_long column]
    rfl
  · rw [Numeral.write_of_long line]
    rfl

theorem endsAtNumber_of_not_writable (long : ¬ frame.IsWritable) :
    frame.EndsAtNumber frame.lineText := by
  by_cases located : frame.line ≠ 0 → frame.column ≠ 0 →
      Numeral.isWritable frame.line ∧ Numeral.isWritable frame.column
  · have numbers : ∃ offset, frame.offset = some offset ∧ 0 < offset ∧
        ¬ Numeral.isWritable offset = true := by
      by_contra short
      apply long
      refine ⟨located, ?_⟩
      intro offset numbered positive
      by_contra unwritable
      exact short ⟨offset, numbered, positive, unwritable⟩
    rcases numbers with ⟨offset, numbered, positive, unwritable⟩
    rcases exists_locationText located with ⟨location, written, headed⟩
    have line : frame.lineText = frame.head ++ NumeralError.tooLongToWrite.message ++ "\n" := by
      simp [lineText, shownLine, opening, written, headed,
        offsetText_of_long numbered positive unwritable]
    rw [line]
    exact .offset offset numbered positive located unwritable
  · simp only [Classical.not_imp] at located
    rcases located with ⟨lined, columned, unwritable⟩
    have line : frame.lineText = frame.nameText ++ NumeralError.tooLongToWrite.message ++ "\n" := by
      simp [lineText, shownLine, opening, locationText_of_long lined columned unwritable]
    rw [line]
    exact .location lined columned unwritable

theorem shownLine_of_opening {opened written : String} {cause : Option DecodeError}
    (begun : frame.opening = (opened, none))
    (after : frame.snippetAfter false opened = (written, cause)) :
    frame.shownLine = ended written cause := by
  rw [shownLine, begun]
  dsimp only
  rw [after]

theorem lineText_of_opening {opened written : String} (begun : frame.opening = (opened, none))
    (after : frame.snippetAfter false opened = (written, none)) :
    frame.lineText = written ++ "\n" := by
  rw [lineText, shownLine_of_opening begun after]
  rfl

/-- The line of a frame whose snippet fails, up to the reason. -/
theorem shownLine_of_fails (writable : frame.IsWritable) (numbered : frame.offset = some offset)
    (positive : 0 < offset) {part : String} {cause : DecodeError}
    (fails : frame.SnippetFails false part cause) :
    frame.shownLine =
      ended (frame.head ++ "#" ++ Numeral.decimal offset ++ ": " ++ part) (some cause) :=
  shownLine_of_opening (opening_numbered writable numbered positive) (snippetAfter_of_fails fails _)

theorem SnippetFails.numbered {part : String} {cause : DecodeError}
    (fails : frame.SnippetFails withBytes part cause) :
    ∃ offset, frame.offset = some offset ∧ 0 < offset := by
  cases fails with
  | noMethod offset numbered positive => exact ⟨offset, numbered, positive⟩
  | method offset _ _ _ numbered positive => exact ⟨offset, numbered, positive⟩

theorem snippetMessage_eq (writable : frame.IsWritable) (numbered : frame.offset = some offset)
    (positive : 0 < offset) (cause : DecodeError) :
    frame.snippetMessage cause = cause.message.map (frame.failureMessage offset) := by
  have name : frame.offsetName = .ok (Numeral.decimal offset) := by
    rw [offsetName, numbered]
    dsimp only
    rw [Numeral.write_of_writable (writable.offset offset numbered positive)]
    rfl
  rw [snippetMessage, name]
  cases cause.message <;> rfl

theorem snippetError_of_told (writable : frame.IsWritable) (numbered : frame.offset = some offset)
    (positive : 0 < offset) {cause : DecodeError} {reason : String}
    (told : cause.message = .ok reason) :
    frame.snippetError cause = .frame (frame.failureMessage offset reason) cause := by
  rw [snippetError, snippetMessage_eq writable numbered positive, told]
  rfl

theorem snippetError_of_untold (writable : frame.IsWritable) (numbered : frame.offset = some offset)
    (positive : 0 < offset) {cause : DecodeError} {failure : HostFailure}
    (untold : cause.message = .error failure) : frame.snippetError cause = .unsaid failure := by
  rw [snippetError, snippetMessage_eq writable numbered positive, untold]
  rfl

/-- At the end of the body only the space in front of the snippet is trimmed. -/
theorem lineText_at_end (writable : frame.IsWritable) {method : Method} {data : Array UInt8}
    (numbered : frame.offset = some offset) (positive : 0 < offset)
    (known : frame.method = some method) (present : method.body = some data)
    (place : offset = data.size) :
    frame.lineText = frame.head ++ "#" ++ Numeral.decimal offset ++ ":" ++ "\n" := by
  have colon : ∃ kept ∈ ": ".toList, kept ≠ ' ' := ⟨':', by decide, by decide⟩
  have trimmed : Text.trimEndOf ' ' ": " = ":" := rfl
  have after (text : String) : frame.snippetAfter false text = (Text.trimEndOf ' ' text, none) := by
    rw [snippetAfter_of_method numbered positive known, Method.snippetAfter_at_end present place]
  rw [lineText_of_opening (opening_numbered writable numbered positive) (after _),
    Text.trimEndOf_append colon, trimmed]

theorem agreesWith_lineText (writable : frame.IsWritable) (said : frame.SaysErrors) :
    frame.AgreesWith frame.lineText where
  failure := by
    intro withBytes error
    constructor
    · intro failed
      rcases fails_of_snippet failed with ⟨part, cause, fails, rfl⟩
      rcases fails.numbered with ⟨offset, numbered, positive⟩
      rcases said withBytes part cause fails with ⟨reason, message⟩
      exact ⟨offset, part, cause, reason, numbered, fails, message,
        snippetError_of_told writable numbered positive message⟩
    · rintro ⟨offset, part, cause, reason, numbered, fails, message, rfl⟩
      rcases fails.numbered with ⟨_, same, positive⟩
      cases numbered.symm.trans same
      rw [snippet_of_fails fails, snippetError_of_told writable numbered positive message]
  early := by
    intro early
    refine ⟨fun withBytes => snippet_of_ok (snippetAfter_early early ""), ?_⟩
    exact lineText_of_opening (opening_early writable early) (snippetAfter_early early _)
  shown := by
    intro offset text numbered positive ok visible
    rcases snippet_ok_cases numbered positive ok with ⟨empty, _⟩ | ⟨_, after⟩
    · exact absurd empty visible
    · exact lineText_of_opening (opening_numbered writable numbered positive) (after _)
  atEnd := by
    intro offset numbered positive
    have ended (ok : frame.snippet false = .ok "") : ∃ method data,
        frame.method = some method ∧ method.body = some data ∧ offset = data.size := by
      rcases snippet_ok_cases numbered positive ok with ⟨_, ended⟩ | ⟨visible, _⟩
      · exact ended
      · exact absurd rfl visible
    refine ⟨⟨ended, ?_⟩, ?_⟩
    · rintro ⟨method, data, known, present, place⟩
      exact snippet_at_end numbered positive known present place
    · intro ok
      rcases ended ok with ⟨method, data, known, present, place⟩
      exact lineText_at_end writable numbered positive known present place
  failed := by
    intro offset part cause reason numbered fails message
    rcases fails.numbered with ⟨_, same, positive⟩
    cases numbered.symm.trans same
    constructor
    · rw [frame.appendSnippet_eq, TextBuffer.toString_ofString, snippetAfter_of_fails fails,
        String.empty_append]
    · simp [lineText, shownLine_of_fails writable numbered positive fails, ended, message]

/-- A failure without a text is not held up: it ends the snippet, and the line where it is. -/
theorem untold_of_fails (writable : frame.IsWritable) (numbered : frame.offset = some offset)
    {part : String} {cause : DecodeError} {failure : HostFailure}
    (fails : frame.SnippetFails false part cause) (untold : cause.message = .error failure) :
    frame.snippet false = .error (.unsaid failure) ∧
      ∀ buffer, Prod.map TextBuffer.toString id (frame.appendLine buffer) =
        (buffer.toString ++ (frame.head ++ "#" ++ Numeral.decimal offset ++ ": " ++ part),
          some failure) := by
  rcases fails.numbered with ⟨_, same, positive⟩
  cases numbered.symm.trans same
  refine ⟨?_, fun buffer => ?_⟩
  · rw [snippet_of_fails fails, snippetError_of_untold writable numbered positive untold]
  · rw [appendLine_eq, shownLine_of_fails writable numbered positive fails]
    simp [ended, untold]

end CallFrame

/-! ## Lines in traces -/

namespace Level

theorem block_calls (level : Level) {calls : List CallFrame}
    (whole : ∀ frame ∈ calls, frame.lineFailure = none) :
    ({ level with frames := .list (calls.map .call) } : Level).block =
      .ok ("[" ++ level.typeName ++ " : " ++ level.message ++ "]\n" ++
        String.join (calls.map CallFrame.lineText)) := by
  have lines := shownFrames_calls whole []
  rw [List.append_nil] at lines
  have same : ({ level with frames := .list (calls.map .call) } : Level).shownLines = _ := lines
  have closing : "]\n" = "]" ++ "\n" := rfl
  rw [block, same, closing]
  simp [header, shownFrames, String.append_assoc]

end Level

namespace Trace

theorem ofErrors_alone {config : Config} (levels : 0 < config.maxCauseDepth) (level : Level) :
    ofErrors config [⟨level, .nothing⟩] (.error 0) = level.block := by
  have causes : Causes [⟨level, .nothing⟩] [] (.error 0) [level] :=
    .error [] 0 ⟨level, .nothing⟩ [] List.not_mem_nil rfl (.nothing _)
  have depth : [level].length ≤ config.maxCauseDepth.toNat := by
    simp only [List.length_singleton]
    omega
  rw [ofErrors_of_causes causes (.inl depth), List.take_of_length_le depth, List.reverse_singleton,
    List.mapM_cons]
  cases level.block with
  | error failure => rfl
  | ok text => simp [Except.map, bind, Except.bind, pure, Except.pure]

end Trace

namespace CallFrame

/--
The lines of call frames agree with their snippets, in every level and in the trace of an error: a
snippet fails exactly where there is no method, no body, no such offset or not both instructions, and
the line then ends with what was written of it and the cause; otherwise the line ends with the
snippet, and at the end of a body with the number alone. Only a number that is too long to be
written ends a line before, and only a failure without a text leaves one unfinished.
-/
theorem lines_agree_with_snippets :
    ∃ line : CallFrame → String,
      (∀ (config : Config) (typeName message : String) (calls : List CallFrame),
        0 < config.maxCauseDepth → (∀ frame ∈ calls, frame.SaysErrors) →
        Trace.ofErrors config [{ typeName, message, frames := .list (calls.map .call) }]
            (.error 0) =
          .ok ("[" ++ typeName ++ " : " ++ message ++ "]\n" ++ String.join (calls.map line))) ∧
      (∀ (level : Level) (calls : List CallFrame) (buffer : TextBuffer),
        (∀ frame ∈ calls, frame.SaysErrors) →
        (({ level with frames := .list (calls.map .call) } : Level).append buffer).map
            TextBuffer.toString =
          .ok (buffer.toString ++ ("[" ++ level.typeName ++ " : " ++ level.message ++ "]\n" ++
            String.join (calls.map line)))) ∧
      (∀ (frame : CallFrame) (withBytes : Bool),
        (∃ error, frame.snippet withBytes = .error error) ↔
          ∃ part cause, frame.SnippetFails withBytes part cause) ∧
      (∀ frame : CallFrame, frame.IsWritable → frame.SaysErrors →
        frame.AgreesWith (line frame)) ∧
      (∀ frame : CallFrame, ¬ frame.IsWritable → frame.EndsAtNumber (line frame)) ∧
      ∀ (frame : CallFrame) offset part cause failure, frame.IsWritable →
        frame.offset = some offset → frame.SnippetFails false part cause →
        cause.message = .error failure →
        frame.snippet false = .error (.unsaid failure) ∧
          ∀ buffer, Prod.map TextBuffer.toString id (frame.appendLine buffer) =
            (buffer.toString ++ (frame.head ++ "#" ++ Numeral.decimal offset ++ ": " ++ part),
              some failure) := by
  have whole {calls : List CallFrame} (said : ∀ frame ∈ calls, frame.SaysErrors) :
      ∀ frame ∈ calls, frame.lineFailure = none := fun frame member =>
    lineFailure_of_said (said frame member)
  refine ⟨lineText, ?_, ?_, ?_, fun frame => agreesWith_lineText,
    fun frame => endsAtNumber_of_not_writable,
    fun frame offset part cause failure writable numbered fails untold =>
      untold_of_fails writable numbered fails untold⟩
  · intro config typeName message calls levels said
    rw [Trace.ofErrors_alone levels]
    exact Level.block_calls ⟨typeName, message, .list []⟩ (whole said)
  · intro level calls buffer said
    rw [Level.append_eq, level.block_calls (whole said)]
    rfl
  · intro frame withBytes
    constructor
    · rintro ⟨error, failed⟩
      rcases fails_of_snippet failed with ⟨part, cause, fails, _⟩
      exact ⟨part, cause, fails⟩
    · rintro ⟨part, cause, fails⟩
      exact ⟨_, snippet_of_fails fails⟩

/-- The second instruction of a snippet is cut; another frame follows that has none. -/
theorem lines_agree_with_snippets_at_cut_instruction :
    let frame : CallFrame :=
      { declaringType := some "T", methodName := "Run", line := 3, column := 9, offset := some 1
        method := some { body := some #[0x00, 0x02, 0x20, 0x01] } }
    let other : CallFrame := { methodName := "Main", offset := some 0 }
    let part := "ldarg.0; ldc.i4 "
    let cause := DecodeError.outOfBounds 4 3 4
    let reason := "need 4 byte(s) but only 1 remain in 4-byte IL buffer (at IL offset 0003)"
    0 < ({} : Config).maxCauseDepth ∧ frame.IsWritable ∧ frame.SaysErrors ∧ other.IsWritable ∧
      other.SaysErrors ∧ frame.SnippetFails false part cause ∧
      frame.snippet false =
        .error (.frame ("cannot decode Run at IL offset 1: " ++ reason) cause) ∧
      Trace.ofErrors {} [{ typeName := "E", frames := .list [.call frame, .call other] }]
          (.error 0) =
        .ok ("[E : ]\n" ++ "  in T.Run at (3,9), #1: " ++ part ++ reason ++ "\n" ++
          "  in .Main, \n") := by
  intro frame other part cause reason
  have writable : frame.IsWritable := by
    refine ⟨fun _ _ => ⟨by decide +kernel, by decide +kernel⟩, ?_⟩
    rintro offset ⟨⟩ _
    decide +kernel
  have otherWritable : other.IsWritable := by
    refine ⟨fun located => absurd rfl located, ?_⟩
    rintro offset ⟨⟩ positive
    cases positive
  have told : frame.TellsFailures := by
    rintro method ⟨⟩
    exact failuresAreTold_none
  have otherTold : other.TellsFailures := by
    rintro method ⟨⟩
  have said := told.saysErrors
  have otherSaid := otherTold.saysErrors
  let code : Code := ⟨⟨0x02, "ldarg.0", .none⟩, [], List.mem_of_getElem? (i := 2) rfl, rfl⟩
  have stops : Stops 2 4 [0x20, 0x01] (some ⟨0x20, "ldc.i4", .int32⟩) cause :=
    .cutOperand _ 4 [0x01] (List.mem_of_getElem? (i := 32) rfl) rfl (by decide)
  have written : (code.instructionAt none 1).text false ++ "; " ++
      Instruction.partText (some ⟨0x20, "ldc.i4", .int32⟩) = part := by
    decide +kernel
  have fails : frame.SnippetFails false part cause := by
    rw [← written]
    exact .method 1 _ _ cause rfl (by decide) rfl
      (.second #[0x00, 0x02, 0x20, 0x01] [0x00] code [0x20, 0x01] _ cause rfl rfl rfl
        (code.isReadable_none) (.stops stops))
  have message : cause.message = .ok reason := by decide +kernel
  rcases lines_agree_with_snippets with ⟨line, traces, _, _, agree, _⟩
  have agrees := agree frame writable said
  have shown := (agrees.failed 1 part cause reason rfl fails message).2
  have otherShown := ((agree other otherWritable otherSaid).early (by rintro offset ⟨⟩; decide)).2
  refine ⟨by decide, writable, said, otherWritable, otherSaid, fails, ?_, ?_⟩
  · refine (agrees.failure false _).mpr ⟨1, part, cause, reason, rfl, fails, message, ?_⟩
    decide +kernel
  · refine (traces {} "E" "" [frame, other] (by decide) ?_).trans ?_
    · simp only [List.forall_mem_cons]
      exact ⟨said, otherSaid, by simp⟩
    · rw [List.map_cons, List.map_cons, List.map_nil, shown, otherShown]
      decide +kernel

/--
A source column of 4301 digits cannot be written, so the line ends before the place. A failure of a
resolver that has no text, as asking for it fails in the same way, is held up neither by the snippet
nor by the trace.
-/
theorem long_column_ends_line :
    let frame : CallFrame :=
      { declaringType := some "m", methodName := "f", line := 1, column := Nat.pow 10 4300 }
    let text := "[E : m]\n" ++ "  in m.f" ++ NumeralError.tooLongToWrite.message ++ "\n"
    let untold : HostFailure := .circular "KeyError"
    let method : Method :=
      { body := some #[0x00, 0x28, 0x01, 0x00, 0x00, 0x06],
        resolver := some ⟨fun _ _ => .error untold⟩ }
    let failing : CallFrame := { methodName := "g", method := some method, offset := some 1 }
    Trace.ofErrors {} [{ typeName := "E", message := "m", frames := .list [.call frame] }]
        (.error 0) = .ok text ∧
      text ≠ "[E : m]\n" ++ frame.head ++ "\n" ∧
      failing.snippet false = .error (.unsaid untold) ∧
      Trace.ofErrors {} [{ typeName := "E", message := "m", frames := .list [.call failing] }]
        (.error 0) = .error untold := by
  decide +kernel

end CallFrame

end CilTrace
