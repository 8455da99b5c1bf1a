import CilTrace.Proofs.CapturedErrors

/-!
What one failure costs.

A call frame whose snippet fails keeps its line and costs no other frame, if the failure has a text.
An element that is no call frame ends its level: the frames behind it are lost. An error whose text
cannot be had ends the whole trace, since levels are written only after all errors have been
captured.
-/

namespace CilTrace

/-! ## Frames of a level -/

theorem shownFrames_calls {calls : List CallFrame}
    (whole : ∀ frame ∈ calls, frame.lineFailure = none) (rest : List FrameItem) :
    shownFrames (calls.map .call ++ rest) =
      Prod.map (String.join (calls.map CallFrame.lineText) ++ ·) id (shownFrames rest) := by
  induction calls with
  | nil =>
      simp only [List.map_nil, List.nil_append, String.join_nil, String.empty_append]
      rfl
  | cons frame calls induction =>
      have first : frame.shownLine = (frame.lineText, none) :=
        Prod.ext rfl (whole frame List.mem_cons_self)
      have later := induction fun other member => whole other (List.mem_cons_of_mem frame member)
      simp only [List.map_cons, List.cons_append, shownFrames, first, later, Prod.map_map,
        String.join_cons, Function.comp_def, String.append_assoc]
      rfl

/-- Elements are call frames with whole lines up to the end, or up to the first one that is none or
whose line has no end. -/
theorem exists_calls (items : List FrameItem) :
    ∃ calls : List CallFrame, (∀ frame ∈ calls, frame.lineFailure = none) ∧
      (items = calls.map .call ∨
        (∃ value rest, items = calls.map .call ++ .foreign value :: rest) ∨
        ∃ frame rest failure, items = calls.map .call ++ .call frame :: rest ∧
          frame.lineFailure = some failure) := by
  induction items with
  | nil => exact ⟨[], by simp, .inl rfl⟩
  | cons item items induction =>
      cases item with
      | foreign value => exact ⟨[], by simp, .inr (.inl ⟨value, items, rfl⟩)⟩
      | call frame =>
          cases ends : frame.lineFailure with
          | some failure => exact ⟨[], by simp, .inr (.inr ⟨frame, items, failure, rfl, ends⟩)⟩
          | none =>
              rcases induction with ⟨calls, whole, cut⟩
              refine ⟨frame :: calls, List.forall_mem_cons.mpr ⟨ends, whole⟩, ?_⟩
              rcases cut with rfl | ⟨value, rest, rfl⟩ | ⟨other, rest, failure, rfl, stops⟩
              · exact .inl rfl
              · exact .inr (.inl ⟨value, rest, rfl⟩)
              · exact .inr (.inr ⟨other, rest, failure, rfl, stops⟩)

namespace Level

/-- A level behind a text: its header, the lines of its frames and the failure that ends them. -/
theorem append_of_lines (level : Level) {items : List FrameItem} {lines : String}
    {stop : Option HostFailure} (shown : shownFrames items = (lines, stop)) (buffer : TextBuffer) :
    (({ level with frames := .list items } : Level).append buffer).map TextBuffer.toString =
      stop.elim (.ok (buffer.toString ++ level.header ++ "\n" ++ lines)) fun failure =>
        failure.text.map fun reason => buffer.toString ++ level.header ++ "\n" ++ lines ++
          level.summary ++ " " ++ failure.kind ++ ": " ++ reason ++ "\n" := by
  have same : ({ level with frames := .list items } : Level).shownLines = (lines, stop) := shown
  rw [append_eq, block, same]
  cases stop with
  | none => simp [Except.map, header, String.append_assoc]
  | some failure =>
      dsimp only [Option.elim]
      cases failure.text with
      | error inner => rfl
      | ok reason => simp [Except.map, header, failureText, summary, String.append_assoc]

/-- A call frame in a level of its own. -/
theorem append_call (level : Level) {frame : CallFrame} (ends : frame.lineFailure = none)
    (buffer : TextBuffer) :
    (({ level with frames := .list [.call frame] } : Level).append buffer).map
        TextBuffer.toString =
      .ok (buffer.toString ++ level.header ++ "\n" ++ frame.lineText) := by
  have whole : ∀ call ∈ [frame], call.lineFailure = none := by simpa using ends
  have shown := shownFrames_calls whole []
  rw [List.map_singleton, List.append_nil] at shown
  rw [append_of_lines level shown]
  simp

/--
A level has, for each call frame before the first element that is none, the line that the frame has
in a level of its own, in order. Behind them comes nothing if there is no such element; otherwise the
failure at it takes the place of all that follows. So does a failure without a text at a call frame.
-/
theorem level_shows_frames_up_to_foreign (level : Level) (items : List FrameItem)
    (buffer : TextBuffer) :
    let shown (items : List FrameItem) : Except HostFailure String :=
      (({ level with frames := .list items } : Level).append buffer).map TextBuffer.toString
    let front := buffer.toString ++ level.header ++ "\n"
    ∃ (calls : List CallFrame) (lineOf : CallFrame → String),
      (∀ frame, frame ∈ calls ∨ frame.SaysErrors →
        shown [.call frame] = .ok (front ++ lineOf frame)) ∧
      (items = calls.map .call ∧ shown items = .ok (front ++ String.join (calls.map lineOf)) ∨
        (∃ value rest, items = calls.map .call ++ .foreign value :: rest ∧
          shown items = .ok (front ++ String.join (calls.map lineOf) ++ level.summary ++
            " AttributeError: '" ++ value.kindName ++
            "' object has no attribute 'method_name'\n")) ∨
        ∃ frame rest part, ∃ failure : HostFailure, items = calls.map .call ++ .call frame :: rest ∧
          ¬ frame.SaysErrors ∧
          shown items = failure.text.map fun reason =>
            front ++ String.join (calls.map lineOf) ++ part ++ level.summary ++ " " ++
              failure.kind ++ ": " ++ reason ++ "\n") := by
  intro shown front
  rcases exists_calls items with ⟨calls, whole, cut⟩
  refine ⟨calls, CallFrame.lineText, ?_, ?_⟩
  · rintro frame (member | said)
    · exact level.append_call (whole frame member) buffer
    · exact level.append_call (CallFrame.lineFailure_of_said said) buffer
  · rcases cut with rfl | ⟨value, rest, rfl⟩ | ⟨frame, rest, failure, rfl, stops⟩
    · have lines := shownFrames_calls whole []
      rw [List.append_nil] at lines
      refine .inl ⟨rfl, ?_⟩
      dsimp only [shown]
      rw [append_of_lines level lines]
      simp [front]
    · have lines := shownFrames_calls whole (.foreign value :: rest)
      refine .inr (.inl ⟨value, rest, rfl, ?_⟩)
      have kind : " AttributeError: '" = " " ++ "AttributeError" ++ ": " ++ "'" := rfl
      dsimp only [shown]
      rw [append_of_lines level lines, kind]
      simp only [Option.elim, id, HostFailure.noAttribute, HostFailure.text, HostFailure.kind,
        Except.map, front, String.append_assoc]
      rfl
    · have lines := shownFrames_calls whole (.call frame :: rest)
      have broken : frame.shownLine = (frame.lineText, some failure) := Prod.ext rfl stops
      have unsaid : ¬ frame.SaysErrors := fun said => by
        rw [CallFrame.lineFailure_of_said said] at stops
        cases stops
      refine .inr (.inr ⟨frame, rest, frame.lineText, failure, rfl, unsaid, ?_⟩)
      dsimp only [shown]
      rw [append_of_lines level lines]
      simp [broken, front, String.append_assoc]

/-- A call frame behind a value that is none has no line. -/
theorem foreign_element_hides_later_frame :
    let frame : CallFrame := { declaringType := some "T", methodName := "Main" }
    let alone : ErrorRecord :=
      { typeName := "E", message := "m", frames := .list [.call frame] }
    let behind : ErrorRecord :=
      { typeName := "E", message := "m", frames := .list [.foreign .null, .call frame] }
    let text :=
      "[E : m]\nE: m AttributeError: 'NoneType' object has no attribute 'method_name'\n"
    Trace.ofErrors {} [alone] (.error 0) = .ok ("[E : m]\n" ++ "  in T.Main, \n") ∧
      Trace.ofErrors {} [behind] (.error 0) = .ok text ∧
      ¬ "  in T.Main, \n".toList <:+: text.toList := by
  decide +kernel

end Level

/-! ## Levels of a trace -/

namespace Trace

theorem ofHostErrors_of_error {config : Config} {errors : List HostError} {root : Nat}
    {failure : HostFailure}
    (failed : HostError.capture errors config.maxCauseDepth root = .error failure) :
    ofHostErrors config errors root =
      failure.text.map fun reason => ((errors[root]?).map HostError.describe).getD "None" ++ " " ++
        failure.kind ++ ": " ++ reason ++ "\n" := by
  rw [ofHostErrors, failed]
  dsimp only
  cases failure.text <;> rfl

/--
A trace has the levels of all the errors that were followed, or none of them: one error that cannot
be captured, the innermost such, leaves a single line in place of the trace, and not even that if its
failure has no text.
-/
theorem trace_has_all_levels_or_none (config : Config) (errors : List HostError) (root : Nat) :
    let followed := HostError.path errors config.maxCauseDepth errors.length [] (some root)
    (∀ error ∈ followed, error.toLevel = .ok error.level) ∧
        (∃ blocks, List.Forall₂ (fun error text => error.level.block = .ok text)
            followed.reverse blocks ∧
          ofHostErrors config errors root =
            .ok (String.intercalate (config.causeSeparator ++ "\n") blocks)) ∨
      ∃ outer error inner failure, followed = outer ++ error :: inner ∧
        error.toLevel = .error failure ∧
        (∀ other ∈ inner, other.toLevel = .ok other.level) ∧
        ofHostErrors config errors root =
          failure.text.map fun reason =>
            ((errors[root]?).map HostError.describe).getD "None" ++ " " ++ failure.kind ++
              ": " ++ reason ++ "\n" := by
  intro followed
  rcases HostError.levels_cases followed with
    ⟨whole, ok⟩ | ⟨outer, error, inner, failure, cut, failed, whole, stop⟩
  · rcases HostError.exists_level_blocks followed with ⟨blocks, all, each⟩
    refine .inl ⟨whole, blocks, each, ?_⟩
    rw [ofHostErrors_of_capture ok, all]
    rfl
  · exact .inr ⟨outer, error, inner, failure, cut, failed, whole, ofHostErrors_of_error stop⟩

/-- The level of a cause is lost when the text of the error that it caused cannot be had. -/
theorem unreadable_error_hides_cause :
    let inner : HostError :=
      { name := "Inner", module := "builtins", qualifiedName := "Inner", message := some "i",
        textFailure := none, cause := none, context := none, suppressContext := false, stack := [] }
    let outer : HostError :=
      { inner with
        name := "Outer", qualifiedName := "Outer", message := some "o", cause := some 1 }
    let unreadable : HostError :=
      { outer with textFailure := some (.told "RuntimeError" "no text") }
    let text := "Outer('o') RuntimeError: no text\n"
    ofHostErrors {} [outer, inner] 0 =
        .ok ("[Inner : i]\n" ++ "-----------------------\n[Outer : o]\n") ∧
      ofHostErrors {} [unreadable, inner] 0 = .ok text ∧
      ¬ "[Inner : i]\n".toList <:+: text.toList := by
  decide +kernel

end Trace

end CilTrace
