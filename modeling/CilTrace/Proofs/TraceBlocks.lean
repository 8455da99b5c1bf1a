import Mathlib.Data.List.Perm.Subperm
import CilTrace.Proofs.FrameLines

/-!
A trace is the blocks of its levels.

Each level of a cause chain adds a block to the text that depends on that level alone. A depth limit
cuts the chain from its inner end, and so the text from its beginning.
-/

namespace CilTrace

/-! ## Levels -/

/-- The lines of call frames up to the first element that is none, and the failure if there is one
or if the last line has no end. -/
def shownFrames : List FrameItem → String × Option HostFailure
  | [] => ("", none)
  | .foreign value :: _ => ("", some (.noAttribute value.kindName "method_name"))
  | .call frame :: rest =>
      match frame.shownLine with
      | (line, none) => Prod.map (line ++ ·) id (shownFrames rest)
      | (line, some failure) => (line, some failure)

theorem appendFrames_eq (items : List FrameItem) (buffer : TextBuffer) :
    Prod.map TextBuffer.toString id (appendFrames items buffer) =
      Prod.map (buffer.toString ++ ·) id (shownFrames items) := by
  induction items generalizing buffer with
  | nil => simp [appendFrames, shownFrames]
  | cons item rest induction =>
      cases item with
      | foreign value => simp [appendFrames, shownFrames]
      | call frame =>
          have line := frame.appendLine_eq buffer
          unfold appendFrames shownFrames
          generalize frame.appendLine buffer = result at line ⊢
          generalize frame.shownLine = shown at line ⊢
          rcases result with ⟨written, stop⟩
          rcases shown with ⟨text, failure⟩
          have behind : written.toString = buffer.toString ++ text := congrArg Prod.fst line
          have same : stop = failure := congrArg Prod.snd line
          subst same
          cases stop with
          | some failure => simp [behind]
          | none =>
              dsimp only
              rw [induction, behind, Prod.map_map]
              simp only [Function.comp_def, String.append_assoc]
              rfl

namespace Level

/-- The lines of the frames of a level, and the failure if they do not go to the end. -/
def shownLines (level : Level) : String × Option HostFailure :=
  match level.frames.items with
  | .error failure => ("", some failure)
  | .ok items => shownFrames items

/-- The line of a level that cannot be finished. -/
def failureText (level : Level) (failure : HostFailure) (text : String) : String :=
  level.summary ++ " " ++ failure.kind ++ ": " ++ text ++ "\n"

/-- The lines that a level adds to a trace. -/
def block (level : Level) : Except HostFailure String :=
  match level.shownLines with
  | (lines, none) => .ok (level.header ++ "\n" ++ lines)
  | (lines, some failure) =>
      failure.text.map fun text => level.header ++ "\n" ++ lines ++ level.failureText failure text

theorem appendLines_eq (level : Level) (buffer : TextBuffer) :
    Prod.map TextBuffer.toString id (level.appendLines buffer) =
      Prod.map (buffer.toString ++ ·) id level.shownLines := by
  unfold appendLines shownLines
  cases level.frames.items with
  | error failure => simp
  | ok items => exact appendFrames_eq items buffer

theorem append_eq (level : Level) (buffer : TextBuffer) :
    (level.append buffer).map TextBuffer.toString = level.block.map (buffer.toString ++ ·) := by
  have lines := level.appendLines_eq (buffer.appendLine level.header)
  unfold append block
  generalize level.appendLines (buffer.appendLine level.header) = result at lines ⊢
  generalize level.shownLines = shown at lines ⊢
  rcases result with ⟨written, stop⟩
  rcases shown with ⟨text, failure⟩
  have behind : written.toString = (buffer.appendLine level.header).toString ++ text :=
    congrArg Prod.fst lines
  have same : stop = failure := congrArg Prod.snd lines
  subst same
  cases stop with
  | none => simp [Except.map, behind, String.append_assoc]
  | some failure =>
      dsimp only
      cases failure.text with
      | error inner => rfl
      | ok reason =>
          simp [Except.map, bind, Except.bind, pure, Except.pure, behind, failureText,
            String.append_assoc]

/-- A level adds its block to a buffer, or fails as its block does. -/
theorem append_cases (level : Level) (buffer : TextBuffer) :
    (∃ failure, level.append buffer = .error failure ∧ level.block = .error failure) ∨
      ∃ written text, level.append buffer = .ok written ∧ level.block = .ok text ∧
        written.toString = buffer.toString ++ text := by
  have same := level.append_eq buffer
  generalize level.append buffer = result at same ⊢
  generalize level.block = block at same ⊢
  cases result with
  | error failure =>
      cases block with
      | error other =>
          cases same
          exact .inl ⟨failure, rfl, rfl⟩
      | ok text => cases same
  | ok written =>
      cases block with
      | error failure => cases same
      | ok text => exact .inr ⟨written, text, rfl, rfl, Except.ok.inj same⟩

variable {level : Level}

/-- Whether the errors of all snippets of a level have texts. -/
def SaysErrors (level : Level) : Prop :=
  ∀ items, level.frames.items = .ok items → ∀ frame, .call frame ∈ items → frame.SaysErrors

end Level

/-- Where the errors of all snippets have texts, so has the failure that ends the lines. -/
theorem isTold_of_shownFrames {items : List FrameItem}
    (said : ∀ frame, .call frame ∈ items → frame.SaysErrors) {failure : HostFailure}
    (failed : (shownFrames items).2 = some failure) : failure.IsTold := by
  induction items with
  | nil => cases failed
  | cons item rest induction =>
      cases item with
      | foreign value =>
          cases failed
          exact HostFailure.isTold_told _ _
      | call frame =>
          have whole := CallFrame.lineFailure_of_said (said frame List.mem_cons_self)
          unfold shownFrames at failed
          unfold CallFrame.lineFailure at whole
          generalize frame.shownLine = line at failed whole
          rcases line with ⟨text, _⟩
          subst whole
          exact induction (fun other member => said other (List.mem_cons_of_mem _ member)) failed

theorem Frames.isTold_of_items {frames : Frames} {failure : HostFailure}
    (failed : frames.items = .error failure) : failure.IsTold := by
  unfold items at failed
  split at failed
  all_goals cases failed
  exact HostFailure.isTold_told _ _

/-- Where the errors of its snippets have texts, a level is whole or shows the failure in it. -/
theorem Level.exists_block {level : Level} (said : level.SaysErrors) :
    ∃ text, level.block = .ok text := by
  unfold block
  rcases shown : level.shownLines with ⟨lines, _ | failure⟩
  · exact ⟨_, rfl⟩
  · have isTold : failure.IsTold := by
      unfold shownLines at shown
      split at shown
      · next error failed =>
          cases shown
          exact Frames.isTold_of_items failed
      · next items listed =>
          exact isTold_of_shownFrames (said items listed) (congrArg Prod.snd shown)
    rcases isTold with ⟨reason, text⟩
    dsimp only
    exact ⟨_, by rw [text]; rfl⟩

namespace Trace

theorem appendSeparated_eq (separator : String) (levels : List Level) (buffer : TextBuffer) :
    (appendSeparated separator levels buffer).map TextBuffer.toString =
      (levels.mapM Level.block).map fun blocks =>
        buffer.toString ++ String.join (blocks.map fun text => separator ++ "\n" ++ text) := by
  induction levels generalizing buffer with
  | nil => simp [appendSeparated, Except.map, pure, Except.pure]
  | cons level levels induction =>
      rw [appendSeparated, List.mapM_cons]
      rcases level.append_cases (buffer.appendLine separator) with
        ⟨failure, stopped, failed⟩ | ⟨written, text, added, shown, behind⟩
      · rw [stopped, failed]
        rfl
      · have later := induction written
        rw [added, shown]
        dsimp only [bind, Except.bind]
        rw [later]
        cases levels.mapM Level.block with
        | error failure => rfl
        | ok blocks => simp [Except.map, pure, Except.pure, behind, String.append_assoc]

theorem intercalate_cons (separator first : String) (rest : List String) :
    String.intercalate separator (first :: rest) =
      first ++ String.join (rest.map (separator ++ ·)) := by
  induction rest generalizing first with
  | nil => simp
  | cons second rest induction =>
      rw [String.intercalate_cons_cons, induction]
      simp [String.append_assoc]

/-- The text of levels is their blocks with the separator line between them. -/
theorem ofLevels_eq (config : Config) (levels : List Level) :
    ofLevels config levels =
      (levels.mapM Level.block).map (String.intercalate (config.causeSeparator ++ "\n")) := by
  cases levels with
  | nil => simp [ofLevels, Except.map, pure, Except.pure]
  | cons first rest =>
      rw [ofLevels, List.mapM_cons]
      rcases first.append_cases (.ofString "") with
        ⟨failure, stopped, failed⟩ | ⟨written, text, added, shown, behind⟩
      · rw [stopped, failed]
        rfl
      · have later := appendSeparated_eq config.causeSeparator rest written
        rw [added, shown]
        dsimp only [bind, Except.bind]
        generalize appendSeparated config.causeSeparator rest written = result at later ⊢
        generalize rest.mapM Level.block = blocks at later ⊢
        cases blocks with
        | error failure =>
            cases result with
            | error other =>
                cases later
                rfl
            | ok whole => cases later
        | ok blocks =>
            cases result with
            | error other => cases later
            | ok whole =>
                have same := Except.ok.inj later
                simp [Except.map, pure, Except.pure, intercalate_cons, same, behind]

end Trace

/-! ## Cause chains -/

/--
The levels from a cause inward, the outermost first. They end where there is no further cause, and
where an error comes up again; `seen` has the errors further out.
-/
inductive Causes (errors : List ErrorRecord) : List Nat → Cause → List Level → Prop where
  | nothing (seen : List Nat) : Causes errors seen .nothing []
  | null (seen : List Nat) : Causes errors seen (.foreign .null) []
  | again (seen : List Nat) (number : Nat) (old : number ∈ seen) :
      Causes errors seen (.error number) []
  | error (seen : List Nat) (number : Nat) (record : ErrorRecord) (levels : List Level)
      (new : number ∉ seen) (found : errors[number]? = some record)
      (inner : Causes errors (number :: seen) record.cause levels) :
      Causes errors seen (.error number) (record.toLevel :: levels)

section Seen

variable {errors : List ErrorRecord} {seen : List Nat} {cause : Cause} {levels : List Level}

theorem length_le_of_distinct {count : Nat} (distinct : seen.Nodup)
    (inside : ∀ number ∈ seen, number < count) : seen.length ≤ count := by
  have subset : seen ⊆ List.range count := by
    intro number member
    exact List.mem_range.mpr (inside number member)
  simpa using (distinct.subperm subset).length_le

theorem Causes.length_le (causes : Causes errors seen cause levels) (distinct : seen.Nodup)
    (inside : ∀ number ∈ seen, number < errors.length) :
    levels.length + seen.length ≤ errors.length := by
  induction causes with
  | nothing seen | null seen | again seen number old =>
      simpa using length_le_of_distinct distinct inside
  | error seen number record levels new found inner induction =>
      have bound : number < errors.length := (List.getElem?_eq_some_iff.mp found).1
      have longer := induction (List.nodup_cons.mpr ⟨new, distinct⟩)
        (List.forall_mem_cons.mpr ⟨bound, inside⟩)
      simp only [List.length_cons] at longer ⊢
      omega

namespace Trace

theorem cutAt_eq (limit : Int) :
    cutAt limit = if Numeral.isWritable limit then .ok []
      else .error (.ofNumeralError .tooLongToWrite) := by
  by_cases short : Numeral.isWritable limit = true
  · rw [cutAt, Numeral.write_of_writable short, if_pos short]
    rfl
  · rw [cutAt, Numeral.write_of_long short, if_neg short]
    rfl

/--
The loop over causes takes as many levels as the depth limit leaves. A limit that leaves not all of
them is noted, so it has to be one that can be written.
-/
theorem chain_of_causes (causes : Causes errors seen cause levels) (limit : Int) {unseen : Nat}
    (enough : levels.length ≤ unseen) :
    chain errors limit unseen seen cause =
      if levels.length ≤ (limit - seen.length).toNat ∨ Numeral.isWritable limit then
        .ok (levels.take (limit - seen.length).toNat)
      else .error (.ofNumeralError .tooLongToWrite) := by
  induction causes generalizing unseen with
  | nothing seen => simp [chain]
  | null seen => simp [chain]
  | again seen number old =>
      cases unseen with
      | zero => simp [chain]
      | succ unseen => simp [chain, old]
  | error seen number record levels new found inner induction =>
      cases unseen with
      | zero => exact absurd enough (Nat.not_succ_le_zero _)
      | succ unseen =>
          have later := induction (Nat.le_of_succ_le_succ enough)
          rw [chain, if_neg (by simp [new]), found]
          dsimp only
          by_cases deep : limit ≤ seen.length
          · have nothingLeft : (limit - seen.length).toNat = 0 := by omega
            rw [if_pos deep, nothingLeft, List.take_zero, cutAt_eq]
            simp
          · have oneMore : (limit - seen.length).toNat =
                (limit - (number :: seen).length).toNat + 1 := by
              simp only [List.length_cons]
              omega
            rw [if_neg deep, oneMore, List.take_succ_cons, later]
            simp only [List.length_cons, Nat.add_le_add_iff_right]
            split <;> rfl

/-- Whether a depth limit leaves all of some levels, or can be written. -/
def CanLimit (limit : Int) (levels : List Level) : Prop :=
  levels.length ≤ limit.toNat ∨ Numeral.isWritable limit

instance (limit : Int) (levels : List Level) : Decidable (CanLimit limit levels) :=
  inferInstanceAs (Decidable (_ ∨ _))

theorem chain_of_root (causes : Causes errors [] cause levels) (limit : Int) :
    chain errors limit errors.length [] cause =
      if CanLimit limit levels then .ok (levels.take limit.toNat)
      else .error (.ofNumeralError .tooLongToWrite) := by
  have enough : levels.length ≤ errors.length :=
    causes.length_le List.nodup_nil (fun _ member => absurd member List.not_mem_nil)
  have whole : limit - ([] : List Nat).length = limit := by simp
  rw [chain_of_causes causes limit enough, whole]
  rfl

theorem ofErrors_of_causes (causes : Causes errors [] cause levels) {config : Config}
    (can : CanLimit config.maxCauseDepth levels) :
    ofErrors config errors cause =
      ((levels.take config.maxCauseDepth.toNat).reverse.mapM Level.block).map
        (String.intercalate (config.causeSeparator ++ "\n")) := by
  rw [ofErrors, chain_of_root causes, if_pos can]
  exact ofLevels_eq config _

end Trace

/-- A cause has no other levels. -/
theorem Causes.unique (causes : Causes errors seen cause levels) {others : List Level}
    (same : Causes errors seen cause others) : others = levels := by
  induction causes generalizing others with
  | nothing seen | null seen =>
      cases same
      rfl
  | again seen number old =>
      cases same with
      | again => rfl
      | error _ _ record levels new => exact absurd old new
  | error seen number record levels new found inner induction =>
      cases same with
      | again _ _ old => exact absurd old new
      | error _ _ other levels _ otherFound otherInner =>
          cases found.symm.trans otherFound
          rw [induction otherInner]

end Seen

namespace Trace

/-! ## Depth limits -/

theorem exists_blocks {levels : List Level} (said : ∀ level ∈ levels, level.SaysErrors) :
    ∃ blocks, levels.mapM Level.block = .ok blocks ∧
      List.Forall₂ (fun level text => level.block = .ok text) levels blocks := by
  induction levels with
  | nil => exact ⟨[], rfl, .nil⟩
  | cons level levels induction =>
      rcases Level.exists_block (said level List.mem_cons_self) with ⟨text, shown⟩
      rcases induction fun other member => said other (List.mem_cons_of_mem level member) with
        ⟨blocks, later, each⟩
      refine ⟨text :: blocks, ?_, .cons shown each⟩
      rw [List.mapM_cons, shown, later]
      rfl

end Trace

end CilTrace
