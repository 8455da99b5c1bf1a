import CilTrace.Proofs.TextTrimming

/-!
A buffer of fragments behaves as one text.

Edits of a buffer do to its text what they would do to a single text, through any run of edits. How
the text is cut into fragments shows only in the number of rounds that trimming takes.
-/

namespace CilTrace

namespace TextBuffer

inductive Edit where
  | append (text : String)
  | appendLine (text : String)
  | trimEnd (suffix : String)

namespace Edit

def apply (buffer : TextBuffer) : Edit → TextBuffer
  | append text => buffer.append text
  | appendLine text => buffer.appendLine text
  | trimEnd suffix => buffer.trimEnd suffix

/-- What an edit makes of one text. -/
inductive Turns : Edit → String → String → Prop where
  | append (text added : String) : Turns (.append added) text (text ++ added)
  | appendLine (text added : String) : Turns (.appendLine added) text (text ++ added ++ "\n")
  | trimNothing (text : String) : Turns (.trimEnd "") text text
  | trimEnd (suffix text rest : String) (shown : suffix ≠ "")
      (trimmed : Text.Trimmed suffix text rest) : Turns (.trimEnd suffix) text rest

theorem Turns.unique {edit : Edit} {text next other : String} (turns : edit.Turns text next)
    (otherTurns : edit.Turns text other) : next = other := by
  cases turns with
  | append | appendLine =>
      cases otherTurns
      rfl
  | trimNothing =>
      cases otherTurns with
      | trimNothing => rfl
      | trimEnd _ _ _ shown => exact absurd rfl shown
  | trimEnd _ _ _ shown trimmed =>
      cases otherTurns with
      | trimNothing => exact absurd rfl shown
      | trimEnd _ _ _ _ otherTrimmed => exact trimmed.unique otherTrimmed

theorem turns_apply (edit : Edit) (buffer : TextBuffer) :
    edit.Turns buffer.toString (edit.apply buffer).toString := by
  cases edit with
  | append text =>
      rw [apply, toString_append]
      exact .append _ _
  | appendLine text =>
      rw [apply, TextBuffer.toString_appendLine]
      exact .appendLine _ _
  | trimEnd suffix =>
      by_cases empty : suffix = ""
      · subst empty
        exact .trimNothing _
      · exact .trimEnd _ _ _ empty (buffer.trimmed_trimEnd empty)

/-- The texts that edits make of one text, one after another. -/
inductive TextRun : String → List Edit → List String → Prop where
  | nil (text : String) : TextRun text [] []
  | cons (text next : String) (edit : Edit) (edits : List Edit) (texts : List String)
      (turns : edit.Turns text next) (later : TextRun next edits texts) :
      TextRun text (edit :: edits) (next :: texts)

theorem TextRun.unique {text : String} {edits : List Edit} {texts others : List String}
    (run : TextRun text edits texts) (otherRun : TextRun text edits others) : texts = others := by
  induction run generalizing others with
  | nil =>
      cases otherRun
      rfl
  | cons text next edit edits texts turns later induction =>
      cases otherRun with
      | cons _ other _ _ others otherTurns otherLater =>
          cases turns.unique otherTurns
          rw [induction otherLater]

end Edit

/-- The buffer after each of some edits. -/
def run : TextBuffer → List Edit → List TextBuffer
  | _, [] => []
  | buffer, edit :: edits => edit.apply buffer :: run (edit.apply buffer) edits

theorem textRun_run (buffer : TextBuffer) (edits : List Edit) :
    Edit.TextRun buffer.toString edits ((buffer.run edits).map toString) := by
  induction edits generalizing buffer with
  | nil => exact .nil _
  | cons edit edits induction =>
      exact .cons _ _ _ _ _ (edit.turns_apply buffer) (induction (edit.apply buffer))

theorem length_toString (buffer : TextBuffer) : buffer.toString.length = buffer.length := by
  rcases buffer with ⟨fragments⟩
  induction fragments with
  | nil => rfl
  | cons last before induction =>
      rw [toString_cons, String.length_append, induction, length, length, List.foldr_cons,
        Nat.add_comm]

/-- Trimming that has nothing left to do after a number of rounds. -/
inductive Rounds (suffix : String) : Nat → List String → List String → Prop where
  | stop (fragments : List String) (stop : trimStep suffix fragments = none) :
      Rounds suffix 0 fragments fragments
  | round (count : Nat) (fragments next rest : List String)
      (step : trimStep suffix fragments = some next) (later : Rounds suffix count next rest) :
      Rounds suffix (count + 1) fragments rest

theorem exists_rounds {suffix : String} (shown : suffix ≠ "") (fragments : List String) :
    ∃ count ≤ weight fragments,
      Rounds suffix count fragments (trimFragments suffix shown fragments) := by
  fun_induction trimFragments suffix shown fragments with
  | case1 fragments stop => exact ⟨0, Nat.zero_le _, .stop _ stop⟩
  | case2 fragments rest step induction =>
      rcases induction with ⟨count, bound, later⟩
      have lighter := weight_lt_of_trimStep shown step
      exact ⟨count + 1, by omega, .round _ _ _ _ step later⟩

/--
Through any run of edits a buffer has the texts that the edits make of one text, and no others are
possible; its length is that of its text. Trimming comes to an end after no more rounds than the
buffer has characters and fragments.
-/
theorem edits_act_on_one_text (initial : String) (edits : List Edit) :
    (ofString initial).toString = initial ∧
      Edit.TextRun initial edits (((ofString initial).run edits).map toString) ∧
      (∀ texts, Edit.TextRun initial edits texts →
        ((ofString initial).run edits).map toString = texts) ∧
      ∀ buffer ∈ ofString initial :: (ofString initial).run edits,
        buffer.length = buffer.toString.length ∧
        ∀ suffix ≠ "", ∃ count ≤ buffer.length + buffer.fragments.length,
          Rounds suffix count buffer.fragments (buffer.trimEnd suffix).fragments := by
  have texts := textRun_run (ofString initial) edits
  rw [toString_ofString] at texts
  refine ⟨toString_ofString initial, texts, fun _ others => texts.unique others, ?_⟩
  intro buffer _
  refine ⟨buffer.length_toString.symm, ?_⟩
  intro suffix shown
  rw [trimEnd, dif_neg shown]
  exact exists_rounds shown buffer.fragments

/-- Copies of a suffix lie across three fragments; then an empty fragment is in the way. -/
theorem edits_act_on_one_text_across_fragments :
    Edit.TextRun "xab" [.append "a", .append "b", .trimEnd "ab", .appendLine "", .trimEnd "\n"]
        ["xaba", "xabab", "x", "x\n", "x"] ∧
      ((ofString "xab").run
          [.append "a", .append "b", .trimEnd "ab", .appendLine "", .trimEnd "\n"]).map toString =
        ["xaba", "xabab", "x", "x\n", "x"] ∧
      "b" ≠ "" ∧ ∃ count ≤ 4,
        Rounds "b" count (ofString "xab").fragments ((ofString "xab").trimEnd "b").fragments := by
  have bare {suffix : String} (other : suffix.toList.getLast? ≠ some 'x')
      (shown : suffix ≠ "") (front : String) : "x" ≠ front ++ suffix := by
    intro same
    apply other
    have last := congrArg (fun text => text.toList.getLast?) same
    simpa [shown] using last.symm
  have texts : Edit.TextRun "xab"
      [.append "a", .append "b", .trimEnd "ab", .appendLine "", .trimEnd "\n"]
      ["xaba", "xabab", "x", "x\n", "x"] :=
    .cons _ _ _ _ _ (.append _ _) <| .cons _ _ _ _ _ (.append _ _) <|
      .cons _ _ _ _ _ (.trimEnd _ _ _ (by decide) ⟨⟨2, rfl⟩, bare (by decide) (by decide)⟩) <|
        .cons _ _ _ _ _ (.appendLine _ _) <|
          .cons _ _ _ _ _ (.trimEnd _ _ _ (by decide) ⟨⟨1, rfl⟩, bare (by decide) (by decide)⟩) <|
            .nil _
  rcases edits_act_on_one_text "xab"
    [.append "a", .append "b", .trimEnd "ab", .appendLine "", .trimEnd "\n"] with
    ⟨_, _, only, buffers⟩
  exact ⟨texts, only _ texts, by decide, (buffers _ List.mem_cons_self).2 "b" (by decide)⟩

end TextBuffer

end CilTrace
