import Mathlib.Data.List.TakeWhile
import CilTrace.Text.Blank
import CilTrace.TextBuffer

/-!
Trimming a buffer of fragments is trimming its text.

A suffix may reach over several fragments, so a fragment that became shorter than the suffix is
joined to the one before it. Each round leaves the text as it is or takes one copy of the suffix off
it, and where no round has anything to do the text does not end with the suffix.
-/

namespace CilTrace

/-! ## Texts without a suffix -/

namespace Text

/-- A text repeated a number of times. -/
def copies (count : Nat) (text : String) : String :=
  String.join (List.replicate count text)

@[simp] theorem copies_zero (text : String) : copies 0 text = "" := rfl

@[simp] theorem copies_one (text : String) : copies 1 text = text := by
  simp [copies]

theorem copies_add (count more : Nat) (text : String) :
    copies (count + more) text = copies count text ++ copies more text := by
  simp [copies, ← List.replicate_append_replicate]

/-- `rest` is `text` without any copy of a suffix at its end. -/
structure Trimmed (suffix text rest : String) : Prop where
  cut : ∃ count, text = rest ++ copies count suffix
  bare : ∀ front, rest ≠ front ++ suffix

namespace Trimmed

variable {suffix text rest other : String}

theorem eq_of_copies {count more : Nat} (bare : ∀ front, rest ≠ front ++ suffix)
    (same : rest ++ copies count suffix = other ++ copies (count + more) suffix) :
    rest = other := by
  have front : rest = other ++ copies more suffix := by
    rw [Nat.add_comm, copies_add, ← String.append_assoc] at same
    exact (String.append_left_inj _).mp same
  cases more with
  | zero => simpa using front
  | succ more =>
      rw [copies_add, copies_one, ← String.append_assoc] at front
      exact absurd front (bare _)

theorem unique (left : Trimmed suffix text rest) (right : Trimmed suffix text other) :
    rest = other := by
  rcases left.cut with ⟨count, cut⟩
  rcases right.cut with ⟨otherCount, otherCut⟩
  have same := cut.symm.trans otherCut
  rcases Nat.le_total count otherCount with fewer | fewer
  · rw [← Nat.add_sub_cancel' fewer] at same
    exact eq_of_copies left.bare same
  · rw [← Nat.add_sub_cancel' fewer] at same
    exact (eq_of_copies right.bare same.symm).symm

end Trimmed

end Text

/-! ## Rounds of trimming -/

namespace TextBuffer

open Text

theorem toString_cons (last : String) (before : List String) :
    toString ⟨last :: before⟩ = toString ⟨before⟩ ++ last := by
  simp [toString]

/-- A round takes one copy of the suffix off the text, or none. -/
theorem toString_of_trimStep {suffix : String} {fragments rest : List String}
    (step : trimStep suffix fragments = some rest) :
    ∃ count, toString ⟨fragments⟩ = toString ⟨rest⟩ ++ copies count suffix := by
  rcases trimStep_cases step with ⟨left, before, rfl, rfl⟩ | ⟨last, previous, before, rfl, rfl⟩
  · refine ⟨1, ?_⟩
    split
    · next empty => simp [toString_cons, String.isEmpty_iff.mp empty]
    · simp [toString_cons, String.append_assoc]
  · exact ⟨0, by simp [toString_cons, String.append_assoc]⟩

/-- A round has nothing to do if the last fragment does not end with the suffix, and is the only
one or not too short to tell. -/
theorem trimStep_eq_none {suffix last : String} {before : List String}
    (stop : trimStep suffix (last :: before) = none) :
    withoutSuffix? suffix last = none ∧ (before = [] ∨ suffix.length ≤ last.length) := by
  cases found : withoutSuffix? suffix last with
  | some rest => simp [trimStep, found] at stop
  | none =>
      refine ⟨rfl, ?_⟩
      cases before with
      | nil => exact .inl rfl
      | cons previous before =>
          simp only [trimStep, found] at stop
          exact .inr (Nat.le_of_not_lt fun short => by simp [short] at stop)

theorem bare_of_trimStep {suffix : String} (shown : suffix ≠ "") {fragments : List String}
    (stop : trimStep suffix fragments = none) (front : String) :
    toString ⟨fragments⟩ ≠ front ++ suffix := by
  intro ends
  cases fragments with
  | nil => exact shown (String.append_eq_empty_iff.mp ends.symm).2
  | cons last before =>
      rcases trimStep_eq_none stop with ⟨stays, alone⟩
      rw [toString_cons] at ends
      -- The suffix is at the end of the last fragment, or else longer than it.
      have inside : ∃ rest, last = rest ++ suffix := by
        rcases alone with rfl | long
        · exact ⟨front, by simpa [toString] using ends⟩
        · have whole := congrArg String.toList ends
          rw [String.toList_append, String.toList_append] at whole
          have suffixEnds : suffix.toList <:+ (toString ⟨before⟩).toList ++ last.toList :=
            ⟨front.toList, whole.symm⟩
          rcases List.suffix_of_suffix_length_le suffixEnds (List.suffix_append _ _)
            (by simpa only [String.length_toList] using long) with ⟨rest, cut⟩
          exact ⟨String.ofList rest, String.toList_inj.mp (by simp [← cut])⟩
      rcases inside with ⟨rest, cut⟩
      rw [withoutSuffix?_eq_some_iff.mpr cut] at stays
      cases stays

theorem trimmed_trimFragments {suffix : String} (shown : suffix ≠ "") (fragments : List String) :
    Trimmed suffix (toString ⟨fragments⟩) (toString ⟨trimFragments suffix shown fragments⟩) := by
  fun_induction trimFragments suffix shown fragments with
  | case1 fragments stop => exact ⟨⟨0, by simp⟩, bare_of_trimStep shown stop⟩
  | case2 fragments rest step induction =>
      rcases induction.cut with ⟨count, cut⟩
      rcases toString_of_trimStep step with ⟨taken, text⟩
      exact ⟨⟨count + taken, by rw [text, cut, copies_add, String.append_assoc]⟩, induction.bare⟩

theorem trimmed_trimEnd (buffer : TextBuffer) {suffix : String} (shown : suffix ≠ "") :
    Trimmed suffix buffer.toString (buffer.trimEnd suffix).toString := by
  rw [trimEnd, dif_neg shown]
  exact trimmed_trimFragments shown buffer.fragments

end TextBuffer

/-! ## Spaces -/

namespace Text

/-- Trimming never goes past a character of another kind. -/
theorem trimEndOf_append {char : Char} {last : String}
    (other : ∃ kept ∈ last.toList, kept ≠ char) (front : String) :
    trimEndOf char (front ++ last) = front ++ trimEndOf char last := by
  have stops : ¬ (last.toList.reverse.dropWhile (· == char)).isEmpty = true := by
    rcases other with ⟨kept, member, different⟩
    rw [List.isEmpty_iff, List.dropWhile_eq_nil_iff]
    intro all
    exact different (eq_of_beq (all kept (List.mem_reverse.mpr member)))
  apply String.toList_inj.mp
  unfold trimEndOf dropTrailing
  rw [String.toList_append, List.reverse_append, List.dropWhile_append, if_neg stops]
  simp

theorem toList_copies_singleton (char : Char) (count : Nat) :
    (copies count (String.singleton char)).toList = List.replicate count char := by
  induction count with
  | zero => rfl
  | succ count induction =>
      rw [copies_add, String.toList_append, induction]
      simp [List.replicate_succ']

theorem trimmed_trimEndOf (char : Char) (text : String) :
    Trimmed (String.singleton char) text (trimEndOf char text) := by
  constructor
  · refine ⟨(text.toList.reverse.takeWhile (· == char)).length, ?_⟩
    have same : text.toList.reverse.takeWhile (· == char) =
        List.replicate (text.toList.reverse.takeWhile (· == char)).length char :=
      List.eq_replicate_of_mem fun kept member =>
        eq_of_beq (List.mem_takeWhile_imp (p := (· == char)) member)
    apply String.toList_inj.mp
    rw [String.toList_append, toList_copies_singleton, trimEndOf, dropTrailing,
      String.toList_ofList, ← List.reverse_replicate, ← same, ← List.reverse_append,
      List.takeWhile_append_dropWhile, List.reverse_reverse]
  · intro front ends
    have stop := List.head?_dropWhile_not (· == char) text.toList.reverse
    have first : (text.toList.reverse.dropWhile (· == char)).head? = some char := by
      have whole := congrArg (fun shown => shown.toList.reverse) ends
      simp only [trimEndOf, dropTrailing, String.toList_ofList, List.reverse_reverse,
        String.toList_append, List.reverse_append] at whole
      rw [whole]
      simp
    rw [first] at stop
    simp at stop

end Text

namespace TextBuffer

theorem toString_trimEnd_space (buffer : TextBuffer) :
    (buffer.trimEnd " ").toString = Text.trimEndOf ' ' buffer.toString :=
  (buffer.trimmed_trimEnd (by decide)).unique (Text.trimmed_trimEndOf ' ' _)

end TextBuffer

end CilTrace
