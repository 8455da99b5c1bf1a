/-!
A text that grows at its end.

The text is kept as fragments, so that adding to it and trimming its end touch only the last few of
them. Its value is the fragments joined together. Trimming goes in rounds, each of which looks at the
last two fragments only.
-/

namespace CilTrace

/-- The fragments of a text, the last one first. -/
structure TextBuffer where
  fragments : List String := []
deriving DecidableEq, Repr

namespace TextBuffer

/-- The text of a buffer. -/
def toString (buffer : TextBuffer) : String :=
  String.join buffer.fragments.reverse

/-- A buffer that holds one text. -/
def ofString (text : String) : TextBuffer :=
  ⟨if text.isEmpty then [] else [text]⟩

/-- The number of characters. -/
def length (buffer : TextBuffer) : Nat :=
  buffer.fragments.foldr (fun fragment total => fragment.length + total) 0

def append (buffer : TextBuffer) (text : String) : TextBuffer :=
  if text.isEmpty then buffer else ⟨text :: buffer.fragments⟩

/-- Adds a text and a line feed. -/
def appendLine (buffer : TextBuffer) (text : String) : TextBuffer :=
  ⟨"\n" :: text :: buffer.fragments⟩

@[simp] theorem toString_ofString (text : String) : (ofString text).toString = text := by
  unfold ofString
  split
  · next empty => simp [String.isEmpty_iff.mp empty, toString, String.join]
  · simp [toString, String.join]

@[simp] theorem toString_append (buffer : TextBuffer) (text : String) :
    (buffer.append text).toString = buffer.toString ++ text := by
  unfold append
  split
  · next empty => simp [String.isEmpty_iff.mp empty]
  · simp [toString, String.join]

@[simp] theorem toString_appendLine (buffer : TextBuffer) (text : String) :
    (buffer.appendLine text).toString = buffer.toString ++ text ++ "\n" := by
  simp [toString, appendLine, String.join]

/-! ## Trimming -/

/-- What is left of a text when a suffix is taken off its end once. -/
def withoutSuffix? (suffix text : String) : Option String :=
  if suffix.toList.isSuffixOf text.toList then
    some (String.ofList (text.toList.take (text.length - suffix.length)))
  else none

theorem withoutSuffix?_eq_some_iff {suffix text rest : String} :
    withoutSuffix? suffix text = some rest ↔ text = rest ++ suffix := by
  unfold withoutSuffix?
  constructor
  · intro found
    split at found
    · next ends =>
      rcases List.isSuffixOf_iff_suffix.mp ends with ⟨front, cut⟩
      cases found
      apply String.toList_inj.mp
      rw [String.toList_append, String.toList_ofList, ← String.length_toList,
        ← String.length_toList, ← cut]
      simp
    · cases found
  · rintro rfl
    have ends : suffix.toList.isSuffixOf (rest ++ suffix).toList = true := by
      rw [String.toList_append]
      exact List.isSuffixOf_iff_suffix.mpr (List.suffix_append _ _)
    rw [if_pos ends, String.toList_append, String.length_append, Nat.add_sub_cancel,
      ← String.length_toList, List.take_left, String.ofList_toList]

/--
One round of trimming, if there is anything to do. A suffix at the end of the last fragment is taken
off, and a fragment that is then empty is dropped. A last fragment that is shorter than the suffix is
joined to the one before it.
-/
def trimStep (suffix : String) : List String → Option (List String)
  | [] => none
  | last :: before =>
      match withoutSuffix? suffix last, before with
      | some rest, before => some (if rest.isEmpty then before else rest :: before)
      | none, previous :: before =>
          if last.length < suffix.length then some ((previous ++ last) :: before) else none
      | none, [] => none

/-- What a round can do: take a suffix off, or join two fragments. -/
theorem trimStep_cases {suffix : String} {fragments rest : List String}
    (step : trimStep suffix fragments = some rest) :
    (∃ left before, fragments = (left ++ suffix) :: before ∧
        rest = if left.isEmpty then before else left :: before) ∨
      ∃ last previous before, fragments = last :: previous :: before ∧
        rest = (previous ++ last) :: before := by
  unfold trimStep at step
  split at step
  · cases step
  · split at step
    · next found =>
      cases step
      exact .inl ⟨_, _, by rw [← withoutSuffix?_eq_some_iff.mp found], rfl⟩
    · split at step
      · cases step
        exact .inr ⟨_, _, _, rfl, rfl⟩
      · cases step
    · cases step

/-- The characters and the fragments, counted together. -/
def weight (fragments : List String) : Nat :=
  length ⟨fragments⟩ + fragments.length

theorem weight_cons (last : String) (before : List String) :
    weight (last :: before) = last.length + weight before + 1 := by
  simp only [weight, length, List.foldr_cons, List.length_cons]
  omega

/-- A round takes off characters or leaves fewer fragments. -/
theorem weight_lt_of_trimStep {suffix : String} (shown : suffix ≠ "") {fragments rest : List String}
    (step : trimStep suffix fragments = some rest) : weight rest < weight fragments := by
  have size : 0 < suffix.length := by
    rw [← String.length_toList]
    exact List.length_pos_iff.mpr (by simpa using shown)
  rcases trimStep_cases step with ⟨left, before, rfl, rfl⟩ | ⟨last, previous, before, rfl, rfl⟩
  · rw [weight_cons, String.length_append]
    split
    · omega
    · rw [weight_cons]
      omega
  · simp only [weight_cons, String.length_append]
    omega

/-- Trims until a round has nothing to do. -/
def trimFragments (suffix : String) (shown : suffix ≠ "") (fragments : List String) : List String :=
  match _ : trimStep suffix fragments with
  | none => fragments
  | some rest => trimFragments suffix shown rest
termination_by weight fragments
decreasing_by
  next step => exact weight_lt_of_trimStep shown step

/-- Takes every copy of a suffix off the end; an empty suffix takes nothing. -/
def trimEnd (buffer : TextBuffer) (suffix : String) : TextBuffer :=
  if empty : suffix = "" then buffer else ⟨trimFragments suffix empty buffer.fragments⟩

end TextBuffer

end CilTrace
