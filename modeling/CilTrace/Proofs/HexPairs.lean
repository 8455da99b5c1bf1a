import Mathlib.Data.List.Forall2
import Mathlib.Tactic.IntervalCases
import CilTrace.Text.HexText

/-!
The grammar of texts of digit pairs.

A text spells bytes if it is made of pairs of hexadecimal digits with ASCII blanks before, between
and after them. Reading accepts these texts only. A blank parts a text into two that spell their
bytes each on its own.
-/

namespace CilTrace

namespace HexText

/-- A hexadecimal digit in either case, and its value. -/
def IsDigit (char : Char) (value : Nat) : Prop :=
  value < 16 ∧ (char = Nat.digitChar value ∨ char = (Nat.digitChar value).toUpper)

instance (char : Char) (value : Nat) : Decidable (IsDigit char value) :=
  inferInstanceAs (Decidable (_ ∧ _))

def asciiBlanks : List Char :=
  [' ', '\t', '\n', '\x0b', '\x0c', '\r']

inductive Spells : List Char → List UInt8 → Prop where
  | nil : Spells [] []
  | blank (char : Char) (rest : List Char) (bytes : List UInt8) (isBlank : char ∈ asciiBlanks)
      (later : Spells rest bytes) : Spells (char :: rest) bytes
  | pair (first second : Char) (high low : Nat) (rest : List Char) (bytes : List UInt8)
      (firstDigit : IsDigit first high) (secondDigit : IsDigit second low)
      (later : Spells rest bytes) :
      Spells (first :: second :: rest) (UInt8.ofNat (16 * high + low) :: bytes)

/-! ## Characters -/

theorem ascii_of_digitValue? {char : Char} {value : Nat}
    (found : Hex.digitValue? char = some value) : char.toNat < 0x80 ∧ value < 16 := by
  have numeral {bound : Char} (le : char ≤ bound) : char.toNat ≤ bound.toNat := le
  unfold Hex.digitValue? at found
  split at found
  · next range =>
    have upper := numeral range.2
    cases found
    simp only [Char.reduceToNat] at upper ⊢
    omega
  · split at found
    · next range =>
      have upper := numeral range.2
      cases found
      simp only [Char.reduceToNat] at upper ⊢
      omega
    · split at found
      · next range =>
        have upper := numeral range.2
        cases found
        simp only [Char.reduceToNat] at upper ⊢
        omega
      · cases found

theorem digitValue?_eq_some_iff {char : Char} {value : Nat} :
    Hex.digitValue? char = some value ↔ IsDigit char value := by
  constructor
  · intro found
    have checked : (List.range 0x80).all (fun code =>
        (Hex.digitValue? (Char.ofNat code)).all fun value =>
          decide (IsDigit (Char.ofNat code) value)) = true := by
      decide
    have digit := List.all_eq_true.mp checked char.toNat
      (List.mem_range.mpr (ascii_of_digitValue? found).1)
    rw [Char.ofNat_toNat, found] at digit
    simpa using digit
  · rintro ⟨small, rfl | rfl⟩ <;> interval_cases value <;> rfl

theorem isAsciiBlank_iff {char : Char} : Text.isAsciiBlank char = true ↔ char ∈ asciiBlanks := by
  constructor
  · intro blank
    have codes : char.toNat ∈ [0x20, 0x09, 0x0A, 0x0B, 0x0C, 0x0D] := by
      simp only [Text.isAsciiBlank, Bool.or_eq_true, Bool.and_eq_true, decide_eq_true_eq,
        beq_iff_eq] at blank
      simp only [List.mem_cons, List.not_mem_nil, or_false]
      omega
    have chars := List.mem_map_of_mem (f := Char.ofNat) codes
    rwa [Char.ofNat_toNat] at chars
  · intro member
    simp only [asciiBlanks, List.mem_cons, List.not_mem_nil, or_false] at member
    rcases member with rfl | rfl | rfl | rfl | rfl | rfl <;> rfl

theorem IsDigit.not_blank {char : Char} {value : Nat} (digit : IsDigit char value) :
    char ∉ asciiBlanks := by
  intro blank
  have found := digitValue?_eq_some_iff.mpr digit
  simp only [asciiBlanks, List.mem_cons, List.not_mem_nil, or_false] at blank
  rcases blank with rfl | rfl | rfl | rfl | rfl | rfl <;> cases found

/-! ## Reading -/

theorem readPairs_of_spells {chars : List Char} {bytes : List UInt8} (spells : Spells chars bytes)
    (position : Nat) : readPairs position chars = .ok bytes := by
  induction spells generalizing position with
  | nil => rfl
  | blank char rest bytes isBlank later induction =>
      rw [readPairs, if_pos (isAsciiBlank_iff.mpr isBlank), induction]
  | pair first second high low rest bytes firstDigit secondDigit later induction =>
      have visible : ¬ Text.isAsciiBlank first = true :=
        fun blank => firstDigit.not_blank (isAsciiBlank_iff.mp blank)
      simp [readPairs, visible, digitValue?_eq_some_iff.mpr firstDigit,
        digitValue?_eq_some_iff.mpr secondDigit, induction]

theorem spells_of_readPairs {position : Nat} {chars : List Char} {bytes : List UInt8}
    (read : readPairs position chars = .ok bytes) : Spells chars bytes := by
  fun_induction readPairs position chars generalizing bytes with
  | case1 =>
      cases read
      exact .nil
  | case2 position char rest isBlank induction =>
      exact .blank _ _ _ (isAsciiBlank_iff.mp isBlank) (induction read)
  | case7 position first visible high firstFound second rest low secondFound bytes later
      induction =>
      cases read
      exact .pair _ _ _ _ _ _ (digitValue?_eq_some_iff.mp firstFound)
        (digitValue?_eq_some_iff.mp secondFound) (induction later)
  | case3 | case4 | case5 | case6 => cases read

namespace Spells

variable {chars rest : List Char} {bytes more : List UInt8}

theorem ascii (spells : Spells chars bytes) : ∀ char ∈ chars, char.toNat < 0x80 := by
  induction spells with
  | nil => simp
  | blank char rest bytes isBlank later induction =>
      have blankAscii : ∀ blank ∈ asciiBlanks, blank.toNat < 0x80 := by
        simp [asciiBlanks]
      exact List.forall_mem_cons.mpr ⟨blankAscii char isBlank, induction⟩
  | pair first second high low rest bytes firstDigit secondDigit later induction =>
      have digitAscii {char : Char} {value : Nat} (digit : IsDigit char value) :=
        (ascii_of_digitValue? (digitValue?_eq_some_iff.mpr digit)).1
      exact List.forall_mem_cons.mpr ⟨digitAscii firstDigit,
        List.forall_mem_cons.mpr ⟨digitAscii secondDigit, induction⟩⟩

theorem append (spells : Spells chars bytes) (others : Spells rest more) :
    Spells (chars ++ rest) (bytes ++ more) := by
  induction spells with
  | nil => exact others
  | blank char rest bytes isBlank later induction => exact .blank _ _ _ isBlank induction
  | pair first second high low rest bytes firstDigit secondDigit later induction =>
      exact .pair _ _ _ _ _ _ firstDigit secondDigit induction

/-- No pair reaches over a blank. -/
theorem split {blank : Char} (isBlank : blank ∈ asciiBlanks)
    (spells : Spells (chars ++ blank :: rest) bytes) :
    ∃ front back, Spells chars front ∧ Spells rest back ∧ bytes = front ++ back := by
  generalize whole : chars ++ blank :: rest = text at spells
  induction spells generalizing chars with
  | nil => simp at whole
  | blank char text bytes charBlank later induction =>
      cases chars with
      | nil =>
          cases whole
          exact ⟨[], bytes, .nil, later, rfl⟩
      | cons first chars =>
          cases whole
          rcases induction rfl with ⟨front, back, spelled, others, cut⟩
          exact ⟨front, back, .blank _ _ _ charBlank spelled, others, cut⟩
  | pair first second high low text bytes firstDigit secondDigit later induction =>
      match chars with
      | [] =>
          cases whole
          exact absurd isBlank firstDigit.not_blank
      | [_] =>
          cases whole
          exact absurd isBlank secondDigit.not_blank
      | _ :: _ :: chars =>
          cases whole
          rcases induction rfl with ⟨front, back, spelled, others, rfl⟩
          exact ⟨_ :: front, back, .pair _ _ _ _ _ _ firstDigit secondDigit spelled, others, rfl⟩

end Spells

/-- Reading accepts the texts that spell bytes, and gives these. -/
theorem read_eq_ok_iff {chars : List Char} {bytes : List UInt8} :
    read chars = .ok bytes ↔ Spells chars bytes := by
  unfold read
  constructor
  · intro ok
    split at ok
    · cases ok
    · exact spells_of_readPairs ok
  · intro spells
    have ascii : chars.findIdx? (fun char => 0x80 ≤ char.toNat) = none := by
      rw [List.findIdx?_eq_none_iff]
      intro char member
      simpa using spells.ascii char member
    rw [ascii]
    exact readPairs_of_spells spells 0

/-- Texts with a blank between each two spell their bytes one after another. -/
theorem spells_intercalate_iff {blank : Char} (isBlank : blank ∈ asciiBlanks)
    (texts : List (List Char)) (bytes : List UInt8) :
    Spells (List.intercalate [blank] texts) bytes ↔
      ∃ parts, List.Forall₂ Spells texts parts ∧ bytes = parts.flatten := by
  induction texts generalizing bytes with
  | nil =>
      constructor
      · intro spells
        cases spells
        exact ⟨[], .nil, rfl⟩
      · rintro ⟨parts, spelled, rfl⟩
        cases spelled
        exact .nil
  | cons text texts induction =>
      cases texts with
      | nil =>
          have alone : List.intercalate [blank] [text] = text := by simp [List.intercalate]
          rw [alone]
          constructor
          · intro spells
            exact ⟨[bytes], .cons spells .nil, by simp⟩
          · rintro ⟨_, _ | ⟨spelled, ⟨⟩⟩, rfl⟩
            simpa using spelled
      | cons next texts =>
          have cut : List.intercalate [blank] (text :: next :: texts) =
              text ++ blank :: List.intercalate [blank] (next :: texts) := by
            simp [List.intercalate]
          rw [cut]
          constructor
          · intro spells
            rcases spells.split isBlank with ⟨front, back, spelled, others, rfl⟩
            rcases (induction back).mp others with ⟨parts, spelledParts, rfl⟩
            exact ⟨front :: parts, .cons spelled spelledParts, by simp⟩
          · rintro ⟨_, _ | ⟨spelled, others⟩, rfl⟩
            exact spelled.append (.blank _ _ _ isBlank ((induction _).mpr ⟨_, others, rfl⟩))

end HexText

end CilTrace
