import Mathlib.Algebra.Order.Field.Basic
import Mathlib.Data.Rat.Cast.Order
import Mathlib.Tactic.FieldSimp
import Mathlib.Tactic.Linarith
import Mathlib.Tactic.Positivity
import Mathlib.Tactic.Ring
import CilTrace.Number.Decimal

/-!
Rounding to the nearest magnitude of a binary format.

The rule is stated on rational numbers: no magnitude is nearer, and of two equally near ones the
code is even. `BinaryFormat.nearest` follows this rule for every fraction, and no other code does.
-/

namespace CilTrace

/-! ## Whole numbers -/

/-- A whole number nearest to a number, and even if another one is as near. -/
structure RoundsHalfEven (number : ℚ) (whole : Nat) : Prop where
  near : |number - whole| ≤ 1 / 2
  even : |number - whole| = 1 / 2 → whole % 2 = 0

/-- Twice the numerator against twice the rounded quotient, in whole numbers. -/
theorem roundHalfEven_cases (numerator : Nat) {denominator : Nat} (positive : 0 < denominator) :
    (2 * numerator < 2 * (roundHalfEven numerator denominator * denominator) + denominator ∧
        2 * (roundHalfEven numerator denominator * denominator) < 2 * numerator + denominator) ∨
      (roundHalfEven numerator denominator % 2 = 0 ∧
        (2 * numerator = 2 * (roundHalfEven numerator denominator * denominator) + denominator ∨
          2 * (roundHalfEven numerator denominator * denominator) =
            2 * numerator + denominator)) := by
  have split := Nat.div_add_mod numerator denominator
  have small := Nat.mod_lt numerator positive
  rw [Nat.mul_comm] at split
  have next : (numerator / denominator + 1) * denominator =
      numerator / denominator * denominator + denominator := by ring
  unfold roundHalfEven
  dsimp only
  split_ifs with below above
  · left
    omega
  · left
    rw [next]
    omega
  · right
    rcases Nat.mod_two_eq_zero_or_one (numerator / denominator) with even | odd
    · rw [even, Nat.add_zero]
      omega
    · rw [odd, next]
      omega

theorem roundsHalfEven_roundHalfEven (numerator : Nat) {denominator : Nat}
    (positive : 0 < denominator) :
    RoundsHalfEven (numerator / denominator) (roundHalfEven numerator denominator) := by
  have above : (0 : ℚ) < denominator := by exact_mod_cast positive
  have distance : ((numerator : ℚ) / denominator - roundHalfEven numerator denominator) *
      (2 * denominator) =
        2 * numerator - 2 * (roundHalfEven numerator denominator * denominator) := by
    field_simp
  rcases roundHalfEven_cases numerator positive with ⟨upper, lower⟩ | ⟨even, tie⟩
  · have upper : (2 * numerator : ℚ) <
        2 * (roundHalfEven numerator denominator * denominator) + denominator := by
      exact_mod_cast upper
    have lower : (2 * (roundHalfEven numerator denominator * denominator) : ℚ) <
        2 * numerator + denominator := by
      exact_mod_cast lower
    have inside :
        |(numerator : ℚ) / denominator - roundHalfEven numerator denominator| < 1 / 2 := by
      rw [abs_lt]
      constructor <;> nlinarith
    exact ⟨inside.le, fun tie => absurd tie inside.ne⟩
  · refine ⟨?_, fun _ => even⟩
    have tie : (2 * numerator : ℚ) =
          2 * (roundHalfEven numerator denominator * denominator) + denominator ∨
        (2 * (roundHalfEven numerator denominator * denominator) : ℚ) =
          2 * numerator + denominator := by
      exact_mod_cast tie
    rw [abs_le]
    rcases tie with tie | tie <;> constructor <;> nlinarith

namespace RoundsHalfEven

variable {number : ℚ} {whole : Nat} (rounds : RoundsHalfEven number whole)

include rounds

theorem distance_le (other : Nat) : |number - whole| ≤ |number - other| := by
  rcases eq_or_ne other whole with rfl | different
  · exact le_rfl
  · have apart : (1 : ℚ) ≤ |(other : ℚ) - whole| := by
      have apart : (1 : Int) ≤ |(other : Int) - whole| :=
        Int.one_le_abs (sub_ne_zero.mpr (by exact_mod_cast different))
      exact_mod_cast apart
    have detour := abs_sub_le (other : ℚ) number whole
    rw [abs_sub_comm (other : ℚ) number] at detour
    have near := rounds.near
    linarith

/-- An even number is kept to up to half a unit above it. -/
theorem whole_le_iff {bound : Nat} (even : bound % 2 = 0) :
    whole ≤ bound ↔ number ≤ (bound : ℚ) + 1 / 2 := by
  have near := abs_le.mp rounds.near
  constructor
  · intro kept
    have kept : (whole : ℚ) ≤ bound := by exact_mod_cast kept
    linarith
  · intro small
    by_contra more
    have more : bound + 1 ≤ whole := by omega
    have more' : (bound : ℚ) + 1 ≤ whole := by exact_mod_cast more
    have tie : |number - whole| = 1 / 2 := by
      rw [abs_of_nonpos (by linarith)]
      linarith
    have next : (whole : ℚ) = bound + 1 := by linarith
    have next : whole = bound + 1 := by exact_mod_cast next
    have wholeEven := rounds.even tie
    omega

end RoundsHalfEven

/-! ## The order of magnitudes -/

namespace BinaryFormat

variable {format : BinaryFormat}

theorem leading_pos (format : BinaryFormat) : 0 < format.leading :=
  Nat.pow_pos (by decide)

theorem unitsPerOne_pos (format : BinaryFormat) : 0 < format.unitsPerOne :=
  Nat.pow_pos (by decide)

theorem units_of_lt {code : Nat} (small : code < format.leading) : format.units code = code := by
  rw [units, if_pos small]

/-- A significand with its leading bit at a place above the last one. -/
theorem units_mul_add {place significand : Nat} (leads : format.leading ≤ significand)
    (short : significand < 2 * format.leading) :
    format.units (place * format.leading + significand) = significand * 2 ^ place := by
  have split : place * format.leading + significand =
      (significand - format.leading) + format.leading * (place + 1) := by
    rw [Nat.mul_add, Nat.mul_comm format.leading place]
    omega
  have large : ¬ place * format.leading + significand < format.leading := by omega
  have rest : significand - format.leading < format.leading := by omega
  rw [units, if_neg large, split, Nat.add_mul_mod_self_left, Nat.mod_eq_of_lt rest,
    Nat.add_mul_div_left _ _ (leading_pos format), Nat.div_eq_of_lt rest, Nat.zero_add,
    Nat.add_sub_cancel, Nat.add_sub_cancel' leads]
  rfl

/-- A significand at a place, also where the next place begins. -/
theorem units_pack {place significand : Nat}
    (leads : place = 0 ∨ format.leading ≤ significand) (short : significand ≤ 2 * format.leading) :
    format.units (place * format.leading + significand) = significand * 2 ^ place := by
  rcases Nat.lt_or_ge significand format.leading with small | large
  · rcases leads with rfl | leads
    · rw [Nat.zero_mul, Nat.zero_add, units_of_lt small, pow_zero, Nat.mul_one]
    · omega
  · rcases Nat.lt_or_ge significand (2 * format.leading) with inside | full
    · exact units_mul_add large inside
    · have twice : significand = 2 * format.leading := by omega
      have next : place * format.leading + significand =
          (place + 1) * format.leading + format.leading := by
        rw [twice]
        ring
      have positive := leading_pos format
      rw [next, units_mul_add (Nat.le_refl _) (by omega), twice, pow_succ]
      ring

theorem units_succ {place significand : Nat}
    (leads : place = 0 ∨ format.leading ≤ significand) (short : significand < 2 * format.leading) :
    format.units (place * format.leading + significand + 1) =
      format.units (place * format.leading + significand) + 2 ^ place := by
  have next : place = 0 ∨ format.leading ≤ significand + 1 := by omega
  rw [Nat.add_assoc, units_pack next (by omega), units_pack leads (by omega), Nat.add_mul,
    Nat.one_mul]

/-- Every code holds a place and a significand that fills it, unless the place is the last one. -/
theorem exists_place (format : BinaryFormat) (code : Nat) :
    ∃ place significand, (place = 0 ∨ format.leading ≤ significand) ∧
      significand < 2 * format.leading ∧ code = place * format.leading + significand := by
  have rest := Nat.mod_lt code (leading_pos format)
  have split := Nat.div_add_mod code format.leading
  rw [Nat.mul_comm] at split
  cases whole : code / format.leading with
  | zero =>
      rw [whole] at split
      exact ⟨0, code % format.leading, .inl rfl, by omega, by omega⟩
  | succ place =>
      rw [whole, Nat.succ_mul] at split
      exact ⟨place, format.leading + code % format.leading, .inr (by omega), by omega, by omega⟩

/-- The magnitude below one stands at the same place, or one lower where the place begins. -/
theorem exists_place_below {below place significand : Nat}
    (leads : place = 0 ∨ format.leading ≤ significand) (short : significand < 2 * format.leading)
    (next : below + 1 = place * format.leading + significand) :
    ∃ lower less, (lower = 0 ∨ format.leading ≤ less) ∧ less < 2 * format.leading ∧
      below = lower * format.leading + less ∧ lower ≤ place ∧ place ≤ lower + 1 := by
  have positive := leading_pos format
  rcases exists_place format below with ⟨lower, less, lowerLeads, lowerShort, rfl⟩
  refine ⟨lower, less, lowerLeads, lowerShort, rfl, ?_, ?_⟩
  · by_contra above
    have above := Nat.mul_le_mul_right format.leading (by omega : place + 1 ≤ lower)
    rw [Nat.add_mul] at above
    omega
  · by_contra far
    have far := Nat.mul_le_mul_right format.leading (by omega : lower + 2 ≤ place)
    rw [Nat.add_mul] at far
    omega

theorem units_strictMono (format : BinaryFormat) : StrictMono format.units := by
  apply strictMono_nat_of_lt_succ
  intro code
  rcases exists_place format code with ⟨place, significand, leads, short, rfl⟩
  rw [units_succ leads short]
  exact Nat.lt_add_of_pos_right (Nat.pow_pos (by decide))

/-- The value of a finite magnitude, and for infinity the power of two behind the largest one. -/
def value (format : BinaryFormat) (code : Nat) : ℚ :=
  format.units code / format.unitsPerOne

theorem value_strictMono (format : BinaryFormat) : StrictMono format.value := by
  intro code other less
  have positive : (0 : ℚ) < format.unitsPerOne := by exact_mod_cast unitsPerOne_pos format
  have units : (format.units code : ℚ) < format.units other := by
    exact_mod_cast units_strictMono format less
  exact div_lt_div_of_pos_right units positive

theorem value_zero (format : BinaryFormat) : format.value 0 = 0 := by
  rw [value, units_of_lt (leading_pos format), Nat.cast_zero, zero_div]

/-- The number halfway between a magnitude and the next one. -/
def midpoint (format : BinaryFormat) (code : Nat) : ℚ :=
  (format.value code + format.value (code + 1)) / 2

theorem midpoint_strictMono (format : BinaryFormat) : StrictMono format.midpoint := by
  intro code other less
  have lower := value_strictMono format less
  have upper := value_strictMono format (Nat.succ_lt_succ less)
  unfold midpoint
  linarith

/-! ## The rule -/

/--
A code to which a number is rounded: no magnitude is nearer to the number, and the code is even if
another magnitude is as near. A number is rounded to infinity if the power of two behind the largest
finite magnitude is nearest in this sense.
-/
structure RoundsTo (format : BinaryFormat) (number : ℚ) (code : Nat) : Prop where
  bounded : code ≤ format.infinity
  nearest : ∀ other ≤ format.infinity, |number - format.value code| ≤ |number - format.value other|
  even : ∀ other ≤ format.infinity, other ≠ code →
    |number - format.value code| = |number - format.value other| → code % 2 = 0

theorem abs_sub_le_of_le_half {left right number : ℚ} (ordered : left ≤ right)
    (below : number ≤ (left + right) / 2) : |number - left| ≤ |number - right| := by
  rw [abs_sub_comm number right, abs_le]
  have distance := le_abs_self (right - number)
  constructor <;> linarith

theorem abs_sub_le_of_half_le {left right number : ℚ} (ordered : left ≤ right)
    (above : (left + right) / 2 ≤ number) : |number - right| ≤ |number - left| := by
  rw [abs_le]
  have distance := le_abs_self (number - left)
  constructor <;> linarith

theorem le_half_of_abs_sub_le {left right number : ℚ} (ordered : left < right)
    (nearer : |number - left| ≤ |number - right|) : number ≤ (left + right) / 2 := by
  by_contra above
  have above := not_le.mp above
  rw [abs_of_pos (by linarith : 0 < number - left), le_abs] at nearer
  rcases nearer with nearer | nearer <;> linarith

theorem half_le_of_abs_sub_le {left right number : ℚ} (ordered : left < right)
    (nearer : |number - right| ≤ |number - left|) : (left + right) / 2 ≤ number := by
  by_contra below
  have below := not_le.mp below
  rw [abs_of_neg (by linarith : number - right < 0), le_abs] at nearer
  rcases nearer with nearer | nearer <;> linarith

namespace RoundsTo

variable {number : ℚ} {code : Nat} (rounds : format.RoundsTo number code)

include rounds

theorem le_midpoint (finite : code < format.infinity) :
    number ≤ format.midpoint code ∧ (number = format.midpoint code → code % 2 = 0) := by
  have ordered := value_strictMono format code.lt_succ_self
  refine ⟨le_half_of_abs_sub_le ordered (rounds.nearest (code + 1) finite), ?_⟩
  intro tie
  apply rounds.even (code + 1) finite (by omega)
  unfold midpoint at tie
  rw [abs_sub_comm number (format.value (code + 1)), abs_of_pos, abs_of_pos] <;> linarith

theorem midpoint_le {below : Nat} (next : code = below + 1) :
    format.midpoint below ≤ number ∧ (number = format.midpoint below → code % 2 = 0) := by
  subst next
  have ordered := value_strictMono format below.lt_succ_self
  have bounded := Nat.le_of_succ_le rounds.bounded
  refine ⟨half_le_of_abs_sub_le ordered (rounds.nearest below bounded), ?_⟩
  intro tie
  apply rounds.even below bounded (by omega)
  unfold midpoint at tie
  rw [abs_sub_comm number (format.value (below + 1)), abs_of_pos, abs_of_pos] <;> linarith

end RoundsTo

section Midpoints

variable {number : ℚ} {code : Nat}
  (upper : code < format.infinity → number ≤ format.midpoint code ∧
    (number = format.midpoint code → code % 2 = 0))
  (lower : ∀ below, code = below + 1 → format.midpoint below ≤ number ∧
    (number = format.midpoint below → code % 2 = 0))

include upper lower

theorem abs_sub_le_of_midpoints {other : Nat} (bounded : other ≤ format.infinity) :
    |number - format.value code| ≤ |number - format.value other| := by
  rcases Nat.lt_trichotomy code other with less | rfl | more
  · have ordered := value_strictMono format less
    have next := (value_strictMono format).monotone (Nat.succ_le_of_lt less)
    have small := (upper (by omega)).1
    unfold midpoint at small
    exact abs_sub_le_of_le_half ordered.le (by linarith)
  · exact le_rfl
  · rcases Nat.exists_eq_succ_of_ne_zero (by omega : code ≠ 0) with ⟨below, rfl⟩
    have ordered := value_strictMono format more
    have next := (value_strictMono format).monotone (Nat.le_of_lt_succ more)
    have large := (lower below rfl).1
    unfold midpoint at large
    exact abs_sub_le_of_half_le ordered.le (by linarith)

theorem even_of_midpoints {other : Nat} (bounded : other ≤ format.infinity)
    (different : other ≠ code)
    (tie : |number - format.value code| = |number - format.value other|) : code % 2 = 0 := by
  rcases Nat.lt_or_gt_of_ne different with less | more
  · rcases Nat.exists_eq_succ_of_ne_zero (by omega : code ≠ 0) with ⟨below, rfl⟩
    have ordered := value_strictMono format less
    have next := (value_strictMono format).monotone (Nat.le_of_lt_succ less)
    have large := lower below rfl
    have small := le_half_of_abs_sub_le ordered tie.ge
    apply large.2
    unfold midpoint at large ⊢
    exact le_antisymm (by linarith) large.1
  · have ordered := value_strictMono format more
    have next := (value_strictMono format).monotone (Nat.succ_le_of_lt more)
    have small := upper (by omega)
    have large := half_le_of_abs_sub_le ordered tie.ge
    apply small.2
    unfold midpoint at small ⊢
    exact le_antisymm small.1 (by linarith)

end Midpoints

/-- A number is rounded to a code if it lies between the midpoints on its two sides, and on one of
them only if the code is even. -/
theorem roundsTo_iff {number : ℚ} {code : Nat} :
    format.RoundsTo number code ↔ code ≤ format.infinity ∧
      (code < format.infinity → number ≤ format.midpoint code ∧
        (number = format.midpoint code → code % 2 = 0)) ∧
      ∀ below, code = below + 1 → format.midpoint below ≤ number ∧
        (number = format.midpoint below → code % 2 = 0) := by
  constructor
  · intro rounds
    exact ⟨rounds.bounded, rounds.le_midpoint, fun _ => rounds.midpoint_le⟩
  · rintro ⟨bounded, upper, lower⟩
    exact ⟨bounded, fun _ => abs_sub_le_of_midpoints upper lower,
      fun _ => even_of_midpoints upper lower⟩

namespace RoundsTo

variable {number : ℚ} {code other : Nat}

theorem not_lt (rounds : format.RoundsTo number code) (others : format.RoundsTo number other) :
    ¬ code < other := by
  intro less
  rcases Nat.exists_eq_succ_of_ne_zero (by omega : other ≠ 0) with ⟨below, rfl⟩
  have upper := rounds.le_midpoint (less.trans_le others.bounded)
  have lower := others.midpoint_le rfl
  have between := (midpoint_strictMono format).monotone (Nat.le_of_lt_succ less)
  have consecutive : code = below :=
    (midpoint_strictMono format).injective (le_antisymm between (lower.1.trans upper.1))
  subst consecutive
  have tie := le_antisymm upper.1 lower.1
  have even := upper.2 tie
  have nextEven := lower.2 tie
  omega

/-- A number lies between the magnitudes next to the one that it is rounded to. -/
theorem le_value_succ (rounds : format.RoundsTo number code) (finite : code < format.infinity) :
    number ≤ format.value (code + 1) := by
  have upper := (rounds.le_midpoint finite).1
  have ordered := value_strictMono format code.lt_succ_self
  rw [midpoint] at upper
  linarith

theorem value_le_of_succ {below : Nat} (rounds : format.RoundsTo number (below + 1)) :
    format.value below ≤ number := by
  have lower := (rounds.midpoint_le rfl).1
  have ordered := value_strictMono format below.lt_succ_self
  rw [midpoint] at lower
  linarith

/-- A number is rounded to one code only. -/
theorem unique (rounds : format.RoundsTo number code) (others : format.RoundsTo number other) :
    code = other :=
  Nat.le_antisymm (Nat.le_of_not_lt (others.not_lt rounds))
    (Nat.le_of_not_lt (rounds.not_lt others))

/-- Rounding does not pass a magnitude. -/
theorem le_of_le_value (rounds : format.RoundsTo number code) {bound : Nat}
    (bounded : bound ≤ format.infinity) (small : number ≤ format.value bound) : code ≤ bound := by
  by_contra above
  have greater := value_strictMono format (not_le.mp above)
  have nearer := rounds.nearest bound bounded
  rw [abs_of_nonpos (by linarith), abs_of_nonpos (by linarith)] at nearer
  linarith

theorem ge_of_value_le (rounds : format.RoundsTo number code) {bound : Nat}
    (bounded : bound ≤ format.infinity) (large : format.value bound ≤ number) : bound ≤ code := by
  by_contra below
  have less := value_strictMono format (not_le.mp below)
  have nearer := rounds.nearest bound bounded
  rw [abs_of_nonneg (by linarith), abs_of_nonneg (by linarith)] at nearer
  linarith

/-- What lies between a number and the magnitude to which it is rounded is rounded alike. -/
theorem of_between (rounds : format.RoundsTo number code) {nearer : ℚ}
    (between : |number - format.value code| =
      |number - nearer| + |nearer - format.value code|) : format.RoundsTo nearer code where
  bounded := rounds.bounded
  nearest other bounded := by
    have distance := rounds.nearest other bounded
    have detour := abs_sub_le number nearer (format.value other)
    linarith
  even other bounded different tie := by
    apply rounds.even other bounded different
    have distance := rounds.nearest other bounded
    have detour := abs_sub_le number nearer (format.value other)
    linarith

/-- A magnitude is rounded to itself. -/
theorem value (bounded : code ≤ format.infinity) : format.RoundsTo (format.value code) code where
  bounded := bounded
  nearest other _ := by
    rw [sub_self, abs_zero]
    exact abs_nonneg _
  even other _ different tie := by
    rw [sub_self, abs_zero, eq_comm, abs_eq_zero, sub_eq_zero] at tie
    exact absurd ((value_strictMono format).injective tie).symm different

end RoundsTo

theorem roundsTo_zero (format : BinaryFormat) : format.RoundsTo 0 0 := by
  have zero := RoundsTo.value (Nat.zero_le format.infinity)
  rwa [value_zero] at zero

/-! ## Significands -/

theorem value_mul_unitsPerOne (format : BinaryFormat) (code : Nat) :
    format.value code * format.unitsPerOne = format.units code :=
  div_mul_cancel₀ _ (by exact_mod_cast (unitsPerOne_pos format).ne')

theorem midpoint_mul_unitsPerOne (format : BinaryFormat) (code : Nat) :
    format.midpoint code * format.unitsPerOne =
      (format.units code + format.units (code + 1) : ℚ) / 2 := by
  have positive : (format.unitsPerOne : ℚ) ≠ 0 := by
    exact_mod_cast (unitsPerOne_pos format).ne'
  unfold midpoint value
  field_simp

/-- A number lies within half a unit of its last bit from the magnitude to which it is rounded. -/
theorem RoundsTo.abs_sub_value_le {number : ℚ} {place significand : Nat}
    (rounds : format.RoundsTo number (place * format.leading + significand))
    (leads : place = 0 ∨ format.leading ≤ significand) (short : significand < 2 * format.leading)
    (positive : 0 < place * format.leading + significand)
    (finite : place * format.leading + significand < format.infinity) :
    |number - format.value (place * format.leading + significand)| * (2 * format.unitsPerOne) ≤
      2 ^ place := by
  have above : (0 : ℚ) < format.unitsPerOne := by exact_mod_cast unitsPerOne_pos format
  rcases Nat.exists_eq_succ_of_ne_zero positive.ne' with ⟨below, next⟩
  have upper := mul_le_mul_of_nonneg_right (rounds.le_midpoint finite).1 above.le
  have lower := mul_le_mul_of_nonneg_right (rounds.midpoint_le next).1 above.le
  rw [midpoint_mul_unitsPerOne, units_succ leads short] at upper
  rcases exists_place_below leads short next.symm with
    ⟨lowerPlace, less, lowerLeads, lowerShort, same, bound, _⟩
  have gap : (format.units (below + 1) : ℚ) = format.units below + 2 ^ lowerPlace := by
    rw [same]
    exact_mod_cast units_succ lowerLeads lowerShort
  have power : (2 : ℚ) ^ lowerPlace ≤ 2 ^ place := pow_le_pow_right₀ (by norm_num) bound
  rw [midpoint_mul_unitsPerOne, gap] at lower
  rw [next] at upper ⊢
  push_cast at upper
  have exact :
      format.value (below + 1) * format.unitsPerOne = format.units below + 2 ^ lowerPlace := by
    rw [value_mul_unitsPerOne, gap]
  rw [gap] at upper
  rw [← abs_of_pos (by positivity : (0 : ℚ) < 2 * format.unitsPerOne), ← abs_mul, abs_le]
  constructor <;> nlinarith

theorem even_of_even_significand (precise : 1 < format.precision) (place : Nat) {significand : Nat}
    (even : significand % 2 = 0) : (place * format.leading + significand) % 2 = 0 := by
  have half : format.leading = 2 * 2 ^ (format.precision - 2) := by
    have next : format.precision - 1 = format.precision - 2 + 1 := by omega
    rw [← pow_succ', ← next]
    rfl
  rw [half, Nat.mul_left_comm]
  omega

/--
A number counted in units of the place of its last bit. Only at the last place of all may it be less
than the least significand with a leading bit.
-/
structure Placed (format : BinaryFormat) (number : ℚ) (place : Nat) (scaled : ℚ) : Prop where
  size : number * format.unitsPerOne = scaled * 2 ^ place
  leads : place = 0 ∨ (format.leading : ℚ) ≤ scaled
  short : scaled < (2 * format.leading : Nat)

namespace Placed

variable {number scaled : ℚ} {place significand : Nat} (placed : format.Placed number place scaled)
  (rounds : RoundsHalfEven scaled significand)

include placed rounds

theorem leading_le : place = 0 ∨ format.leading ≤ significand := by
  rcases placed.leads with last | leads
  · exact .inl last
  · right
    have near := abs_le.mp rounds.near
    have reached : (format.leading : ℚ) < (significand + 1 : Nat) := by
      push_cast
      linarith
    exact Nat.le_of_lt_succ (by exact_mod_cast reached)

theorem significand_le : significand ≤ 2 * format.leading := by
  rw [rounds.whole_le_iff (by omega)]
  have short := placed.short
  linarith

theorem units_eq :
    (format.units (place * format.leading + significand) : ℚ) = significand * 2 ^ place := by
  rw [units_pack (placed.leading_le rounds) (placed.significand_le rounds)]
  push_cast
  ring

/-- Where the place is full, the number stands below the magnitude that it is rounded to. -/
theorem lt_midpoint_of_full (full : 2 * format.leading ≤ significand) :
    number < format.midpoint (place * format.leading + significand) := by
  have positive : (0 : ℚ) < format.unitsPerOne := by exact_mod_cast unitsPerOne_pos format
  have power : (0 : ℚ) < 2 ^ place := by positivity
  have middle := midpoint_mul_unitsPerOne format (place * format.leading + significand)
  have next : (format.units (place * format.leading + significand) : ℚ) <
      format.units (place * format.leading + significand + 1) := by
    exact_mod_cast units_strictMono format (Nat.lt_succ_self _)
  have short : scaled < significand := placed.short.trans_le (by exact_mod_cast full)
  have below := mul_lt_mul_of_pos_right short power
  rw [placed.units_eq rounds] at next middle
  apply lt_of_mul_lt_mul_right _ positive.le
  rw [placed.size, middle]
  linarith

theorem le_midpoint (precise : 1 < format.precision) :
    number ≤ format.midpoint (place * format.leading + significand) ∧
      (number = format.midpoint (place * format.leading + significand) →
        (place * format.leading + significand) % 2 = 0) := by
  rcases Nat.lt_or_ge significand (2 * format.leading) with inside | full
  · have positive : (0 : ℚ) < format.unitsPerOne := by exact_mod_cast unitsPerOne_pos format
    have power : (0 : ℚ) < 2 ^ place := by positivity
    have near := abs_le.mp rounds.near
    have middle := midpoint_mul_unitsPerOne format (place * format.leading + significand)
    rw [units_succ (placed.leading_le rounds) inside] at middle
    push_cast at middle
    rw [placed.units_eq rounds] at middle
    constructor
    · apply le_of_mul_le_mul_right _ positive
      rw [placed.size, middle]
      nlinarith
    · intro tie
      apply even_of_even_significand precise
      apply rounds.even
      have half : (scaled - significand - 1 / 2) * 2 ^ place = 0 := by
        rw [← tie, placed.size] at middle
        linarith
      have half := (mul_eq_zero.mp half).resolve_right power.ne'
      rw [abs_of_nonneg] <;> linarith
  · have less := placed.lt_midpoint_of_full rounds full
    exact ⟨less.le, fun tie => absurd tie less.ne⟩

/-- Where a place begins, the number stands above the magnitude that it is rounded to. -/
theorem midpoint_lt_of_first {below : Nat} (next : place * format.leading + significand = below + 1)
    (above : place ≠ 0) (first : significand = format.leading) :
    format.midpoint below < number := by
  have positive : (0 : ℚ) < format.unitsPerOne := by exact_mod_cast unitsPerOne_pos format
  have power : (0 : ℚ) < 2 ^ place := by positivity
  have middle := midpoint_mul_unitsPerOne format below
  have units := placed.units_eq rounds
  have leads : (significand : ℚ) ≤ scaled := by
    rw [first]
    exact placed.leads.resolve_left above
  have less : (format.units below : ℚ) < format.units (below + 1) := by
    exact_mod_cast units_strictMono format (Nat.lt_succ_self _)
  have reached := mul_le_mul_of_nonneg_right leads power.le
  rw [next] at units
  rw [units] at middle less
  apply lt_of_mul_lt_mul_right _ positive.le
  rw [placed.size, middle]
  linarith

theorem exists_less {below : Nat} (next : place * format.leading + significand = below + 1) :
    ∃ less, significand = less + 1 := by
  refine Nat.exists_eq_succ_of_ne_zero ?_
  rintro rfl
  have filled := leading_pos format
  have last : place = 0 := by
    have leads := placed.leading_le rounds
    omega
  rw [last] at next
  omega

theorem midpoint_le (precise : 1 < format.precision) {below : Nat}
    (next : place * format.leading + significand = below + 1) :
    format.midpoint below ≤ number ∧
      (number = format.midpoint below → (below + 1) % 2 = 0) := by
  by_cases first : place ≠ 0 ∧ significand = format.leading
  · have greater := placed.midpoint_lt_of_first rounds next first.1 first.2
    exact ⟨greater.le, fun tie => absurd tie.symm greater.ne⟩
  · have positive : (0 : ℚ) < format.unitsPerOne := by exact_mod_cast unitsPerOne_pos format
    have power : (0 : ℚ) < 2 ^ place := by positivity
    have near := abs_le.mp rounds.near
    have leads := placed.leading_le rounds
    have short := placed.significand_le rounds
    have middle := midpoint_mul_unitsPerOne format below
    have units := placed.units_eq rounds
    rcases placed.exists_less rounds next with ⟨less, rfl⟩
    have code : below = place * format.leading + less := by omega
    have stepped : format.units (below + 1) = format.units below + 2 ^ place := by
      rw [code]
      exact units_succ (by omega) (by omega)
    have stepped : (format.units (below + 1) : ℚ) = format.units below + 2 ^ place := by
      exact_mod_cast stepped
    rw [next] at units
    rw [units] at middle stepped
    push_cast at middle stepped near
    constructor
    · apply le_of_mul_le_mul_right _ positive
      rw [placed.size, middle]
      nlinarith
    · intro tie
      rw [← next]
      apply even_of_even_significand precise
      apply rounds.even
      have half : (scaled - less - 1 / 2) * 2 ^ place = 0 := by
        rw [← tie, placed.size] at middle
        linarith
      have half := (mul_eq_zero.mp half).resolve_right power.ne'
      rw [abs_of_nonpos] <;> push_cast <;> linarith

/-- A number is rounded by rounding its significand. -/
theorem roundsTo (precise : 1 < format.precision) :
    format.RoundsTo number (min format.infinity (place * format.leading + significand)) := by
  rw [roundsTo_iff]
  refine ⟨Nat.min_le_left _ _, ?_, ?_⟩
  · intro finite
    have same : min format.infinity (place * format.leading + significand) =
        place * format.leading + significand := by omega
    rw [same]
    exact placed.le_midpoint rounds precise
  · intro below code
    rcases Nat.lt_or_ge format.infinity (place * format.leading + significand) with beyond | within
    · have some : place * format.leading + significand ≠ 0 := by omega
      rcases Nat.exists_eq_succ_of_ne_zero some with ⟨last, next⟩
      have reached := (placed.midpoint_le rounds precise next).1
      have less := midpoint_strictMono format (by omega : below < last)
      exact ⟨by linarith, fun tie => absurd tie (by linarith)⟩
    · rw [code]
      exact placed.midpoint_le rounds precise (by omega)

end Placed

/-! ## The function -/

section Nearest

/-- The place of the last bit that is kept of a fraction, counted from the unit. -/
def place (format : BinaryFormat) (numerator denominator : Nat) : Nat :=
  (numerator * format.unitsPerOne / denominator).log2 - (format.precision - 1)

theorem nearest_eq (numerator denominator : Nat) :
    format.nearest numerator denominator = min format.infinity
      (format.place numerator denominator * format.leading +
        roundHalfEven (numerator * format.unitsPerOne)
          (denominator * 2 ^ format.place numerator denominator)) := rfl

variable (numerator : Nat) {denominator : Nat} (positive : 0 < denominator)

include positive

theorem numerator_lt (precise : 1 < format.precision) :
    numerator * format.unitsPerOne <
      2 * format.leading * (denominator * 2 ^ format.place numerator denominator) := by
  let quotient := numerator * format.unitsPerOne / denominator
  have kept : format.place numerator denominator = quotient.log2 - (format.precision - 1) := rfl
  have below : numerator * format.unitsPerOne < denominator * (quotient + 1) :=
    Nat.lt_mul_div_succ _ positive
  have top : quotient + 1 ≤ 2 ^ (quotient.log2 + 1) := Nat.lt_log2_self
  have room : 2 ^ (quotient.log2 + 1) ≤
      2 ^ (format.precision - 1 + 1 + format.place numerator denominator) :=
    Nat.pow_le_pow_right (by decide) (by omega)
  calc numerator * format.unitsPerOne
      < denominator * (quotient + 1) := below
    _ ≤ denominator * 2 ^ (format.precision - 1 + 1 + format.place numerator denominator) :=
        Nat.mul_le_mul_left _ (top.trans room)
    _ = 2 * format.leading * (denominator * 2 ^ format.place numerator denominator) := by
        rw [pow_add, pow_succ, leading, Nat.pow_eq]
        ring

omit positive in
theorem leading_le_numerator (format : BinaryFormat) (numerator denominator : Nat) :
    format.place numerator denominator = 0 ∨
      format.leading * (denominator * 2 ^ format.place numerator denominator) ≤
        numerator * format.unitsPerOne := by
  let quotient := numerator * format.unitsPerOne / denominator
  have kept : format.place numerator denominator = quotient.log2 - (format.precision - 1) := rfl
  rcases Nat.eq_zero_or_pos (format.place numerator denominator) with last | above
  · exact .inl last
  · right
    have log : quotient.log2 = format.place numerator denominator + (format.precision - 1) := by
      omega
    have filled : quotient ≠ 0 := by
      intro zero
      rw [zero, Nat.log2_zero] at log
      omega
    have bottom := Nat.log2_self_le filled
    rw [log, pow_add] at bottom
    calc format.leading * (denominator * 2 ^ format.place numerator denominator)
        = denominator * (2 ^ format.place numerator denominator * format.leading) := by ring
      _ ≤ denominator * quotient := Nat.mul_le_mul_left _ bottom
      _ ≤ numerator * format.unitsPerOne := Nat.mul_div_le _ _

theorem placed (precise : 1 < format.precision) :
    format.Placed (numerator / denominator) (format.place numerator denominator)
      ((numerator * format.unitsPerOne : Nat) /
        (denominator * 2 ^ format.place numerator denominator : Nat)) := by
  have above : 0 < denominator * 2 ^ format.place numerator denominator :=
    Nat.mul_pos positive (Nat.pow_pos (by decide))
  have above : (0 : ℚ) < (denominator * 2 ^ format.place numerator denominator : Nat) := by
    exact_mod_cast above
  constructor
  case size =>
    have denominatorPositive : (0 : ℚ) < denominator := by exact_mod_cast positive
    push_cast
    field_simp
  case leads =>
    rcases leading_le_numerator format numerator denominator with last | leads
    · exact .inl last
    · right
      rw [le_div_iff₀ above]
      exact_mod_cast leads
  case short =>
    rw [div_lt_iff₀ above]
    exact_mod_cast numerator_lt numerator positive precise

/-- The nearest magnitude to a fraction follows the rule. -/
theorem roundsTo_nearest (precise : 1 < format.precision) :
    format.RoundsTo (numerator / denominator) (format.nearest numerator denominator) := by
  have rounds := roundsHalfEven_roundHalfEven (numerator * format.unitsPerOne)
    (Nat.mul_pos positive (Nat.pow_pos (by decide)) :
      0 < denominator * 2 ^ format.place numerator denominator)
  rw [nearest_eq]
  exact (placed numerator positive precise).roundsTo rounds precise

theorem nearest_eq_iff (precise : 1 < format.precision) {code : Nat} :
    format.nearest numerator denominator = code ↔
      format.RoundsTo (numerator / denominator) code := by
  constructor
  · rintro rfl
    exact roundsTo_nearest numerator positive precise
  · intro rounds
    exact (roundsTo_nearest numerator positive precise).unique rounds

end Nearest

end BinaryFormat

end CilTrace
