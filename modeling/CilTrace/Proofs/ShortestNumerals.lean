import CilTrace.Proofs.DecimalTexts
import CilTrace.Proofs.Rounding

/-!
Numerals with few digits.

A numeral with some number of significant digits that is rounded to a magnitude has one of the two
numerals next to the magnitude's value beside it that is rounded so as well. This is why it is
enough to look at these two, and why no numeral with fewer digits than the shortest one is read as
the magnitude.
-/

namespace CilTrace

open BinaryFormat

/-- The first number below a bound at which something is found, if there is one. -/
theorem findSome?_range_cases {α : Type} (find : Nat → Option α) (count : Nat) :
    (∀ index < count, find index = none) ∧ (List.range count).findSome? find = none ∨
      ∃ index < count, (∀ earlier < index, find earlier = none) ∧ ∃ item,
        find index = some item ∧ (List.range count).findSome? find = some item := by
  induction count with
  | zero => exact .inl ⟨nofun, rfl⟩
  | succ count induction =>
      rw [List.range_succ, List.findSome?_append]
      rcases induction with ⟨failed, none⟩ | ⟨index, bound, failed, item, found, first⟩
      · cases found : find count with
        | none =>
            left
            refine ⟨fun index bound => ?_, by simp [none, found]⟩
            rcases Nat.lt_succ_iff_lt_or_eq.mp bound with earlier | rfl
            · exact failed index earlier
            · exact found
        | some item => exact .inr ⟨count, by omega, failed, item, found, by simp [none, found]⟩
      · exact .inr ⟨index, by omega, failed, item, found, by simp [first]⟩

namespace Decimal

variable {format : BinaryFormat} {decimal : Decimal} {code : Nat}

theorem read_eq_iff (precise : 1 < format.precision) :
    decimal.read format = code ↔ format.RoundsTo decimal.value code := by
  rw [read, nearest_eq_iff _ decimal.denominator_pos precise, numerator_div_denominator]

section Midpoints

/-- Whether a numeral is rounded to a positive finite magnitude, found by comparing it with the
midpoints on both sides. -/
def isRoundedTo (format : BinaryFormat) (code : Nat) (decimal : Decimal) : Bool :=
  let number := 2 * decimal.numerator * format.unitsPerOne
  let above := (format.units code + format.units (code + 1)) * decimal.denominator
  let below := (format.units (code - 1) + format.units code) * decimal.denominator
  if code % 2 = 0 then decide (below ≤ number) && decide (number ≤ above)
  else decide (below < number) && decide (number < above)

variable (decimal : Decimal) (format : BinaryFormat) (code : Nat)

/-- What makes a numeral and a midpoint whole. -/
theorem value_mul_scale : decimal.value * (decimal.denominator * format.unitsPerOne * 2) =
    (2 * decimal.numerator * format.unitsPerOne : Nat) := by
  have positive : (decimal.denominator : ℚ) ≠ 0 := by exact_mod_cast decimal.denominator_pos.ne'
  have whole := div_mul_cancel₀ (decimal.numerator : ℚ) positive
  rw [numerator_div_denominator] at whole
  push_cast
  rw [← whole]
  ring

theorem midpoint_mul_scale : format.midpoint code *
    (decimal.denominator * format.unitsPerOne * 2) =
      ((format.units code + format.units (code + 1)) * decimal.denominator : Nat) := by
  push_cast
  calc format.midpoint code * (decimal.denominator * format.unitsPerOne * 2)
      = format.midpoint code * format.unitsPerOne * (2 * decimal.denominator) := by ring
    _ = (format.units code + format.units (code + 1)) * decimal.denominator := by
        rw [midpoint_mul_unitsPerOne]
        ring

theorem scale_factor_pos : (0 : ℚ) < decimal.denominator * format.unitsPerOne * 2 := by
  have denominator : (0 : ℚ) < decimal.denominator := by exact_mod_cast decimal.denominator_pos
  have perOne : (0 : ℚ) < format.unitsPerOne := by exact_mod_cast unitsPerOne_pos format
  positivity

theorem value_le_midpoint_iff : decimal.value ≤ format.midpoint code ↔
    2 * decimal.numerator * format.unitsPerOne ≤
      (format.units code + format.units (code + 1)) * decimal.denominator := by
  rw [← mul_le_mul_iff_left₀ (scale_factor_pos decimal format), value_mul_scale,
    midpoint_mul_scale, Nat.cast_le]

theorem midpoint_le_value_iff : format.midpoint code ≤ decimal.value ↔
    (format.units code + format.units (code + 1)) * decimal.denominator ≤
      2 * decimal.numerator * format.unitsPerOne := by
  rw [← mul_le_mul_iff_left₀ (scale_factor_pos decimal format), value_mul_scale,
    midpoint_mul_scale, Nat.cast_le]

variable {decimal format code}

theorem isRoundedTo_iff (positive : 0 < code) (finite : code < format.infinity) :
    decimal.isRoundedTo format code = true ↔ format.RoundsTo decimal.value code := by
  rcases Nat.exists_eq_succ_of_ne_zero positive.ne' with ⟨below, rfl⟩
  have upper := value_le_midpoint_iff decimal format (below + 1)
  have upperReached := midpoint_le_value_iff decimal format (below + 1)
  have lower := midpoint_le_value_iff decimal format below
  have lowerReached := value_le_midpoint_iff decimal format below
  simp only [isRoundedTo, Nat.succ_eq_add_one, Nat.add_sub_cancel]
  split_ifs with even
  · rw [Bool.and_eq_true, decide_eq_true_iff, decide_eq_true_iff, ← lower, ← upper]
    constructor
    · rintro ⟨above, under⟩
      rw [roundsTo_iff]
      refine ⟨finite.le, fun _ => ⟨under, fun _ => even⟩, fun other same => ?_⟩
      cases Nat.succ.inj same
      exact ⟨above, fun _ => even⟩
    · intro rounds
      exact ⟨(rounds.midpoint_le rfl).1, (rounds.le_midpoint finite).1⟩
  · rw [Bool.and_eq_true, decide_eq_true_iff, decide_eq_true_iff, ← not_le, ← not_le,
      ← lowerReached, ← upperReached, not_le, not_le]
    constructor
    · rintro ⟨above, under⟩
      rw [roundsTo_iff]
      refine ⟨finite.le, fun _ => ⟨under.le, fun tie => absurd tie under.ne⟩, fun other same => ?_⟩
      cases Nat.succ.inj same
      exact ⟨above.le, fun tie => absurd tie above.ne'⟩
    · intro rounds
      exact ⟨lt_of_le_of_ne (rounds.midpoint_le rfl).1
          fun tie => even ((rounds.midpoint_le rfl).2 tie.symm),
        lt_of_le_of_ne (rounds.le_midpoint finite).1
          fun tie => even ((rounds.le_midpoint finite).2 tie)⟩

end Midpoints

theorem read_exact (precise : 1 < format.precision) (bounded : code ≤ format.infinity) :
    (exact format code).read format = code := by
  rw [read_eq_iff precise]
  have same : (exact format code).value = format.value code := by
    rw [value, exact, BinaryFormat.value, unitsPerOne]
    have ten : (10 : ℚ) = 5 * 2 := by norm_num
    rw [zpow_neg, zpow_natCast, ten, mul_pow, Nat.pow_eq, Nat.pow_eq]
    push_cast
    field_simp
  rw [same]
  exact .value bounded

theorem roundHalfEven_eq_or (numerator denominator : Nat) :
    roundHalfEven numerator denominator = numerator / denominator ∨
      roundHalfEven numerator denominator = numerator / denominator + 1 := by
  unfold roundHalfEven
  dsimp only
  split_ifs <;> omega

/-- The numeral of some digits next below the value of a magnitude, or equal to it. -/
def floor (format : BinaryFormat) (code digits : Nat) : Decimal :=
  let exponent := leadingExponent (format.units code) format.unitsPerOne - digits + 1
  let scaled := scale (format.units code) format.unitsPerOne exponent
  ⟨scaled.1 / scaled.2, exponent⟩

/-- The numeral of some digits next above the value of a magnitude. -/
def ceiling (format : BinaryFormat) (code digits : Nat) : Decimal :=
  ⟨(floor format code digits).coefficient + 1, (floor format code digits).exponent⟩

/-- One of the two numerals next to the value is taken, and none only if neither is read back. -/
theorem shortestAt_cases (format : BinaryFormat) (code digits : Nat) :
    (shortestAt format code digits = none ∧ (floor format code digits).read format ≠ code ∧
        (ceiling format code digits).read format ≠ code) ∨
      ∃ decimal, shortestAt format code digits = some decimal ∧ decimal.read format = code ∧
        (decimal = floor format code digits ∨ decimal = ceiling format code digits) := by
  unfold shortestAt
  dsimp only
  split
  case h_1 below above =>
    right
    rcases roundHalfEven_eq_or (scale (format.units code) format.unitsPerOne _).1 _ with down | up
    · exact ⟨floor format code digits, by rw [down]; rfl, eq_of_beq below, .inl rfl⟩
    · exact ⟨ceiling format code digits, by rw [up]; rfl, eq_of_beq above, .inr rfl⟩
  case h_2 below _ => exact .inr ⟨_, rfl, eq_of_beq below, .inl rfl⟩
  case h_3 _ above => exact .inr ⟨_, rfl, eq_of_beq above, .inr rfl⟩
  case h_4 below above => exact .inl ⟨rfl, ne_of_beq_false below, ne_of_beq_false above⟩

/-- The shortest numeral of a magnitude is read as the magnitude. -/
theorem read_shortest (precise : 1 < format.precision) (bounded : code ≤ format.infinity) :
    (shortest format code).read format = code := by
  unfold shortest
  cases found : (List.range 17).findSome? fun digits => shortestAt format code (digits + 1) with
  | none => exact read_exact precise bounded
  | some decimal =>
      rcases List.exists_of_findSome?_eq_some found with ⟨digits, _, found⟩
      rcases shortestAt_cases format code (digits + 1) with ⟨none, _⟩ | ⟨taken, first, read, _⟩
      · rw [none] at found
        cases found
      · rw [first] at found
        exact Option.some.inj found ▸ read

theorem coefficient_pos_of_read (precise : 1 < format.precision)
    (positive : 0 < decimal.read format) : 0 < decimal.coefficient := by
  rcases Nat.eq_zero_or_pos decimal.coefficient with zero | above
  · have value : decimal.value = 0 := by rw [value, zero, Nat.cast_zero, zero_mul]
    have read : decimal.read format = 0 := by
      rw [read_eq_iff precise, value]
      exact roundsTo_zero format
    omega
  · exact above

end Decimal

/-! ## Significant digits -/

/-- A number that can be written with at most some number of significant digits. -/
def HasDigits (digits : Nat) (number : ℚ) : Prop :=
  ∃ (coefficient : Nat) (exponent : Int),
    coefficient < 10 ^ digits ∧ number = coefficient * 10 ^ exponent

/-- A multiple of a power of ten is a multiple of every lower one. -/
theorem mul_zpow_eq_of_le (coefficient : Nat) {fine coarse : Int} (ordered : fine ≤ coarse) :
    (coefficient : ℚ) * 10 ^ coarse =
      (coefficient * 10 ^ (coarse - fine).toNat : Nat) * 10 ^ fine := by
  have split : coarse = (coarse - fine).toNat + fine := by omega
  nth_rewrite 1 [split]
  rw [zpow_add₀ (by norm_num), zpow_natCast]
  push_cast
  ring

theorem eq_of_mul_zpow {left right : Nat} {exponent : Int}
    (same : (left : ℚ) * 10 ^ exponent = right * 10 ^ exponent) : left = right := by
  have power : (10 : ℚ) ^ exponent ≠ 0 := zpow_ne_zero _ (by norm_num)
  exact_mod_cast mul_right_cancel₀ power same

theorem HasDigits.mono {digits more : Nat} {number : ℚ} (has : HasDigits digits number)
    (ordered : digits ≤ more) : HasDigits more number := by
  rcases has with ⟨coefficient, exponent, bound, value⟩
  exact ⟨coefficient, exponent, bound.trans_le (Nat.pow_le_pow_right (by decide) ordered), value⟩

namespace Decimal

/-- The number of digits of a numeral, not counting zeros in front of them and behind them. -/
def significantDigits (decimal : Decimal) : Nat :=
  decimal.shownDigits.length

theorem hasDigits {decimal : Decimal} {digits : Nat} (some : 0 < digits)
    (bound : decimal.coefficient ≤ 10 ^ digits) : HasDigits digits decimal.value := by
  rcases Nat.lt_or_eq_of_le bound with less | power
  · exact ⟨decimal.coefficient, decimal.exponent, less, rfl⟩
  · refine ⟨1, digits + decimal.exponent, Nat.one_lt_pow (by omega) (by decide), ?_⟩
    rw [value, power, zpow_add₀ (by norm_num), zpow_natCast]
    push_cast
    ring

theorem pow_digitCount {number : Nat} (positive : 0 < number) :
    10 ^ (digitCount number - 1) ≤ number ∧ number < 10 ^ digitCount number := by
  have filled : 0 < digitCount number := Nat.length_toDigits_pos
  refine ⟨?_, (Nat.length_toDigits_le_iff (by decide) filled).mp le_rfl⟩
  by_contra less
  have less := not_le.mp less
  rcases Nat.eq_zero_or_pos (digitCount number - 1) with one | several
  · rw [one, pow_zero] at less
    omega
  · have short : digitCount number ≤ digitCount number - 1 :=
      (Nat.length_toDigits_le_iff (by decide) several).mpr less
    omega

/-- The shown digits and the zeros behind them are the digits of the coefficient. -/
theorem exists_coefficient_eq (decimal : Decimal) : ∃ zeros,
    decimal.coefficient = Numeral.digitsValue 10 decimal.shownDigits * 10 ^ zeros ∧
      digitCount decimal.coefficient = decimal.significantDigits + zeros := by
  rcases decimal.exists_zeros with ⟨zeros, split⟩
  refine ⟨zeros, ?_, ?_⟩
  · have whole := digitsValue_toDigits decimal.coefficient
    rw [split, (AreDigits.replicate_zero zeros).digitsValue_append, digitsValue_replicate_zero,
      Nat.add_zero, List.length_replicate] at whole
    exact whole.symm
  · rw [digitCount, split, List.length_append, List.length_replicate, significantDigits]

/-- The last shown digit is no zero. -/
theorem digitsValue_shownDigits_mod {decimal : Decimal} (some : decimal.shownDigits ≠ []) :
    Numeral.digitsValue 10 decimal.shownDigits % 10 ≠ 0 := by
  have shows : ∀ digit < 10, Numeral.digit? 10 digit.digitChar = .some digit := by decide
  have split := List.dropLast_append_getLast some
  have last : decimal.shownDigits.getLast some ≠ '0' := by
    have first := List.head?_dropWhile_not (· == '0') (Nat.toDigits 10 decimal.coefficient).reverse
    rw [shownDigits, List.reverse_ne_nil_iff] at some
    rw [List.head?_eq_some_head some] at first
    simpa [shownDigits] using first
  rcases decimal.areDigits_shownDigits _ (List.getLast_mem some) with ⟨digit, bound, shown⟩
  rw [shown] at last split
  rw [← split, Numeral.digitsValue_append_singleton _ (shows digit bound)]
  intro zero
  have zero : digit = 0 := by omega
  rw [zero] at last
  exact last rfl

/-- No coefficient under which a numeral can be written is less than its shown digits. -/
theorem digitsValue_shownDigits_le {decimal : Decimal} {coefficient : Nat} {exponent : Int}
    (some : decimal.shownDigits ≠ []) (same : decimal.value = coefficient * 10 ^ exponent) :
    Numeral.digitsValue 10 decimal.shownDigits ≤ coefficient := by
  rw [value_shownDigits] at same
  rcases lt_or_ge (decimal.point - decimal.shownDigits.length) exponent with finer | coarser
  · rw [mul_zpow_eq_of_le _ finer.le] at same
    have shown := eq_of_mul_zpow same
    have gap : (exponent - (decimal.point - decimal.shownDigits.length)).toNat =
        (exponent - (decimal.point - decimal.shownDigits.length)).toNat - 1 + 1 := by omega
    rw [gap, pow_succ, ← Nat.mul_assoc] at shown
    have last := digitsValue_shownDigits_mod some
    omega
  · rw [mul_zpow_eq_of_le _ coarser] at same
    rw [← eq_of_mul_zpow same]
    exact Nat.le_mul_of_pos_right _ (Nat.pow_pos (by decide))

theorem significantDigits_le_iff {decimal : Decimal} {digits : Nat} :
    decimal.significantDigits ≤ digits ↔ HasDigits digits decimal.value := by
  rcases decimal.exists_coefficient_eq with ⟨zeros, whole, count⟩
  have power : 0 < 10 ^ zeros := Nat.pow_pos (by decide)
  by_cases none : decimal.shownDigits = []
  · have zero : decimal.value = 0 := by
      rw [value_shownDigits, none]
      simp [Numeral.digitsValue]
    refine iff_of_true (by simp [significantDigits, none]) ⟨0, 0, Nat.pow_pos (by decide), ?_⟩
    rw [zero, Nat.cast_zero, zero_mul]
  · have last := digitsValue_shownDigits_mod none
    have positive : 0 < decimal.coefficient := by
      rw [whole]
      exact Nat.mul_pos (by omega) power
    rcases pow_digitCount positive with ⟨lower, upper⟩
    have filled : 0 < decimal.significantDigits := List.length_pos_iff.mpr none
    have split : digitCount decimal.coefficient - 1 = decimal.significantDigits - 1 + zeros := by
      omega
    rw [split, pow_add, whole] at lower
    rw [count, pow_add, whole] at upper
    have lower := Nat.le_of_mul_le_mul_right lower power
    have upper := Nat.lt_of_mul_lt_mul_right upper
    constructor
    · intro short
      exact HasDigits.mono ⟨_, _, upper, decimal.value_shownDigits⟩ short
    · rintro ⟨coefficient, exponent, bound, same⟩
      have least := digitsValue_shownDigits_le none same
      have below := (Nat.pow_lt_pow_iff_right (by decide)).mp ((lower.trans least).trans_lt bound)
      omega

theorem hasDigits_significantDigits (decimal : Decimal) :
    HasDigits decimal.significantDigits decimal.value :=
  significantDigits_le_iff.mp le_rfl

theorem significantDigits_eq_zero {decimal : Decimal} (zero : decimal.value = 0) :
    decimal.significantDigits = 0 := by
  rw [← Nat.le_zero, significantDigits_le_iff, zero]
  exact ⟨0, 0, by norm_num, by norm_num⟩

theorem significantDigits_congr {left right : Decimal} (same : left.value = right.value) :
    left.significantDigits = right.significantDigits := by
  apply le_antisymm <;> rw [significantDigits_le_iff]
  · exact same ▸ right.hasDigits_significantDigits
  · exact same ▸ left.hasDigits_significantDigits

end Decimal

/-! ## The leading digit -/

/-- The exponent of the leading digit of a number. -/
structure LeadsAt (number : ℚ) (exponent : Int) : Prop where
  lower : 10 ^ exponent ≤ number
  upper : number < 10 ^ (exponent + 1)

namespace LeadsAt

variable {number other : ℚ} {exponent otherExponent : Int}

/-- The leading digit of a larger number does not stand further behind. -/
theorem le_of_le (leads : LeadsAt number exponent) (others : LeadsAt other otherExponent)
    (ordered : number ≤ other) : exponent ≤ otherExponent := by
  have power : (10 : ℚ) ^ exponent < 10 ^ (otherExponent + 1) :=
    (leads.lower.trans ordered).trans_lt others.upper
  have less := (zpow_lt_zpow_iff_right₀ (by norm_num)).mp power
  omega

theorem unique (leads : LeadsAt number exponent) (others : LeadsAt number otherExponent) :
    exponent = otherExponent :=
  le_antisymm (leads.le_of_le others le_rfl) (others.le_of_le leads le_rfl)

end LeadsAt

namespace Decimal

theorem leadsAt_leadingExponent {numerator denominator : Nat} (filled : 0 < numerator)
    (positive : 0 < denominator) :
    LeadsAt (numerator / denominator) (leadingExponent numerator denominator) := by
  have below : (0 : ℚ) < denominator := by exact_mod_cast positive
  have above : (0 : ℚ) < numerator := by exact_mod_cast filled
  unfold leadingExponent
  split_ifs with whole
  · have quotient : 0 < numerator / denominator := Nat.div_pos whole positive
    rcases pow_digitCount quotient with ⟨lower, upper⟩
    have digits : 0 < digitCount (numerator / denominator) := Nat.length_toDigits_pos
    have least : ((digitCount (numerator / denominator) : Nat) : Int) - 1 =
        (digitCount (numerator / denominator) - 1 : Nat) := by omega
    constructor
    · rw [least, zpow_natCast, le_div_iff₀ below]
      exact_mod_cast (Nat.le_div_iff_mul_le positive).mp lower
    · rw [sub_add_cancel, zpow_natCast, div_lt_iff₀ below]
      exact_mod_cast (Nat.div_lt_iff_lt_mul positive).mp upper
  · have quotient : 0 < (denominator - 1) / numerator := Nat.div_pos (by omega) filled
    rcases pow_digitCount quotient with ⟨lower, upper⟩
    have digits : 0 < digitCount ((denominator - 1) / numerator) := Nat.length_toDigits_pos
    have least : -((digitCount ((denominator - 1) / numerator) : Nat) : Int) + 1 =
        -((digitCount ((denominator - 1) / numerator) - 1 : Nat) : Int) := by omega
    have lower := (Nat.le_div_iff_mul_le filled).mp lower
    have upper := (Nat.div_lt_iff_lt_mul filled).mp upper
    have lower :
        10 ^ (digitCount ((denominator - 1) / numerator) - 1) * numerator < denominator := by
      omega
    have upper : denominator ≤ 10 ^ digitCount ((denominator - 1) / numerator) * numerator := by
      omega
    constructor
    · rw [zpow_neg, zpow_natCast, inv_le_comm₀ (by positivity) (by positivity), inv_div,
        div_le_iff₀ above]
      exact_mod_cast upper
    · rw [least, zpow_neg, zpow_natCast, lt_inv_comm₀ (by positivity) (by positivity), inv_div,
        lt_div_iff₀ above]
      exact_mod_cast lower

theorem scale_pos {numerator denominator : Nat} (positive : 0 < denominator) (exponent : Int) :
    0 < (scale numerator denominator exponent).2 :=
  Nat.mul_pos positive (Nat.pow_pos (by decide))

theorem scale_div (numerator denominator : Nat) (exponent : Int) :
    ((scale numerator denominator exponent).1 : ℚ) / (scale numerator denominator exponent).2 =
      numerator / denominator / 10 ^ exponent := by
  unfold scale
  rcases le_total 0 exponent with above | below
  · rcases Int.eq_ofNat_of_zero_le above with ⟨power, rfl⟩
    simp [div_div]
  · rcases Int.eq_ofNat_of_zero_le (Int.neg_nonneg.mpr below) with ⟨power, same⟩
    have same : exponent = -power := by omega
    simp [same, mul_div_right_comm]

end Decimal

/-! ## The grid of numerals -/

theorem abs_mul_zpow_sub (coefficient : Nat) (exponent : Int) (number : ℚ) :
    |coefficient * 10 ^ exponent - number| =
      |number / 10 ^ exponent - coefficient| * 10 ^ exponent := by
  have power : (0 : ℚ) < 10 ^ exponent := zpow_pos (by norm_num) _
  rw [abs_sub_comm, ← abs_of_pos power, ← abs_mul, abs_of_pos power, sub_mul,
    div_mul_cancel₀ _ power.ne']

theorem pow_mul_zpow_leading (leading : Int) {digits : Nat} (some : 0 < digits) :
    ((10 ^ (digits - 1) : Nat) : ℚ) * 10 ^ (leading - digits + 1) = 10 ^ leading := by
  have gap : (leading - (leading - digits + 1)).toNat = digits - 1 := by omega
  have one := mul_zpow_eq_of_le 1 (by omega : leading - digits + 1 ≤ leading)
  rw [gap, Nat.one_mul, Nat.cast_one, one_mul] at one
  exact one.symm

section Grid

variable {number other : ℚ} {leading : Int} {digits : Nat} (leads : LeadsAt number leading)

include leads

/-- Between a number and any numeral of some digits lies one of the grid of such numerals at the
number, or the numeral is one itself. -/
theorem exists_between (some : 0 < digits) (has : HasDigits digits other) : ∃ coefficient : Nat,
    |other - number| = |other - coefficient * 10 ^ (leading - digits + 1)| +
      |coefficient * 10 ^ (leading - digits + 1) - number| := by
  rcases has with ⟨coefficient, exponent, bound, rfl⟩
  rcases le_or_gt (leading - digits + 1) exponent with coarse | fine
  · refine ⟨coefficient * 10 ^ (exponent - (leading - digits + 1)).toNat, ?_⟩
    rw [← mul_zpow_eq_of_le coefficient coarse, sub_self, abs_zero, zero_add]
  · -- The numeral is less than the power of ten at the leading digit.
    have power := pow_mul_zpow_leading leading some
    have small : (coefficient : ℚ) * 10 ^ exponent ≤ 10 ^ leading := by
      have bound : (coefficient : ℚ) ≤ 10 ^ (digits : Int) := by
        rw [zpow_natCast]
        exact_mod_cast bound.le
      calc (coefficient : ℚ) * 10 ^ exponent
          ≤ 10 ^ (digits : Int) * 10 ^ exponent :=
            mul_le_mul_of_nonneg_right bound (zpow_pos (by norm_num) _).le
        _ = 10 ^ (digits + exponent) := (zpow_add₀ (by norm_num) _ _).symm
        _ ≤ 10 ^ leading := zpow_le_zpow_right₀ (by norm_num) (by omega)
    refine ⟨10 ^ (digits - 1), ?_⟩
    have lower := leads.lower
    rw [power, abs_of_nonpos (by linarith), abs_of_nonpos (by linarith),
      abs_of_nonpos (by linarith)]
    ring

theorem le_div_zpow (some : 0 < digits) :
    ((10 ^ (digits - 1) : Nat) : ℚ) ≤ number / 10 ^ (leading - digits + 1) := by
  rw [le_div_iff₀ (zpow_pos (by norm_num) _), pow_mul_zpow_leading leading some]
  exact leads.lower

theorem div_zpow_lt (digits : Nat) :
    number / 10 ^ (leading - digits + 1) < (10 ^ digits : Nat) := by
  have split : leading + 1 = (digits : Int) + (leading - digits + 1) := by ring
  have upper := leads.upper
  rw [split, zpow_add₀ (by norm_num), zpow_natCast] at upper
  rw [div_lt_iff₀ (zpow_pos (by norm_num) _)]
  exact_mod_cast upper

end Grid

namespace Decimal

variable {numerator denominator digits : Nat}

section Nearest

variable (filled : 0 < numerator) (positive : 0 < denominator)

include positive

theorem roundsHalfEven_nearest : RoundsHalfEven
    (numerator / denominator / 10 ^ (leadingExponent numerator denominator - digits + 1))
    (nearest numerator denominator digits).coefficient := by
  rw [← scale_div]
  exact roundsHalfEven_roundHalfEven _ (scale_pos positive _)

include filled

/-- No numeral of as many digits is nearer than the nearest one. -/
theorem abs_nearest_sub_le (some : 0 < digits) {other : ℚ} (has : HasDigits digits other) :
    |(nearest numerator denominator digits).value - numerator / denominator| ≤
      |other - numerator / denominator| := by
  have leads := leadsAt_leadingExponent filled positive
  rcases exists_between leads some has with ⟨coefficient, between⟩
  have rounds : RoundsHalfEven _ (nearest numerator denominator digits).coefficient :=
    roundsHalfEven_nearest positive
  calc |(nearest numerator denominator digits).value - numerator / denominator|
      = _ := abs_mul_zpow_sub _ _ _
    _ ≤ _ := mul_le_mul_of_nonneg_right (rounds.distance_le coefficient)
        (zpow_pos (by norm_num) _).le
    _ = |(coefficient : ℚ) * 10 ^ (leadingExponent numerator denominator - digits + 1) -
          numerator / denominator| := (abs_mul_zpow_sub _ _ _).symm
    _ ≤ |other - numerator / denominator| := by
        rw [between]
        exact le_add_of_nonneg_left (abs_nonneg _)

theorem coefficient_nearest_le (some : 0 < digits) :
    (nearest numerator denominator digits).coefficient ≤ 10 ^ digits := by
  have leads := leadsAt_leadingExponent filled positive
  have rounds : RoundsHalfEven _ (nearest numerator denominator digits).coefficient :=
    roundsHalfEven_nearest positive
  have even : 10 ^ digits % 2 = 0 := by
    rw [Nat.pow_mod]
    simp [some.ne']
  rw [rounds.whole_le_iff even]
  have small := div_zpow_lt leads digits
  linarith

theorem le_coefficient_nearest (some : 0 < digits) :
    10 ^ (digits - 1) ≤ (nearest numerator denominator digits).coefficient := by
  have leads := leadsAt_leadingExponent filled positive
  have rounds : RoundsHalfEven _ (nearest numerator denominator digits).coefficient :=
    roundsHalfEven_nearest positive
  have near := abs_le.mp rounds.near
  have large := le_div_zpow leads some
  have less : ((10 ^ (digits - 1) : Nat) : ℚ) <
      ((nearest numerator denominator digits).coefficient + 1 : Nat) := by
    rw [Nat.cast_succ]
    linarith
  exact Nat.le_of_lt_succ (by exact_mod_cast less)

end Nearest

section Shortest

variable {format : BinaryFormat} {code : Nat} (positive : 0 < code)

include positive

theorem leadsAt_value :
    LeadsAt (format.value code) (leadingExponent (format.units code) format.unitsPerOne) := by
  have filled : format.units 0 < format.units code := units_strictMono format positive
  exact leadsAt_leadingExponent (Nat.zero_lt_of_lt filled) (unitsPerOne_pos format)

omit positive in
theorem coefficient_floor (format : BinaryFormat) (code digits : Nat) :
    ((floor format code digits).coefficient : ℚ) ≤
        format.value code / 10 ^ (floor format code digits).exponent ∧
      format.value code / 10 ^ (floor format code digits).exponent <
        (floor format code digits).coefficient + 1 := by
  have above : 0 < (scale (format.units code) format.unitsPerOne
      (floor format code digits).exponent).2 := scale_pos (unitsPerOne_pos format) _
  have above' : (0 : ℚ) < (scale (format.units code) format.unitsPerOne
      (floor format code digits).exponent).2 := by exact_mod_cast above
  rw [BinaryFormat.value, ← scale_div, le_div_iff₀ above', div_lt_iff₀ above']
  constructor
  · exact_mod_cast Nat.div_mul_le_self _ _
  · have next := Nat.lt_mul_div_succ (scale (format.units code) format.unitsPerOne
      (floor format code digits).exponent).1 above
    rw [Nat.mul_comm] at next
    exact_mod_cast next

omit positive in
theorem value_floor_le (format : BinaryFormat) (code digits : Nat) :
    (floor format code digits).value ≤ format.value code := by
  have lower := (coefficient_floor format code digits).1
  rwa [le_div_iff₀ (zpow_pos (by norm_num) _)] at lower

omit positive in
theorem lt_value_ceiling (format : BinaryFormat) (code digits : Nat) :
    format.value code < (ceiling format code digits).value := by
  have upper := (coefficient_floor format code digits).2
  rw [div_lt_iff₀ (zpow_pos (by norm_num) _)] at upper
  rw [value, ceiling]
  exact_mod_cast upper

theorem coefficient_floor_lt (digits : Nat) :
    (floor format code digits).coefficient < 10 ^ digits := by
  have lower := (coefficient_floor format code digits).1
  have small := div_zpow_lt (leadsAt_value positive : LeadsAt (format.value code) _) digits
  exact_mod_cast lower.trans_lt small

/-- If any numeral of some digits is rounded to a magnitude, one next to its value is. -/
theorem roundsTo_floor_or_ceiling (some : 0 < digits) {other : ℚ} (has : HasDigits digits other)
    (rounds : format.RoundsTo other code) :
    format.RoundsTo (floor format code digits).value code ∨
      format.RoundsTo (ceiling format code digits).value code := by
  have power : (0 : ℚ) < 10 ^ (floor format code digits).exponent := zpow_pos (by norm_num) _
  have below := value_floor_le format code digits
  have above := lt_value_ceiling format code digits
  rcases exists_between (leadsAt_value positive) some has with ⟨coefficient, between⟩
  have rounds : format.RoundsTo (coefficient * 10 ^ (floor format code digits).exponent) code :=
    rounds.of_between between
  rcases Nat.lt_or_ge (floor format code digits).coefficient coefficient with more | less
  · right
    have more : (ceiling format code digits).value ≤
        coefficient * 10 ^ (floor format code digits).exponent := by
      apply mul_le_mul_of_nonneg_right _ power.le
      exact_mod_cast more
    apply rounds.of_between
    rw [abs_of_pos (by linarith), abs_of_nonneg (by linarith), abs_of_pos (by linarith)]
    ring
  · left
    have less : coefficient * 10 ^ (floor format code digits).exponent ≤
        (floor format code digits).value := by
      apply mul_le_mul_of_nonneg_right _ power.le
      exact_mod_cast less
    apply rounds.of_between
    rw [abs_of_nonpos (by linarith), abs_of_nonpos (by linarith), abs_of_nonpos (by linarith)]
    ring

theorem shortestAt_ne_none (precise : 1 < format.precision) (some : 0 < digits) {other : ℚ}
    (has : HasDigits digits other) (rounds : format.RoundsTo other code) :
    shortestAt format code digits ≠ none := by
  rcases shortestAt_cases format code digits with ⟨_, below, above⟩ | ⟨decimal, found, _⟩
  · rw [ne_eq, read_eq_iff precise] at below above
    rcases roundsTo_floor_or_ceiling positive some has rounds with floor | ceiling
    · exact absurd floor below
    · exact absurd ceiling above
  · rw [found]
    exact Option.some_ne_none decimal

theorem hasDigits_of_shortestAt (some : 0 < digits) {decimal : Decimal}
    (found : shortestAt format code digits = .some decimal) : HasDigits digits decimal.value := by
  apply hasDigits some
  have bound : (floor format code digits).coefficient < 10 ^ digits :=
    coefficient_floor_lt positive digits
  rcases shortestAt_cases format code digits with ⟨none, _⟩ | ⟨taken, first, _, rfl | rfl⟩
  · rw [none] at found
    cases found
  · rw [first, Option.some.injEq] at found
    exact found ▸ bound.le
  · rw [first, Option.some.injEq] at found
    exact found ▸ bound

/-- No numeral that is rounded to a magnitude has fewer digits than the shortest one. -/
theorem significantDigits_shortest_le (precise : 1 < format.precision) (some : 0 < digits)
    (few : digits ≤ 17) {other : ℚ} (has : HasDigits digits other)
    (rounds : format.RoundsTo other code) : (shortest format code).significantDigits ≤ digits := by
  have last : shortestAt format code (digits - 1 + 1) ≠ none := by
    rw [Nat.sub_add_cancel some]
    exact shortestAt_ne_none positive precise some has rounds
  unfold shortest
  rcases findSome?_range_cases (fun digits => shortestAt format code (digits + 1)) 17 with
    ⟨failed, _⟩ | ⟨index, _, failed, decimal, found, first⟩
  · exact absurd (failed (digits - 1) (by omega)) last
  · rw [first, Option.getD_some, significantDigits_le_iff]
    apply (hasDigits_of_shortestAt positive index.succ_pos found).mono
    by_contra more
    exact last (failed (digits - 1) (by omega))

end Shortest

end Decimal

end CilTrace
