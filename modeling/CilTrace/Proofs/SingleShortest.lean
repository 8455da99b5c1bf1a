import CilTrace.Proofs.ModularWindows
import CilTrace.Proofs.RoundingTwice

/-!
How short the texts of four-byte numbers are.

A numeral with fewer digits than the text of a four-byte number is rounded to another number, but
for four magnitudes. At three powers of two the magnitudes below are nearer to each other than those
above: a numeral above is rounded to the power of two, while the nearest one of as many digits
stands below and is not. At the fourth magnitude the nearest numeral is rounded to eight bytes
first, to just the midpoint of two four-byte magnitudes, and from there to the wrong one.

That there are no more is shown in two ways. For powers of two all numerals are looked at. Elsewhere
a numeral must lie so close to a midpoint that a search through the multiples of powers of ten finds
all there are.
-/

namespace CilTrace

open BinaryFormat

namespace Single

/-! ## Finding a numeral if there is one -/

/-- The four magnitudes whose texts have a digit too many. -/
def exceptions : List Nat :=
  [0x0F800000, 0x15AE43FD, 0x6B000000, 0x6C800000]

/-- The value rounded to some digits is accepted if any numeral of so many digits is rounded to the
magnitude. -/
def Finds (code : Nat) : Prop :=
  ∀ digits, 0 < digits → digits ≤ 8 → ∀ number, HasDigits digits number →
    single.RoundsTo number code → Accepts code digits

/-- A test for accepted numerals. For even codes it is enough to look at four bytes. -/
def surelyAccepts (code : Nat) (decimal : Decimal) : Bool :=
  if code % 2 = 0 then decimal.isRoundedTo single code
  else narrowCode (decimal.read .double) == code

/-- Looks at the numerals next to a magnitude, from some digits down to those that are too few. The
exponent of the leading digit is given. -/
def settled (code : Nat) (leading : Int) : Nat → Bool
  | 0 => true
  | fewer + 1 =>
      let exponent := leading - (fewer + 1 : Nat) + 1
      let (upper, lower) := Decimal.scale (single.units code) single.unitsPerOne exponent
      let below : Decimal := ⟨upper / lower, exponent⟩
      let above : Decimal := ⟨upper / lower + 1, exponent⟩
      !below.isRoundedTo single code && !above.isRoundedTo single code ||
        surelyAccepts code ⟨roundHalfEven upper lower, exponent⟩ && settled code leading fewer

theorem settled_succ (code fewer : Nat) : settled code (leadingExponent code) (fewer + 1) =
    (!(Decimal.floor single code (fewer + 1)).isRoundedTo single code &&
        !(Decimal.ceiling single code (fewer + 1)).isRoundedTo single code ||
      surelyAccepts code (numeral code (fewer + 1)) &&
        settled code (leadingExponent code) fewer) := rfl

section Settled

variable {code : Nat} (positive : 0 < code) (finite : code < single.infinity)

include positive finite

theorem accepts_of_surelyAccepts {digits : Nat}
    (sure : surelyAccepts code (numeral code digits) = true) : Accepts code digits := by
  unfold surelyAccepts at sure
  split_ifs at sure with even
  · have rounds := (Decimal.isRoundedTo_iff positive finite).mp sure
    rcases roundsTo_twice_or_midpoint finite rounds (roundsTo_read_numeral code digits) with
      twice | ⟨odd, _⟩
    · exact narrowCode_eq_iff.mpr twice
    · omega
  · exact eq_of_beq sure

theorem accepts_of_settled {most : Nat} (done : settled code (leadingExponent code) most = true)
    {digits : Nat} (some : 0 < digits) (few : digits ≤ most) {number : ℚ}
    (has : HasDigits digits number) (rounds : single.RoundsTo number code) :
    Accepts code digits := by
  induction most with
  | zero => omega
  | succ fewer induction =>
      rw [settled_succ, Bool.or_eq_true, Bool.and_eq_true, Bool.and_eq_true, Bool.not_eq_true',
        Bool.not_eq_true', ← Bool.not_eq_true, ← Bool.not_eq_true,
        Decimal.isRoundedTo_iff positive finite, Decimal.isRoundedTo_iff positive finite] at done
      rcases done with ⟨below, above⟩ | ⟨sure, rest⟩
      · rcases Decimal.roundsTo_floor_or_ceiling positive fewer.succ_pos (has.mono few) rounds with
          floor | ceiling
        · exact absurd floor below
        · exact absurd ceiling above
      · rcases Nat.lt_succ_iff_lt_or_eq.mp (Nat.lt_succ_of_le few) with less | same
        · exact induction rest (by omega)
        · rw [same]
          exact accepts_of_surelyAccepts positive finite sure

theorem finds_of_settled (done : settled code (leadingExponent code) 8 = true) : Finds code :=
  fun _ some few _ has rounds => accepts_of_settled positive finite done some few has rounds

end Settled

/-! ## Leading digits -/

/-- The code of the least positive magnitude at some place. -/
def least (place : Nat) : Nat :=
  if place = 0 then 1 else place * single.leading + single.leading

/-- The exponent of the leading digit of the least positive magnitude at some place. The decimal
logarithm of two is taken for `0.30103`, which is near enough for all places. -/
def leastExponent (place : Nat) : Int :=
  if place = 0 then -45 else ((place : Int) - 126) * 30103 / 100000

/-- A test for the exponent of the leading digit of a magnitude. -/
def leads (code : Nat) (exponent : Int) : Bool :=
  let scaled := Decimal.scale (single.units code) single.unitsPerOne exponent
  decide (scaled.2 ≤ scaled.1) && decide (scaled.1 < 10 * scaled.2)

theorem leadsAt_of_leads {code : Nat} {exponent : Int} (test : leads code exponent = true) :
    LeadsAt (single.value code) exponent := by
  unfold leads at test
  have quotient := Decimal.scale_div (single.units code) single.unitsPerOne exponent
  have positive : 0 < (Decimal.scale (single.units code) single.unitsPerOne exponent).2 :=
    Decimal.scale_pos (unitsPerOne_pos single) exponent
  generalize Decimal.scale (single.units code) single.unitsPerOne exponent = scaled at *
  rw [Bool.and_eq_true, decide_eq_true_iff, decide_eq_true_iff] at test
  have positive : (0 : ℚ) < scaled.2 := by exact_mod_cast positive
  have power : (0 : ℚ) < 10 ^ exponent := zpow_pos (by norm_num) _
  have lower : (1 : ℚ) ≤ scaled.1 / scaled.2 := by
    rw [one_le_div positive]
    exact_mod_cast test.1
  have upper : (scaled.1 / scaled.2 : ℚ) < 10 := by
    rw [div_lt_iff₀ positive]
    exact_mod_cast test.2
  rw [quotient] at lower upper
  rw [one_le_div power] at lower
  rw [div_lt_iff₀ power] at upper
  refine ⟨lower, ?_⟩
  rw [zpow_add_one₀ (by norm_num), mul_comm]
  exact upper

theorem leads_least : ∀ place < 255, leads (least place) (leastExponent place) = true := by
  decide +kernel

theorem least_pos (place : Nat) : 0 < least place := by
  have filled := leading_pos single
  unfold least
  split_ifs <;> omega

theorem leadingExponent_least {place : Nat} (low : place < 255) :
    leadingExponent (least place) = leastExponent place :=
  (leadsAt (least_pos place)).unique (leadsAt_of_leads (leads_least place low))

/-- The leading exponents of the magnitudes at some place. -/
def leadings (place : Nat) : List Int :=
  (List.range (leastExponent (place + 1) - leastExponent place + 1).toNat).map
    fun (more : Nat) => leastExponent place + more

section Place

variable {place significand : Nat} (leads : place = 0 ∨ single.leading ≤ significand)
  (short : significand < 2 * single.leading)
  (positive : 0 < place * single.leading + significand)

include leads positive in
theorem least_le : least place ≤ place * single.leading + significand := by
  unfold least
  split_ifs <;> omega

include short in
theorem lt_least_succ : place * single.leading + significand < least (place + 1) := by
  rw [least, if_neg place.succ_ne_zero, Nat.succ_mul]
  omega

include leads short positive in
theorem mem_leadings (low : place < 254) :
    leadingExponent (place * single.leading + significand) ∈ leadings place := by
  have whole := leadsAt positive
  have above := least_le leads positive
  have below : _ ≤ least (place + 1) := (lt_least_succ short).le
  have first := (leadsAt (least_pos place)).le_of_le whole
    ((value_strictMono single).monotone above)
  have last := whole.le_of_le (leadsAt (least_pos (place + 1)))
    ((value_strictMono single).monotone below)
  rw [leadingExponent_least (by omega : place < 255)] at first
  rw [leadingExponent_least (by omega : place + 1 < 255)] at last
  generalize leadingExponent (place * single.leading + significand) = exponent at *
  rw [leadings, List.mem_map]
  exact ⟨(exponent - leastExponent place).toNat, by rw [List.mem_range]; omega, by omega⟩

end Place

/-! ## Near misses -/

/-- The coefficients of numerals that come near to a midpoint at some place. Both are multiplied by
what makes them whole. -/
def nearWindow (place : Nat) (leading : Int) : Window :=
  .nearOdd (Nat.pow 10 (leading - 7).toNat * Nat.pow 2 150)
    (Nat.pow 10 (7 - leading).toNat * Nat.pow 2 place) (Nat.pow 2 29)

/-- Away from the beginning of a place, rounding depends on the distance only. -/
theorem roundsTo_of_nearer {place less : Nat} (leads : place = 0 ∨ single.leading ≤ less)
    (short : less + 1 < 2 * single.leading)
    (finite : place * single.leading + less + 1 < single.infinity) {number nearer : ℚ}
    (rounds : single.RoundsTo number (place * single.leading + less + 1))
    (near : |nearer - single.value (place * single.leading + less + 1)| ≤
      |number - single.value (place * single.leading + less + 1)|) :
    single.RoundsTo nearer (place * single.leading + less + 1) := by
  have below := value_succ_eq_midpoint_add leads (by omega : less < 2 * single.leading)
  have above := midpoint_eq_value_add (by omega : place = 0 ∨ single.leading ≤ less + 1) short
  rw [← Nat.add_assoc] at above
  have upper := rounds.le_midpoint finite
  have lower := rounds.midpoint_le rfl
  generalize wideValue 1 (place + 924) = half at above below
  have inside : |number - single.value (place * single.leading + less + 1)| ≤ half := by
    rw [abs_le]
    constructor <;> linarith
  have even : half ≤ |number - single.value (place * single.leading + less + 1)| →
      (place * single.leading + less + 1) % 2 = 0 := by
    intro far
    rcases le_abs.mp far with far | far
    · exact upper.2 (le_antisymm upper.1 (by linarith))
    · exact lower.2 (le_antisymm (by linarith) lower.1)
  have bounds := abs_le.mp (near.trans inside)
  rw [roundsTo_iff]
  refine ⟨rounds.bounded, fun _ => ⟨by linarith, fun tie => even ?_⟩, fun other same => ?_⟩
  · refine le_trans ?_ near
    rw [tie, above, add_sub_cancel_left]
    exact le_abs_self half
  · cases Nat.succ.inj same
    refine ⟨by linarith, fun tie => even (le_trans ?_ near)⟩
    rw [tie, below, sub_add_cancel_left, abs_neg]
    exact le_abs_self half

/-- A number of few bits has a low place in eight bytes. -/
theorem place_le_of_short {place high wide significand : Nat}
    (leads : place = 0 ∨ double.leading ≤ wide) (short : significand < 2 ^ 25)
    (same : wide * 2 ^ place = significand * 2 ^ (high + 28)) : place ≤ high := by
  by_contra above
  have leads : 2 ^ 52 ≤ wide := leads.resolve_left (by omega)
  have power : 2 ^ (high + 1) ≤ 2 ^ place := Nat.pow_le_pow_right (by decide) (by omega)
  have large := Nat.mul_le_mul leads power
  rw [same] at large
  have small : significand * 2 ^ (high + 28) < 2 ^ 25 * 2 ^ (high + 28) :=
    Nat.mul_lt_mul_of_pos_right short (Nat.pow_pos (by decide))
  rw [← pow_add] at large small
  have less := (Nat.pow_lt_pow_iff_right (by decide)).mp (large.trans_lt small)
  omega

/-- Eight bytes that are a midpoint come from a number that is very near to it. -/
theorem abs_sub_midpoint_le {number : ℚ} {significand place wide : Nat}
    (short : significand < 2 ^ 25) (positive : 0 < significand) (finite : wide < double.infinity)
    (value : double.value wide = wideValue significand (place + 924))
    (rounds : double.RoundsTo number wide) :
    |number - wideValue significand (place + 924)| * (2 * double.unitsPerOne) ≤
      2 ^ (place + 896) := by
  have filled : 0 < wide := by
    apply (value_strictMono double).lt_iff_lt.mp
    rw [value_zero, value]
    exact wideValue_pos positive _
  have units : double.units wide = significand * 2 ^ (place + 924) := by
    have scaled := value_mul_unitsPerOne double wide
    rw [value, wideValue_mul] at scaled
    exact_mod_cast scaled.symm
  rw [← value]
  rcases exists_place double wide with ⟨widePlace, wideSignificand, leads, wideShort, rfl⟩
  rw [units_pack leads wideShort.le] at units
  have low : widePlace ≤ place + 896 := place_le_of_short leads short units
  exact (rounds.abs_sub_value_le leads wideShort filled finite).trans
    (pow_le_pow_right₀ (by norm_num) low)

/-! ## The numeral of a near miss -/

section Miss

variable {code digits : Nat} (positive : 0 < code) (some : 0 < digits) (few : digits ≤ 8)

/-- The coefficient of a numeral of at most eight digits, filled up to eight digits. -/
def filledCoefficient (code digits : Nat) : Nat :=
  (numeral code digits).coefficient * 10 ^ (8 - digits)

include few

theorem value_numeral : (numeral code digits).value =
    (⟨filledCoefficient code digits, leadingExponent code - 7⟩ : Decimal).value := by
  have coarse : leadingExponent code - 7 ≤ leadingExponent code - digits + 1 := by omega
  have gap :
      (leadingExponent code - digits + 1 - (leadingExponent code - 7)).toNat = 8 - digits := by
    omega
  have shifted := mul_zpow_eq_of_le (numeral code digits).coefficient coarse
  rwa [gap] at shifted

include positive some

theorem filledCoefficient_bounds :
    10 ^ 7 ≤ filledCoefficient code digits ∧ filledCoefficient code digits ≤ 10 ^ 8 := by
  have most : (numeral code digits).coefficient ≤ 10 ^ digits :=
    Decimal.coefficient_nearest_le (units_pos positive) (unitsPerOne_pos single) some
  have least : 10 ^ (digits - 1) ≤ (numeral code digits).coefficient :=
    Decimal.le_coefficient_nearest (units_pos positive) (unitsPerOne_pos single) some
  have lower : 10 ^ 7 = 10 ^ (digits - 1) * 10 ^ (8 - digits) := by
    rw [← pow_add]
    congr 1
    omega
  have upper : 10 ^ 8 = 10 ^ digits * 10 ^ (8 - digits) := by
    rw [← pow_add]
    congr 1
    omega
  rw [filledCoefficient, lower, upper]
  exact ⟨Nat.mul_le_mul_right _ least, Nat.mul_le_mul_right _ most⟩

end Miss

/-- The difference of a numeral and a midpoint, multiplied by what makes both whole. -/
theorem scaled_difference (coefficient place significand : Nat) (leading : Int) :
    ((⟨coefficient, leading - 7⟩ : Decimal).value - wideValue significand (place + 924)) *
        (double.unitsPerOne * 10 ^ (7 - leading).toNat) =
      ((10 ^ (leading - 7).toNat * 2 ^ 150 * coefficient : Nat) -
        (significand * (10 ^ (7 - leading).toNat * 2 ^ place) : Nat)) * 2 ^ 924 := by
  have two : single.unitsPerOne * 2 = 2 ^ 150 := by decide
  have perOne : (double.unitsPerOne : ℚ) = 2 ^ 150 * 2 ^ 924 := by
    rw [unitsPerOne_double, pow_succ', ← mul_assoc, two, Nat.cast_mul, Nat.cast_pow, Nat.cast_pow,
      Nat.cast_ofNat]
  have wide := wideValue_mul significand (place + 924)
  have sum : leading - 7 + ((7 - leading).toNat : Int) = ((leading - 7).toNat : Int) := by omega
  have ten : (10 : ℚ) ^ (leading - 7) * 10 ^ (7 - leading).toNat = 10 ^ (leading - 7).toNat := by
    rw [← zpow_natCast, ← zpow_natCast, ← sum, zpow_add₀ (by norm_num)]
  rw [pow_add] at wide
  push_cast
  rw [← ten, Decimal.value, sub_mul, ← mul_assoc (wideValue _ _), wide, perOne]
  generalize (2 : ℚ) ^ 924 = unit
  ring

section Window

variable {coefficient place turns : Nat} {leading : Int}
  (near : |(⟨coefficient, leading - 7⟩ : Decimal).value - wideValue (2 * turns + 1) (place + 924)| *
    (2 * double.unitsPerOne) ≤ 2 ^ (place + 896))

include near

theorem abs_scaled_difference_le :
    |((10 ^ (leading - 7).toNat * 2 ^ 150 * coefficient : Nat) : ℚ) -
        ((2 * turns + 1) * (10 ^ (7 - leading).toNat * 2 ^ place) : Nat)| * 2 ^ 29 ≤
      (10 ^ (7 - leading).toNat * 2 ^ place : Nat) := by
  have scaled := scaled_difference coefficient place (2 * turns + 1) leading
  have perOne : (0 : ℚ) < double.unitsPerOne := by exact_mod_cast unitsPerOne_pos double
  have ten : (0 : ℚ) < 10 ^ (7 - leading).toNat := by positivity
  have unit : (0 : ℚ) < 2 ^ 896 := by positivity
  have powers : (2 : ℚ) ^ 924 = 2 ^ 28 * 2 ^ 896 := by rw [← pow_add]
  generalize ((10 ^ (leading - 7).toNat * 2 ^ 150 * coefficient : Nat) : ℚ) -
    ((2 * turns + 1) * (10 ^ (7 - leading).toNat * 2 ^ place) : Nat) = difference at scaled ⊢
  generalize (⟨coefficient, leading - 7⟩ : Decimal).value -
    wideValue (2 * turns + 1) (place + 924) = distance at near scaled
  have grown := mul_le_mul_of_nonneg_right near ten.le
  have size : |distance| * (double.unitsPerOne * 10 ^ (7 - leading).toNat) =
      |difference| * (2 ^ 28 * 2 ^ 896) := by
    rw [← powers, ← abs_of_pos (mul_pos perOne ten), ← abs_mul, scaled, abs_mul,
      abs_of_pos (by positivity : (0 : ℚ) < 2 ^ 924)]
  rw [pow_add] at grown
  push_cast
  generalize (2 : ℚ) ^ 896 = whole at *
  apply le_of_mul_le_mul_right _ unit
  linarith

/-- A numeral of at most eight digits very near to a midpoint has a coefficient in the window. -/
theorem holds_nearWindow (different : (⟨coefficient, leading - 7⟩ : Decimal).value ≠
      wideValue (2 * turns + 1) (place + 924)) :
    (nearWindow place leading).Holds coefficient ∧
      (nearWindow place leading).low ≠ (nearWindow place leading).high := by
  have scaled := scaled_difference coefficient place (2 * turns + 1) leading
  have bound := abs_scaled_difference_le near
  have factor : (double.unitsPerOne * 10 ^ (7 - leading).toNat : ℚ) ≠ 0 :=
    mul_ne_zero (by exact_mod_cast (unitsPerOne_pos double).ne') (by positivity)
  have positive : 0 < 10 ^ (7 - leading).toNat * 2 ^ place := by positivity
  have apart : 10 ^ (leading - 7).toNat * 2 ^ 150 * coefficient ≠
      (2 * turns + 1) * (10 ^ (7 - leading).toNat * 2 ^ place) := by
    intro same
    rw [same, sub_self, zero_mul] at scaled
    exact different (sub_eq_zero.mp ((mul_eq_zero.mp scaled).resolve_right factor))
  have window : nearWindow place leading = .nearOdd (10 ^ (leading - 7).toNat * 2 ^ 150)
      (10 ^ (7 - leading).toNat * 2 ^ place) (2 ^ 29) := rfl
  rw [window]
  generalize 10 ^ (leading - 7).toNat * 2 ^ 150 = step at *
  generalize 10 ^ (7 - leading).toNat * 2 ^ place = half at *
  have above : 2 ^ 29 * (step * coefficient) ≤ 2 ^ 29 * ((2 * turns + 1) * half) + half := by
    have above := (mul_le_mul_of_nonneg_right (le_abs_self _) (by norm_num)).trans bound
    rw [sub_mul, sub_le_iff_le_add] at above
    have above : step * coefficient * 2 ^ 29 ≤ half + (2 * turns + 1) * half * 2 ^ 29 := by
      exact_mod_cast above
    omega
  have below : 2 ^ 29 * ((2 * turns + 1) * half) ≤ 2 ^ 29 * (step * coefficient) + half := by
    rw [abs_sub_comm] at bound
    have below := (mul_le_mul_of_nonneg_right (le_abs_self _) (by norm_num)).trans bound
    rw [sub_mul, sub_le_iff_le_add] at below
    have below : (2 * turns + 1) * half * 2 ^ 29 ≤ half + step * coefficient * 2 ^ 29 := by
      exact_mod_cast below
    omega
  rcases Window.holds_nearOdd positive above below (by norm_num) with ⟨holds, several⟩
  exact ⟨holds, several apart⟩

end Window

/-! ## All magnitudes -/

/-- How often a power of ten goes into the value of a magnitude. -/
def quotient (code : Nat) (exponent : Int) : Nat :=
  let scaled := Decimal.scale (single.units code) single.unitsPerOne exponent
  scaled.1 / scaled.2

section Quotient

variable {decimal : Decimal} {code : Nat}

theorem quotient_le (large : single.value code ≤ decimal.value) :
    quotient code decimal.exponent ≤ decimal.coefficient := by
  rw [Decimal.value, ← div_le_iff₀ (zpow_pos (by norm_num) _), BinaryFormat.value,
    ← Decimal.scale_div, div_le_iff₀ (by exact_mod_cast Decimal.scale_pos (unitsPerOne_pos _) _),
    mul_comm] at large
  exact Nat.div_le_of_le_mul (by exact_mod_cast large)

theorem le_quotient (small : decimal.value ≤ single.value code) :
    decimal.coefficient ≤ quotient code decimal.exponent := by
  rw [Decimal.value, ← le_div_iff₀ (zpow_pos (by norm_num) _), BinaryFormat.value,
    ← Decimal.scale_div,
    le_div_iff₀ (by exact_mod_cast Decimal.scale_pos (unitsPerOne_pos _) _)] at small
  rw [quotient, Nat.le_div_iff_mul_le (Decimal.scale_pos (unitsPerOne_pos _) _)]
  exact_mod_cast small

end Quotient

/-- Whether a numeral of eight digits is not rounded to a magnitude that needs to be looked at, or
one that is settled. -/
def harmless (leading : Int) (coefficient : Nat) : Bool :=
  let code := (⟨coefficient, leading - 7⟩ : Decimal).read .single
  decide (single.infinity ≤ code) || exceptions.contains code ||
    settled code (leadingExponent code) 8

/-- Looks at the least magnitude at a place, where the gap below is half of that above, and at all
numerals that come near to a midpoint. -/
def placeSettled (place : Nat) : Bool :=
  (exceptions.contains (least place) || settled (least place) (leastExponent place) 8) &&
    (leadings place).all fun leading =>
      (nearWindow place leading).low == (nearWindow place leading).high ||
        (nearWindow place leading).search (harmless leading)
          (min (Nat.pow 10 8) (quotient (least (place + 1)) (leading - 7)) + 1) 8
          (max (Nat.pow 10 7) (quotient (least place - 1) (leading - 7)))

theorem placeSettled_eq : ∀ place < 254, placeSettled place = true := by decide +kernel

theorem settled_least {place : Nat} (low : place < 254) (ordinary : least place ∉ exceptions) :
    settled (least place) (leadingExponent (least place)) 8 = true := by
  rw [leadingExponent_least (by omega)]
  rcases (Bool.or_eq_true _ _).mp ((Bool.and_eq_true _ _).mp (placeSettled_eq place low)).1 with
    exception | done
  · exact absurd (List.contains_iff_mem.mp exception) ordinary
  · exact done

theorem harmless_of_holds {place coefficient : Nat} {leading : Int} (low : place < 254)
    (member : leading ∈ leadings place) (holds : (nearWindow place leading).Holds coefficient)
    (several : (nearWindow place leading).low ≠ (nearWindow place leading).high)
    (first : 10 ^ 7 ≤ coefficient) (last : coefficient ≤ 10 ^ 8)
    (above : single.value (least place - 1) ≤ (⟨coefficient, leading - 7⟩ : Decimal).value)
    (below : (⟨coefficient, leading - 7⟩ : Decimal).value ≤ single.value (least (place + 1))) :
    harmless leading coefficient = true := by
  have misses := ((Bool.and_eq_true _ _).mp (placeSettled_eq place low)).2
  have all := List.all_eq_true.mp misses leading member
  have positive : 0 < Nat.pow 10 (7 - leading).toNat * Nat.pow 2 place :=
    Nat.mul_pos (Nat.pow_pos (by decide)) (Nat.pow_pos (by decide))
  rcases Window.nearOdd_small positive with ⟨small, modulus⟩
  rcases (Bool.or_eq_true _ _).mp all with one | searched
  · exact absurd (eq_of_beq one) several
  · exact Window.check_of_search small modulus searched holds (max_le first (quotient_le above))
      (Nat.lt_succ_of_le (le_min last (le_quotient below)))

theorem settled_of_harmless {code coefficient : Nat} {leading : Int}
    (safe : harmless leading coefficient = true) (finite : code < single.infinity)
    (ordinary : code ∉ exceptions)
    (rounds : single.RoundsTo (⟨coefficient, leading - 7⟩ : Decimal).value code) :
    settled code (leadingExponent code) 8 = true := by
  have read : (⟨coefficient, leading - 7⟩ : Decimal).read .single = code :=
    (Decimal.read_eq_iff (by decide)).mpr rounds
  unfold harmless at safe
  rw [read] at safe
  simpa [finite.not_ge, ordinary] using safe

section Regular

variable {place less : Nat} (leads : place = 0 ∨ single.leading ≤ less)
  (short : less + 1 < 2 * single.leading)

include leads short

/-- The midpoints on both sides of a magnitude are odd multiples of half the gap. -/
theorem exists_midpoint_eq {side : Nat}
    (which : side = place * single.leading + less + 1 ∨
      place * single.leading + less + 1 = side + 1) :
    ∃ turns, 2 * turns + 1 < 2 ^ 25 ∧
      single.midpoint side = wideValue (2 * turns + 1) (place + 924) := by
  have bound : 2 * single.leading = 2 ^ 24 := rfl
  rcases which with rfl | next
  · refine ⟨less + 1, by omega, ?_⟩
    rw [Nat.add_assoc]
    exact midpoint_eq_wideValue (by omega) short
  · cases Nat.succ.inj next
    exact ⟨less, by omega, midpoint_eq_wideValue leads (by omega)⟩

theorem settled_of_midpoint {digits side : Nat} (some : 0 < digits) (few : digits ≤ 8)
    (finite : place * single.leading + less + 1 < single.infinity)
    (ordinary : place * single.leading + less + 1 ∉ exceptions)
    (rounds : single.RoundsTo (numeral (place * single.leading + less + 1) digits).value
      (place * single.leading + less + 1))
    (which : side = place * single.leading + less + 1 ∨
      place * single.leading + less + 1 = side + 1)
    (different : (numeral (place * single.leading + less + 1) digits).value ≠ single.midpoint side)
    (value : double.value ((numeral (place * single.leading + less + 1) digits).read .double) =
      single.midpoint side) :
    settled (place * single.leading + less + 1)
      (leadingExponent (place * single.leading + less + 1)) 8 = true := by
  have wideRounds := roundsTo_read_numeral (place * single.leading + less + 1) digits
  have nextLeads : place = 0 ∨ single.leading ≤ less + 1 := by omega
  have wideFinite : (numeral (place * single.leading + less + 1) digits).read .double <
      double.infinity := by
    rcases exists_value_eq_midpoint (by omega : side < single.infinity) with ⟨wide, bound, same⟩
    rwa [(value_strictMono double).injective (value.trans same.symm)]
  rcases exists_midpoint_eq leads short which with ⟨turns, bound, midpoint⟩
  rw [midpoint] at different value
  have near := abs_sub_midpoint_le bound (by omega) wideFinite value wideRounds
  rw [value_numeral few] at near different rounds
  rcases holds_nearWindow near different with ⟨holds, several⟩
  rcases filledCoefficient_bounds (Nat.succ_pos _) some few with ⟨first, last⟩
  have low := place_lt nextLeads (by omega)
  have member := mem_leadings nextLeads short (by omega) low
  have above := least_le nextLeads (by omega)
  have below : _ < least (place + 1) := lt_least_succ short
  rw [← Nat.add_assoc] at member above below
  have values := (value_strictMono single).monotone
  have safe := harmless_of_holds low member holds several first last
    ((values (Nat.sub_le_of_le_add above)).trans rounds.value_le_of_succ)
    ((rounds.le_value_succ finite).trans (values below))
  exact settled_of_harmless safe finite ordinary rounds

theorem finds_of_regular (finite : place * single.leading + less + 1 < single.infinity)
    (ordinary : place * single.leading + less + 1 ∉ exceptions) :
    Finds (place * single.leading + less + 1) := by
  intro digits some few number has rounds
  have positive : 0 < place * single.leading + less + 1 := Nat.succ_pos _
  have near := Decimal.abs_nearest_sub_le (units_pos positive) (unitsPerOne_pos single) some has
  have nearest := roundsTo_of_nearer leads short finite rounds near
  rcases roundsTo_twice_or_midpoint finite nearest (roundsTo_read_numeral _ digits) with
    twice | ⟨_, side, which, different, value⟩
  · exact narrowCode_eq_iff.mpr twice
  · have done :=
      settled_of_midpoint leads short some few finite ordinary nearest which different value
    exact accepts_of_settled positive finite done some few has rounds

end Regular

/-- But for the exceptions, a numeral is found among the rounded values if there is one. -/
theorem finds {code : Nat} (positive : 0 < code) (finite : code < single.infinity)
    (ordinary : code ∉ exceptions) : Finds code := by
  rcases exists_place single code with ⟨place, significand, leads, short, rfl⟩
  rcases exists_significand_succ leads positive with ⟨less, rfl⟩
  by_cases first : place ≠ 0 ∧ less + 1 = single.leading
  · have same : place * single.leading + (less + 1) = least place := by
      rw [first.2, least, if_neg first.1]
    have low := place_lt leads finite
    rw [same] at positive finite ordinary ⊢
    exact finds_of_settled positive finite (settled_least low ordinary)
  · rw [← Nat.add_assoc] at finite ordinary ⊢
    exact finds_of_regular (by omega) short finite ordinary

/-! ## The digits of texts -/

section Shown

variable {code : Nat} (positive : 0 < code) (finite : code < single.infinity)

include positive finite

/-- The shown numeral has no more digits than the first rounded value that is accepted. -/
theorem significantDigits_shownNumeral_le : ∃ digits < 9,
    (shownNumeral code).significantDigits ≤ digits + 1 ∧
      ∀ fewer < digits, ¬ Accepts code (fewer + 1) := by
  rcases shownCode_cases code with ⟨digits, bound, _, failed, shown⟩ | ⟨failed, _⟩
  · refine ⟨digits, bound, ?_, failed⟩
    have has : HasDigits (digits + 1) (numeral code (digits + 1)).value :=
      Decimal.hasDigits digits.succ_pos
        (Decimal.coefficient_nearest_le (units_pos positive) (unitsPerOne_pos single)
          digits.succ_pos)
    have rounds := roundsTo_read_numeral code (digits + 1)
    rw [← shown] at rounds
    exact Decimal.significantDigits_shortest_le (shownCode_pos positive finite) (by decide)
      digits.succ_pos (by omega) has rounds
  · exact absurd (accepts_nine positive finite) (failed 8 (by omega))

omit finite in
theorem digits_pos_of_roundsTo {digits : Nat} {number : ℚ} (has : HasDigits digits number)
    (rounds : single.RoundsTo number code) : 0 < digits := by
  rcases Nat.eq_zero_or_pos digits with rfl | some
  · rcases has with ⟨coefficient, exponent, bound, rfl⟩
    have zero : coefficient = 0 := by omega
    rw [zero, Nat.cast_zero, zero_mul] at rounds
    have same := rounds.unique (roundsTo_zero single)
    omega
  · exact some

/-- But for the exceptions, no numeral with fewer digits is rounded to the magnitude. -/
theorem significantDigits_shownNumeral_le_of_ordinary (ordinary : code ∉ exceptions) {digits : Nat}
    {number : ℚ} (has : HasDigits digits number) (rounds : single.RoundsTo number code) :
    (shownNumeral code).significantDigits ≤ digits := by
  have some := digits_pos_of_roundsTo positive has rounds
  rcases significantDigits_shownNumeral_le positive finite with ⟨first, bound, most, failed⟩
  by_contra more
  have accepts := finds positive finite ordinary digits some (by omega) number has rounds
  apply failed (digits - 1) (by omega)
  rwa [Nat.sub_add_cancel some]

end Shown

/-- A numeral with one digit less than the text of an exception. -/
def shorter (code : Nat) : Decimal :=
  if code = 0x0F800000 then ⟨12621775, -36⟩
  else if code = 0x15AE43FD then ⟨7038531, -32⟩
  else if code = 0x6B000000 then ⟨15474251, 19⟩
  else ⟨12379401, 20⟩

theorem shorter_of_exception : ∀ code ∈ exceptions, 0 < code ∧ (shorter code).read .single = code ∧
    (shownNumeral code).significantDigits = (shorter code).significantDigits + 1 ∧
      Decimal.shortestAt .single code ((shorter code).significantDigits - 1) = none := by
  decide +kernel

/-- No numeral that is rounded to a magnitude has two digits less than the shown one. -/
theorem significantDigits_shownNumeral_le_succ {code : Nat} (positive : 0 < code)
    (finite : code < single.infinity) {digits : Nat} {number : ℚ} (has : HasDigits digits number)
    (rounds : single.RoundsTo number code) :
    (shownNumeral code).significantDigits ≤ digits + 1 := by
  by_cases exception : code ∈ exceptions
  · rcases shorter_of_exception code exception with ⟨_, _, count, none⟩
    by_contra more
    have some := digits_pos_of_roundsTo positive has rounds
    have enough := has.mono (by omega : digits ≤ (shorter code).significantDigits - 1)
    exact Decimal.shortestAt_ne_none positive (by decide) (by omega) enough rounds none
  · exact (significantDigits_shownNumeral_le_of_ordinary positive finite exception has rounds).trans
      (Nat.le_succ _)

/-- For the exceptions, and only for them, a numeral has fewer digits than the shown one. -/
theorem exists_fewer_digits_iff {code : Nat} (positive : 0 < code)
    (finite : code < single.infinity) :
    (∃ other : Decimal, other.significantDigits < (shownNumeral code).significantDigits ∧
      single.RoundsTo other.value code) ↔ code ∈ exceptions := by
  constructor
  · rintro ⟨other, fewer, rounds⟩
    by_contra ordinary
    have least := significantDigits_shownNumeral_le_of_ordinary positive finite ordinary
      other.hasDigits_significantDigits rounds
    omega
  · intro exception
    rcases shorter_of_exception code exception with ⟨_, read, count, _⟩
    exact ⟨shorter code, by omega, (Decimal.read_eq_iff (by decide)).mp read⟩

end Single

/-! ## Texts and shorter numerals -/

theorem FloatLiteral.ReadsAs.roundsTo {negative : Bool} {decimal : Decimal} {pattern : Nat}
    (reads : (FloatLiteral.number negative decimal).ReadsAs .single pattern) :
    single.RoundsTo decimal.value (single.code pattern) := by
  have room : single.infinity < single.signWeight := by decide
  cases reads with
  | number rounds => rwa [code_pattern (rounds.bounded.trans_lt room)]

theorem FloatLiteral.readsAs_of_roundsTo {decimal : Decimal} {pattern : Nat}
    (bounded : pattern < 2 * single.signWeight)
    (rounds : single.RoundsTo decimal.value (single.code pattern)) :
    (FloatLiteral.number (single.isNegative pattern) decimal).ReadsAs .single pattern := by
  nth_rewrite 2 [← pattern_code bounded]
  exact .number rounds

/--
The text of four bytes that are a finite number is a numeral, and a numeral with fewer digits is
read as the same four bytes for four magnitudes only, under either sign. Then it has one digit less.
-/
theorem singleText_shortest_but_four {bytes : List UInt8} (four : bytes.length = 4)
    (finite : single.code (Cursor.littleEndian bytes) < single.infinity) :
    ∃ negative decimal,
      FloatLiteral.ofText? (singleText (Cursor.littleEndian bytes)) =
          some (.number negative decimal) ∧
      ((∃ sign shorter, shorter.significantDigits < decimal.significantDigits ∧
          (FloatLiteral.number sign shorter).ReadsAs .single (Cursor.littleEndian bytes)) ↔
        single.code (Cursor.littleEndian bytes) ∈ Single.exceptions) ∧
      ∀ sign other, (FloatLiteral.number sign other).ReadsAs .single (Cursor.littleEndian bytes) →
        decimal.significantDigits ≤ other.significantDigits + 1 := by
  have bounded : Cursor.littleEndian bytes < 2 * single.signWeight := by
    have bound := Cursor.littleEndian_lt bytes
    rw [four] at bound
    exact bound
  generalize Cursor.littleEndian bytes = pattern at *
  rw [Single.singleText_eq]
  rcases FloatLiteral.exists_ofText?_text finite.le Single.coefficient_shownNumeral_pos with
    ⟨infinite, _⟩ | ⟨_, decimal, text, value⟩
  · omega
  refine ⟨_, decimal, text, ?_⟩
  by_cases zero : single.code pattern = 0
  · rw [if_pos zero] at value
    rw [Decimal.significantDigits_eq_zero value, zero]
    refine ⟨iff_of_false ?_ (by decide), fun _ _ _ => Nat.zero_le _⟩
    rintro ⟨_, _, fewer, _⟩
    omega
  · rw [if_neg zero] at value
    have positive := Nat.pos_of_ne_zero zero
    rw [Decimal.significantDigits_congr value, ← Single.exists_fewer_digits_iff positive finite]
    refine ⟨⟨?_, ?_⟩, ?_⟩
    · rintro ⟨_, shorter, fewer, reads⟩
      exact ⟨shorter, fewer, reads.roundsTo⟩
    · rintro ⟨shorter, fewer, rounds⟩
      exact ⟨_, shorter, fewer, FloatLiteral.readsAs_of_roundsTo bounded rounds⟩
    · intro _ other reads
      exact Single.significantDigits_shownNumeral_le_succ positive finite
        other.hasDigits_significantDigits reads.roundsTo

/-- The magnitude where rounding twice goes wrong, under a sign. -/
theorem singleText_shortest_but_four_at_midpoint :
    let bytes : List UInt8 := [0xFD, 0x43, 0xAE, 0x95]
    singleText (Cursor.littleEndian bytes) = "-7.0385307e-26" ∧
      ∃ negative decimal, FloatLiteral.ofText? "-7.0385307e-26" = some (.number negative decimal) ∧
        ∃ sign shorter, shorter.significantDigits < decimal.significantDigits ∧
          (FloatLiteral.number sign shorter).ReadsAs .single (Cursor.littleEndian bytes) := by
  have text : singleText (Cursor.littleEndian [0xFD, 0x43, 0xAE, 0x95]) = "-7.0385307e-26" := by
    decide +kernel
  have finite : single.code (Cursor.littleEndian [0xFD, 0x43, 0xAE, 0x95]) < single.infinity := by
    decide +kernel
  have exception : single.code (Cursor.littleEndian [0xFD, 0x43, 0xAE, 0x95]) ∈
      Single.exceptions := by
    decide +kernel
  rcases singleText_shortest_but_four rfl finite with ⟨negative, decimal, read, shorter, _⟩
  rw [text] at read
  exact ⟨text, negative, decimal, read, shorter.mpr exception⟩

/-- The numeral `1.2621775e-29` has a digit less than the text of two to the minus 96. -/
theorem singleText_not_shortest :
    let bytes : List UInt8 := [0x00, 0x00, 0x80, 0x0F]
    singleText (Cursor.littleEndian bytes) = "1.26217745e-29" ∧
      FloatLiteral.ofText? "1.26217745e-29" = some (.number false ⟨126217745, -37⟩) ∧
      FloatLiteral.ofText? "1.2621775e-29" = some (.number false ⟨12621775, -36⟩) ∧
      (⟨12621775, -36⟩ : Decimal).significantDigits <
        (⟨126217745, -37⟩ : Decimal).significantDigits ∧
      (FloatLiteral.number false ⟨12621775, -36⟩).ReadsAs .single (Cursor.littleEndian bytes) := by
  have pattern :
      Cursor.littleEndian [0x00, 0x00, 0x80, 0x0F] = single.pattern false 0x0F800000 := by
    decide +kernel
  have read : (⟨12621775, -36⟩ : Decimal).read .single = 0x0F800000 := by decide +kernel
  refine ⟨by decide +kernel, by decide +kernel, by decide +kernel, by decide +kernel, ?_⟩
  rw [pattern]
  exact .number ((Decimal.read_eq_iff (by decide)).mp read)

end CilTrace
