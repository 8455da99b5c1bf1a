import CilTrace.Proofs.SingleReadings

/-!
Rounding to eight bytes and from there to four.

Midpoints of four-byte magnitudes are eight-byte magnitudes with room to spare. So a number that is
rounded twice ends where it ends when it is rounded once, unless the first rounding leads to just a
midpoint. Nine digits bring a number so near to a magnitude that this does not happen.
-/

namespace CilTrace

open BinaryFormat

namespace Single

/-! ## Midpoints -/

theorem wideValue_mul (significand place : Nat) :
    wideValue significand place * double.unitsPerOne = significand * 2 ^ place :=
  div_mul_cancel₀ _ (by exact_mod_cast (unitsPerOne_pos double).ne')

theorem wideValue_succ (significand place : Nat) :
    wideValue significand (place + 1) = wideValue (2 * significand) place := by
  rw [wideValue, wideValue, pow_succ]
  push_cast
  ring

theorem wideValue_add (left right place : Nat) :
    wideValue (left + right) place = wideValue left place + wideValue right place := by
  rw [wideValue, wideValue, wideValue, ← add_div, ← add_mul]
  push_cast
  rfl

theorem wideValue_eq_mul (significand place : Nat) :
    wideValue significand place = significand * wideValue 1 place := by
  rw [wideValue, wideValue, Nat.cast_one, one_mul, mul_div_assoc]

theorem wideValue_pos {significand : Nat} (positive : 0 < significand) (place : Nat) :
    0 < wideValue significand place := by
  have above : (0 : ℚ) < significand := by exact_mod_cast positive
  have perOne : (0 : ℚ) < double.unitsPerOne := by exact_mod_cast unitsPerOne_pos double
  exact div_pos (mul_pos above (by positivity)) perOne

theorem wideValue_le_of_le (significand : Nat) {place higher : Nat} (ordered : place ≤ higher) :
    wideValue significand place ≤ wideValue significand higher := by
  have perOne : (0 : ℚ) < double.unitsPerOne := by exact_mod_cast unitsPerOne_pos double
  exact div_le_div_of_nonneg_right (mul_le_mul_of_nonneg_left
    (pow_le_pow_right₀ (by norm_num) ordered) (Nat.cast_nonneg _)) perOne.le

section Place

variable {place significand : Nat} (leads : place = 0 ∨ single.leading ≤ significand)
  (short : significand < 2 * single.leading)

include leads short

theorem midpoint_eq_wideValue : single.midpoint (place * single.leading + significand) =
    wideValue (2 * significand + 1) (place + 924) := by
  have nextLeads : place = 0 ∨ single.leading ≤ significand + 1 := by omega
  have value := value_eq_wideValue leads short.le
  have next := value_eq_wideValue nextLeads short
  have sum : 2 * significand + 2 * (significand + 1) =
      (2 * significand + 1) + (2 * significand + 1) := by ring
  rw [BinaryFormat.midpoint, Nat.add_assoc, value, next, wideValue_succ significand,
    wideValue_succ (significand + 1), ← wideValue_add, sum, wideValue_add]
  ring

theorem midpoint_eq_value_add : single.midpoint (place * single.leading + significand) =
    single.value (place * single.leading + significand) + wideValue 1 (place + 924) := by
  rw [midpoint_eq_wideValue leads short, value_eq_wideValue leads short.le,
    wideValue_succ significand, wideValue_add]

theorem value_succ_eq_midpoint_add :
    single.value (place * single.leading + significand + 1) =
      single.midpoint (place * single.leading + significand) + wideValue 1 (place + 924) := by
  have middle := midpoint_eq_value_add leads short
  unfold BinaryFormat.midpoint at middle ⊢
  linarith

end Place

theorem exists_value_eq_midpoint {code : Nat} (finite : code < single.infinity) :
    ∃ wide < double.infinity, double.value wide = single.midpoint code := by
  rcases exists_place single code with ⟨place, significand, leads, short, rfl⟩
  have low := place_lt leads finite
  have enough : 4 * single.leading ≤ 2 * double.leading := by decide
  rw [midpoint_eq_wideValue leads short]
  exact exists_value_eq_wideValue (by omega) (by omega)

/-! ## Rounding twice -/

section Monotone

variable {number bound : ℚ} {wide : Nat} (rounds : double.RoundsTo number wide)
  (exact : ∃ top < double.infinity, double.value top = bound)

include rounds exact

theorem value_le_of_le (small : number ≤ bound) : double.value wide ≤ bound := by
  rcases exact with ⟨top, finite, rfl⟩
  exact (value_strictMono double).monotone (rounds.le_of_le_value finite.le small)

theorem le_value_of_le (large : bound ≤ number) : bound ≤ double.value wide := by
  rcases exact with ⟨bottom, finite, rfl⟩
  exact (value_strictMono double).monotone (rounds.ge_of_value_le finite.le large)

end Monotone

/--
A number that is rounded to a four-byte magnitude is also rounded so by way of eight bytes, unless
the code is odd and the eight bytes are just a midpoint that the number is not.
-/
theorem roundsTo_twice_or_midpoint {number : ℚ} {code wide : Nat} (finite : code < single.infinity)
    (rounds : single.RoundsTo number code) (wideRounds : double.RoundsTo number wide) :
    single.RoundsTo (double.value wide) code ∨
      code % 2 = 1 ∧ ∃ side, (side = code ∨ code = side + 1) ∧ number ≠ single.midpoint side ∧
        double.value wide = single.midpoint side := by
  have upper := rounds.le_midpoint finite
  have high := value_le_of_le wideRounds (exists_value_eq_midpoint finite) upper.1
  have low : ∀ below, code = below + 1 → single.midpoint below ≤ double.value wide := by
    intro below next
    exact le_value_of_le wideRounds (exists_value_eq_midpoint (by omega))
      (rounds.midpoint_le next).1
  rcases Nat.mod_two_eq_zero_or_one code with even | odd
  · left
    rw [roundsTo_iff]
    exact ⟨rounds.bounded, fun _ => ⟨high, fun _ => even⟩,
      fun below next => ⟨low below next, fun _ => even⟩⟩
  · have notEven : ¬ code % 2 = 0 := by omega
    by_cases top : double.value wide = single.midpoint code
    · exact .inr ⟨odd, code, .inl rfl, fun same => notEven (upper.2 same), top⟩
    · rcases Nat.exists_eq_succ_of_ne_zero (by omega : code ≠ 0) with ⟨below, next⟩
      by_cases bottom : double.value wide = single.midpoint below
      · exact .inr ⟨odd, below, .inr next,
          fun same => notEven ((rounds.midpoint_le next).2 same), bottom⟩
      · left
        rw [roundsTo_iff]
        refine ⟨rounds.bounded, fun _ => ⟨high, fun same => absurd same top⟩, fun less same => ?_⟩
        cases Nat.succ.inj (next.symm.trans same)
        exact ⟨low below next, fun same => absurd same bottom⟩

section Near

variable {place less : Nat} (leads : place = 0 ∨ single.leading ≤ less + 1)
  (short : less + 1 < 2 * single.leading)

include leads short

/-- A magnitude counted in eighths of the gap, for which eight bytes have room. -/
theorem value_eq_eighths : single.value (place * single.leading + (less + 1)) =
    wideValue (8 * less + 7) (place + 922) + wideValue 1 (place + 922) := by
  rw [value_eq_wideValue leads short.le, wideValue_succ, wideValue_succ, wideValue_succ,
    ← wideValue_add]
  congr 1
  ring

variable (finite : place * single.leading + (less + 1) < single.infinity)

include finite

/-- A number that is much nearer to a magnitude than to the next ones is rounded to it. -/
theorem roundsTo_of_near {number : ℚ}
    (near : |number - single.value (place * single.leading + (less + 1))| ≤
      wideValue 1 (place + 922)) :
    single.RoundsTo number (place * single.leading + (less + 1)) := by
  have eighth := wideValue_pos Nat.one_pos (place + 922)
  have quarter : wideValue 1 (place + 923) =
      wideValue 1 (place + 922) + wideValue 1 (place + 922) := by
    rw [wideValue_succ, ← wideValue_add]
  rw [abs_le] at near
  have upper : number < single.midpoint (place * single.leading + (less + 1)) := by
    have more := wideValue_le_of_le 1 (by omega : place + 923 ≤ place + 924)
    rw [midpoint_eq_value_add leads short]
    linarith
  have lower : ∀ below, place * single.leading + (less + 1) = below + 1 →
      single.midpoint below < number := by
    intro below next
    -- The gap below may be half as wide, but no less.
    rcases exists_place_below leads short next.symm with
      ⟨lowerPlace, lowerLess, lowerLeads, lowerShort, rfl, _, adjacent⟩
    have more := wideValue_le_of_le 1 (by omega : place + 923 ≤ lowerPlace + 924)
    have step := value_succ_eq_midpoint_add lowerLeads lowerShort
    rw [← next] at step
    linarith
  rw [roundsTo_iff]
  exact ⟨finite.le, fun _ => ⟨upper.le, fun tie => absurd tie upper.ne⟩,
    fun below next => ⟨(lower below next).le, fun tie => absurd tie (lower below next).ne'⟩⟩

/-- Such a number is also rounded to the magnitude by way of eight bytes. -/
theorem roundsTo_twice_of_near {number : ℚ} {wide : Nat}
    (near : |number - single.value (place * single.leading + (less + 1))| ≤
      wideValue 1 (place + 922))
    (wideRounds : double.RoundsTo number wide) :
    single.RoundsTo (double.value wide) (place * single.leading + (less + 1)) := by
  have low := place_lt leads finite
  have enough : 16 * single.leading < 2 * double.leading := by decide
  have sum : 8 * less + 9 = 8 * less + 7 + 1 + 1 := by ring
  apply roundsTo_of_near leads short finite
  rw [value_eq_eighths leads short, abs_le] at near ⊢
  have high : double.value wide ≤ wideValue (8 * less + 9) (place + 922) := by
    apply value_le_of_le wideRounds (exists_value_eq_wideValue (by omega) (by omega))
    rw [sum, wideValue_add, wideValue_add]
    linarith
  have deep : wideValue (8 * less + 7) (place + 922) ≤ double.value wide :=
    le_value_of_le wideRounds (exists_value_eq_wideValue (by omega) (by omega)) (by linarith)
  rw [sum, wideValue_add, wideValue_add] at high
  constructor <;> linarith

end Near

/-! ## Nine digits are enough -/

/-- The exponent of the leading digit of a magnitude. -/
def leadingExponent (code : Nat) : Int :=
  Decimal.leadingExponent (single.units code) single.unitsPerOne

theorem roundsTo_read_numeral (code digits : Nat) :
    double.RoundsTo (numeral code digits).value ((numeral code digits).read .double) :=
  (Decimal.read_eq_iff (by decide)).mp rfl

section Numeral

variable {code : Nat} (positive : 0 < code)

include positive

theorem units_pos : 0 < single.units code :=
  Nat.zero_lt_of_lt (units_strictMono single positive)

theorem leadsAt : LeadsAt (single.value code) (leadingExponent code) :=
  Decimal.leadsAt_value positive

omit positive in
theorem abs_numeral_sub_le (code digits : Nat) :
    |(numeral code digits).value - single.value code| ≤
      10 ^ (leadingExponent code - digits + 1) / 2 := by
  have power : (0 : ℚ) < 10 ^ (leadingExponent code - digits + 1) := zpow_pos (by norm_num) _
  have rounds : RoundsHalfEven _ (numeral code digits).coefficient :=
    Decimal.roundsHalfEven_nearest (unitsPerOne_pos single)
  calc |(numeral code digits).value - single.value code|
      = _ := abs_mul_zpow_sub _ _ _
    _ ≤ 1 / 2 * 10 ^ (leadingExponent code - digits + 1) :=
        mul_le_mul_of_nonneg_right rounds.near power.le
    _ = 10 ^ (leadingExponent code - digits + 1) / 2 := by ring

omit positive in
theorem exists_significand_succ {place significand : Nat}
    (leads : place = 0 ∨ single.leading ≤ significand)
    (positive : 0 < place * single.leading + significand) : ∃ less, significand = less + 1 := by
  have filled := leading_pos single
  apply Nat.exists_eq_succ_of_ne_zero
  rintro rfl
  rcases leads with rfl | leads <;> omega

theorem accepts_nine (finite : code < single.infinity) : Accepts code 9 := by
  have lower := (leadsAt positive).lower
  have near := abs_numeral_sub_le code 9
  have wide := roundsTo_read_numeral code 9
  have power := pow_mul_zpow_leading (leadingExponent code) (by decide : 0 < 9)
  rw [← power] at lower
  rw [Accepts, narrowCode_eq_iff]
  rcases exists_place single code with ⟨place, significand, leads, short, same⟩
  rw [same] at positive finite
  rcases exists_significand_succ leads positive with ⟨less, rfl⟩
  have value : single.value code = 8 * (less + 1 : Nat) * wideValue 1 (place + 922) := by
    rw [same, value_eq_wideValue leads short.le, wideValue_succ, wideValue_succ, wideValue_succ,
      wideValue_eq_mul]
    push_cast
    ring
  have eighth := wideValue_pos Nat.one_pos (place + 922)
  have bound : 8 * ((less + 1 : Nat) : ℚ) * wideValue 1 (place + 922) ≤
      8 * 2 ^ 24 * wideValue 1 (place + 922) := by
    apply mul_le_mul_of_nonneg_right _ eighth.le
    have short : ((less + 1 : Nat) : ℚ) ≤ 2 ^ 24 := by exact_mod_cast short.le
    linarith
  have small := lower.trans (value.le.trans bound)
  have near : |(numeral code 9).value - single.value code| ≤ wideValue 1 (place + 922) := by
    generalize (10 : ℚ) ^ (leadingExponent code - (9 : Nat) + 1) = unit at near small
    norm_num at small
    linarith
  rw [same] at near wide ⊢
  exact roundsTo_twice_of_near leads short finite near wide

end Numeral

end Single

end CilTrace
