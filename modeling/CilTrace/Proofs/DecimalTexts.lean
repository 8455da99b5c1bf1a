import Mathlib.Algebra.Order.Field.Power
import Mathlib.Data.List.Induction
import Mathlib.Data.Rat.Cast.Order
import Mathlib.Tactic.FieldSimp
import Mathlib.Tactic.Positivity
import Mathlib.Tactic.Ring
import CilTrace.Json
import CilTrace.Proofs.NumberTexts

/-!
Decimal numerals can be read off their texts.

However a numeral is laid out, with a point among its digits or with an exponent behind them,
reading the text gives a numeral of the same value.
-/

namespace CilTrace

/-! ## Values -/

namespace Decimal

/-- The number that a numeral stands for. -/
def value (decimal : Decimal) : ℚ :=
  decimal.coefficient * 10 ^ decimal.exponent

theorem denominator_pos (decimal : Decimal) : 0 < decimal.denominator :=
  Nat.pow_pos (by decide)

theorem numerator_div_denominator (decimal : Decimal) :
    (decimal.numerator : ℚ) / decimal.denominator = decimal.value := by
  unfold numerator denominator value
  rcases le_total 0 decimal.exponent with above | below
  · rcases Int.eq_ofNat_of_zero_le above with ⟨power, same⟩
    simp [same]
  · rcases Int.eq_ofNat_of_zero_le (Int.neg_nonneg.mpr below) with ⟨power, same⟩
    have same : decimal.exponent = -power := by omega
    simp [same, div_eq_mul_inv]

end Decimal

/-! ## Reading -/

namespace Decimal

/-- Reads a numeral: digits, then maybe a point and digits, then maybe an exponent. -/
def ofChars? (chars : List Char) : Option Decimal :=
  let whole := chars.takeWhile Json.isDigit
  let fraction := Json.takeFraction (chars.dropWhile Json.isDigit)
  let exponent := Json.takeExponent fraction.2
  if whole.isEmpty || !exponent.2.isEmpty then none
  else some ⟨Json.digitsValue (whole ++ fraction.1), exponent.1.getD 0 - fraction.1.length⟩

end Decimal

/-- What a text says as a floating-point number, before it is rounded. -/
inductive FloatLiteral where
  | number (negative : Bool) (decimal : Decimal)
  | infinity (negative : Bool)
  | nan
deriving DecidableEq

namespace FloatLiteral

def ofText? (text : String) : Option FloatLiteral :=
  let signed := Numeral.takeSign text.toList
  if signed.2 = "inf".toList then some (.infinity signed.1)
  else if signed.2 = "nan".toList then some .nan
  else (Decimal.ofChars? signed.2).map (.number signed.1)

end FloatLiteral

/-! ## Digits -/

/-- Characters that are all decimal digits. -/
def AreDigits (chars : List Char) : Prop :=
  ∀ char ∈ chars, ∃ digit < 10, char = digit.digitChar

namespace AreDigits

theorem append {left right : List Char} (leftDigits : AreDigits left)
    (rightDigits : AreDigits right) : AreDigits (left ++ right) := by
  intro char member
  rcases List.mem_append.mp member with member | member
  · exact leftDigits char member
  · exact rightDigits char member

theorem of_subset {part chars : List Char} (digits : AreDigits chars) (inside : part ⊆ chars) :
    AreDigits part :=
  fun char member => digits char (inside member)

theorem replicate_zero (count : Nat) : AreDigits (List.replicate count '0') := by
  intro char member
  exact ⟨0, by decide, List.eq_of_mem_replicate member⟩

theorem toDigits (number : Nat) : AreDigits (Nat.toDigits 10 number) :=
  fun _ member => exists_digitChar_of_mem_toDigits (by decide) member

variable {chars rest : List Char} (digits : AreDigits chars)

include digits

theorem isDigit {char : Char} (member : char ∈ chars) : Json.isDigit char = true := by
  have shown : ∀ digit < 10, Json.isDigit digit.digitChar = true := by decide
  rcases digits char member with ⟨digit, bound, rfl⟩
  exact shown digit bound

theorem takeWhile_append (stops : ∀ char ∈ rest.head?, Json.isDigit char = false) :
    (chars ++ rest).takeWhile Json.isDigit = chars := by
  rw [List.takeWhile_append_of_pos fun _ => digits.isDigit]
  cases rest with
  | nil => simp
  | cons first rest => simp [stops first rfl]

theorem dropWhile_append (stops : ∀ char ∈ rest.head?, Json.isDigit char = false) :
    (chars ++ rest).dropWhile Json.isDigit = rest := by
  rw [List.dropWhile_append_of_pos fun _ => digits.isDigit]
  cases rest with
  | nil => rfl
  | cons first rest => simp [stops first rfl]

theorem digitsValue_append (front : List Char) :
    Numeral.digitsValue 10 (front ++ chars) =
      Numeral.digitsValue 10 front * 10 ^ chars.length + Numeral.digitsValue 10 chars := by
  have shown : ∀ digit < 10, Numeral.digit? 10 digit.digitChar = some digit := by decide
  induction chars using List.reverseRecOn with
  | nil => simp [Numeral.digitsValue]
  | append_singleton chars char induction =>
      have earlier := induction (digits.of_subset (List.subset_append_left _ _))
      rcases digits char (by simp) with ⟨digit, bound, rfl⟩
      rw [← List.append_assoc, Numeral.digitsValue_append_singleton _ (shown digit bound),
        Numeral.digitsValue_append_singleton _ (shown digit bound), earlier, List.length_append,
        List.length_singleton, pow_succ]
      ring

end AreDigits

/-! ## Laid out numerals -/

namespace Decimal

/-- The digits that are shown: all of the coefficient but the zeros at its end. -/
def shownDigits (decimal : Decimal) : List Char :=
  ((Nat.toDigits 10 decimal.coefficient).reverse.dropWhile (· == '0')).reverse

/-- The place of the point, counted from before the first digit. -/
def point (decimal : Decimal) : Int :=
  decimal.exponent + (Nat.toDigits 10 decimal.coefficient).length

theorem exists_zeros (decimal : Decimal) :
    ∃ zeros, Nat.toDigits 10 decimal.coefficient =
      decimal.shownDigits ++ List.replicate zeros '0' := by
  have split := @List.takeWhile_append_dropWhile Char (· == '0')
    (Nat.toDigits 10 decimal.coefficient).reverse
  have zeros : (Nat.toDigits 10 decimal.coefficient).reverse.takeWhile (· == '0') =
      List.replicate ((Nat.toDigits 10 decimal.coefficient).reverse.takeWhile (· == '0')).length
        '0' := by
    rw [List.eq_replicate_iff]
    refine ⟨rfl, fun char member => ?_⟩
    simpa using List.mem_takeWhile_imp member
  refine ⟨((Nat.toDigits 10 decimal.coefficient).reverse.takeWhile (· == '0')).length, ?_⟩
  rw [zeros] at split
  rw [shownDigits, ← List.reverse_replicate, ← List.reverse_append, split, List.reverse_reverse]

theorem areDigits_shownDigits (decimal : Decimal) : AreDigits decimal.shownDigits := by
  rcases decimal.exists_zeros with ⟨zeros, split⟩
  apply (AreDigits.toDigits decimal.coefficient).of_subset
  rw [split]
  exact List.subset_append_left _ _

theorem digitsValue_toDigits (number : Nat) :
    Numeral.digitsValue 10 (Nat.toDigits 10 number) = number := by
  have shows : ∀ digit < 10, Numeral.digit? 10 (id digit.digitChar) = some digit := by decide
  simpa using Numeral.digitsValue_map_toDigits (by decide) shows number

theorem digitsValue_replicate_zero (count : Nat) :
    Numeral.digitsValue 10 (List.replicate count '0') = 0 := by
  have zeros := Numeral.digitsValue_replicate_zero (by decide : Numeral.digit? 10 '0' = some 0)
    count []
  rwa [List.append_nil] at zeros

/-- The shown digits with the point at its place have the value of the numeral. -/
theorem value_shownDigits (decimal : Decimal) :
    decimal.value = Numeral.digitsValue 10 decimal.shownDigits *
      (10 : ℚ) ^ (decimal.point - decimal.shownDigits.length) := by
  rcases decimal.exists_zeros with ⟨zeros, split⟩
  have whole := digitsValue_toDigits decimal.coefficient
  rw [split, (AreDigits.replicate_zero zeros).digitsValue_append, digitsValue_replicate_zero,
    Nat.add_zero, List.length_replicate] at whole
  have place : decimal.point - decimal.shownDigits.length = zeros + decimal.exponent := by
    rw [point, split, List.length_append, List.length_replicate]
    push_cast
    ring
  rw [value, place, zpow_add₀ (by norm_num), ← mul_assoc, zpow_natCast]
  congr 1
  exact_mod_cast whole.symm

theorem shownDigits_ne_nil {decimal : Decimal} (positive : 0 < decimal.coefficient) :
    decimal.shownDigits ≠ [] := by
  intro none
  have zero := decimal.value_shownDigits
  rw [none] at zero
  have power : (0 : ℚ) < 10 ^ decimal.exponent := by positivity
  have above : (0 : ℚ) < decimal.coefficient := by exact_mod_cast positive
  have nothing : Numeral.digitsValue 10 [] = 0 := rfl
  rw [nothing, Nat.cast_zero, zero_mul] at zero
  exact absurd zero (mul_pos above power).ne'

end Decimal

/-! ## Taking the parts of a text -/

/-- The text of a fraction: a point and the digits, or nothing if there are none. -/
def fractionChars (fraction : List Char) : List Char :=
  if fraction.isEmpty then [] else '.' :: fraction

/-- What stands behind the digits of a numeral: nothing, or an exponent. -/
structure IsTail (chars : List Char) (exponent : Option Int) : Prop where
  taken : Json.takeExponent chars = (exponent, [])
  noDigit : ∀ char ∈ chars.head?, Json.isDigit char = false
  noPoint : ∀ char ∈ chars.head?, char ≠ '.'

theorem isTail_nil : IsTail [] none :=
  ⟨rfl, nofun, nofun⟩

theorem takeExponent_sign (negative : Bool) {digits : List Char} (areDigits : AreDigits digits)
    (filled : digits ≠ []) :
    Json.takeExponent ('e' :: (if negative then '-' else '+') :: digits) =
      (some (if negative then -(Json.digitsValue digits : Int) else Json.digitsValue digits),
        []) := by
  have taken := areDigits.takeWhile_append (by simp : ∀ char ∈ ([] : List Char).head?, _)
  have dropped := areDigits.dropWhile_append (by simp : ∀ char ∈ ([] : List Char).head?, _)
  rw [List.append_nil] at taken dropped
  cases negative <;> simp [Json.takeExponent, Numeral.takeSign, taken, dropped, filled]

theorem isTail_exponentText (exponent : Int) :
    IsTail ('e' :: (Decimal.exponentText exponent).toList) (some exponent) := by
  refine ⟨?_, by simp [Json.isDigit], by simp⟩
  have digits : AreDigits ((Nat.toDigits 10 exponent.natAbs).leftpad 2 '0') :=
    (AreDigits.replicate_zero _).append (AreDigits.toDigits _)
  have value : Json.digitsValue ((Nat.toDigits 10 exponent.natAbs).leftpad 2 '0') =
      exponent.natAbs := by
    rw [Json.digitsValue, List.leftpad, Numeral.digitsValue_replicate_zero (by decide),
      Decimal.digitsValue_toDigits]
  have filled : (Nat.toDigits 10 exponent.natAbs).leftpad 2 '0' ≠ [] := by
    intro none
    have length := congrArg List.length none
    rw [List.length_leftpad, List.length_nil] at length
    omega
  have signed : (Decimal.exponentText exponent).toList =
      (if decide (exponent < 0) then '-' else '+') ::
        (Nat.toDigits 10 exponent.natAbs).leftpad 2 '0' := by
    by_cases below : exponent < 0 <;> simp [Decimal.exponentText, below]
  rw [signed, takeExponent_sign _ digits filled, value]
  rcases Int.lt_or_le exponent 0 with below | above
  · rw [decide_eq_true below, if_pos rfl, Int.ofNat_natAbs_of_nonpos below.le, Int.neg_neg]
  · rw [decide_eq_false (by omega), if_neg (by decide), Int.natAbs_of_nonneg above]

section Parts

variable {whole fraction tail : List Char} {exponent : Option Int} (isTail : IsTail tail exponent)
  (fractionDigits : AreDigits fraction)

include isTail fractionDigits

theorem takeFraction_fractionChars :
    Json.takeFraction (fractionChars fraction ++ tail) = (fraction, tail) := by
  unfold fractionChars
  split_ifs with none
  · have none : fraction = [] := by simpa using none
    rw [none, List.nil_append]
    cases tail with
    | nil => rfl
    | cons first rest =>
        have noPoint := isTail.noPoint first rfl
        unfold Json.takeFraction
        split
        case h_1 rest point => simp_all
        case h_2 => rfl
  · have some : fraction ≠ [] := by simpa using none
    simp only [List.cons_append, Json.takeFraction, fractionDigits.takeWhile_append isTail.noDigit,
      fractionDigits.dropWhile_append isTail.noDigit]
    simp [some]

theorem ofChars?_parts (wholeDigits : AreDigits whole) (filled : whole ≠ []) :
    Decimal.ofChars? (whole ++ (fractionChars fraction ++ tail)) =
      some ⟨Json.digitsValue (whole ++ fraction), exponent.getD 0 - fraction.length⟩ := by
  have stops : ∀ char ∈ (fractionChars fraction ++ tail).head?, Json.isDigit char = false := by
    unfold fractionChars
    split_ifs
    · exact isTail.noDigit
    · simp [Json.isDigit]
  simp only [Decimal.ofChars?, wholeDigits.takeWhile_append stops,
    wholeDigits.dropWhile_append stops, takeFraction_fractionChars isTail fractionDigits,
    isTail.taken]
  simp [filled]

end Parts

/-! ## Reading what is laid out -/

namespace Decimal

variable {decimal : Decimal}

/-- The shown digits among zeros, with the point set accordingly, keep the value. -/
theorem value_among_zeros {digits : List Char} {before behind : Nat} {exponent : Int}
    (split : digits =
      List.replicate before '0' ++ (decimal.shownDigits ++ List.replicate behind '0'))
    (place : exponent + behind = decimal.point - decimal.shownDigits.length) :
    (⟨Json.digitsValue digits, exponent⟩ : Decimal).value = decimal.value := by
  have digitsValue : Json.digitsValue digits =
      Numeral.digitsValue 10 decimal.shownDigits * 10 ^ behind := by
    rw [split, Json.digitsValue, Numeral.digitsValue_replicate_zero (by decide),
      (AreDigits.replicate_zero behind).digitsValue_append, digitsValue_replicate_zero,
      List.length_replicate, Nat.add_zero]
  rw [decimal.value_shownDigits, ← place, value, digitsValue, zpow_add₀ (by norm_num), zpow_natCast]
  push_cast
  ring

theorem toList_layout (decimal : Decimal) : decimal.layout.toList =
    if -4 < decimal.point ∧ decimal.point ≤ 0 then
      ['0'] ++ ('.' :: (List.replicate (-decimal.point).toNat '0' ++ decimal.shownDigits))
    else if 0 < decimal.point ∧ decimal.point ≤ 16 then
      (decimal.shownDigits.take decimal.point.toNat).rightpad decimal.point.toNat '0' ++
        '.' :: (if (decimal.shownDigits.drop decimal.point.toNat).isEmpty then ['0']
          else decimal.shownDigits.drop decimal.point.toNat)
    else
      decimal.shownDigits.take 1 ++ (fractionChars (decimal.shownDigits.drop 1) ++
        'e' :: (exponentText (decimal.point - 1)).toList) := by
  unfold layout
  dsimp only
  rw [← point, ← shownDigits]
  split_ifs <;> simp_all [fractionChars]

/-- A text of digits, a fraction and an exponent in which the shown digits stand among zeros. -/
theorem exists_ofChars?_of_parts {whole fraction tail : List Char} {exponent : Option Int}
    (before behind : Nat) (isTail : IsTail tail exponent) (filled : whole ≠ [])
    (split : whole ++ fraction =
      List.replicate before '0' ++ (decimal.shownDigits ++ List.replicate behind '0'))
    (place : exponent.getD 0 - fraction.length + behind =
      decimal.point - decimal.shownDigits.length) :
    ∃ shown : Decimal, ofChars? (whole ++ (fractionChars fraction ++ tail)) = some shown ∧
      shown.value = decimal.value := by
  have digits : AreDigits (whole ++ fraction) := by
    rw [split]
    exact (AreDigits.replicate_zero _).append
      (decimal.areDigits_shownDigits.append (AreDigits.replicate_zero _))
  have wholeDigits := digits.of_subset (List.subset_append_left _ _)
  have fractionDigits := digits.of_subset (List.subset_append_right _ _)
  exact ⟨_, ofChars?_parts isTail fractionDigits wholeDigits filled, value_among_zeros split place⟩

/-- The text of a positive numeral is read as a numeral of the same value. -/
theorem exists_ofChars?_layout (positive : 0 < decimal.coefficient) :
    ∃ shown : Decimal,
      ofChars? decimal.layout.toList = some shown ∧ shown.value = decimal.value := by
  have filled : 0 < decimal.shownDigits.length :=
    List.length_pos_iff.mpr (shownDigits_ne_nil positive)
  rw [toList_layout]
  split_ifs with small wide short
  · -- The first digit stands behind the point.
    have fraction : fractionChars
        (List.replicate (-decimal.point).toNat '0' ++ decimal.shownDigits) =
        '.' :: (List.replicate (-decimal.point).toNat '0' ++ decimal.shownDigits) := by
      simp [fractionChars, shownDigits_ne_nil positive]
    rw [← fraction, ← List.append_nil (fractionChars _)]
    apply exists_ofChars?_of_parts ((-decimal.point).toNat + 1) 0 isTail_nil
    · simp
    · simp [List.replicate_succ]
    · simp
      omega
  · -- All digits stand before the point.
    have all : decimal.shownDigits.length ≤ decimal.point.toNat := by simpa using short
    have fraction : fractionChars ['0'] = '.' :: ['0'] := rfl
    rw [← fraction, ← List.append_nil (fractionChars _), List.take_of_length_le all]
    apply exists_ofChars?_of_parts 0 (decimal.point.toNat - decimal.shownDigits.length + 1)
      isTail_nil
    · simp [List.rightpad, shownDigits_ne_nil positive]
    · simp [List.rightpad, List.replicate_succ']
    · simp
      omega
  · -- The point stands among the digits.
    have some : decimal.point.toNat < decimal.shownDigits.length := by simpa using short
    have fraction : fractionChars (decimal.shownDigits.drop decimal.point.toNat) =
        '.' :: decimal.shownDigits.drop decimal.point.toNat := by
      rw [fractionChars, if_neg short]
    rw [← fraction, ← List.append_nil (fractionChars _)]
    have unpadded :
        (decimal.shownDigits.take decimal.point.toNat).rightpad decimal.point.toNat '0' =
          decimal.shownDigits.take decimal.point.toNat := by
      simp [List.rightpad, some.le]
    rw [unpadded]
    apply exists_ofChars?_of_parts 0 0 isTail_nil
    · apply List.ne_nil_of_length_pos
      rw [List.length_take]
      omega
    · simp
    · simp
      omega
  · -- One digit stands before the point, and an exponent behind the digits.
    apply exists_ofChars?_of_parts 0 0 (isTail_exponentText _)
    · apply List.ne_nil_of_length_pos
      rw [List.length_take]
      omega
    · rw [List.take_append_drop]
      simp
    · simp
      omega

end Decimal

end CilTrace
