import Mathlib.Data.List.Basic
import Mathlib.Data.List.TakeWhile
import CilTrace.Text.Numeral

/-!
Numbers can be read off their texts.

The value of the digits of a number is the number, with any zeros in front, so no two numbers have
the same text. Texts of numbers are words: they have no blanks and no control characters.
-/

namespace CilTrace

/-! ## Words -/

namespace Text

/-- A text without blanks and control characters. -/
def IsWord (text : String) : Prop :=
  ∀ char ∈ text.toList, ' ' < char

instance (text : String) : Decidable (IsWord text) :=
  List.decidableBAll (' ' < ·) text.toList

namespace IsWord

theorem append {left right : String} (leftWord : IsWord left) (rightWord : IsWord right) :
    IsWord (left ++ right) := by
  intro char member
  rw [String.toList_append, List.mem_append] at member
  rcases member with member | member
  · exact leftWord char member
  · exact rightWord char member

theorem intercalate {separator : String} (separatorWord : IsWord separator) {texts : List String}
    (words : ∀ text ∈ texts, IsWord text) : IsWord (String.intercalate separator texts) := by
  induction texts with
  | nil => exact (by decide : IsWord "")
  | cons text texts induction =>
      have first : IsWord text := words text List.mem_cons_self
      have rest := induction fun other member => words other (List.mem_cons_of_mem text member)
      by_cases last : texts = []
      · rw [last, String.intercalate_singleton]
        exact first
      · rw [String.intercalate_cons_of_ne_nil last]
        exact (first.append separatorWord).append rest

theorem notMem {text : String} (word : IsWord text) {char : Char} (low : ¬ ' ' < char) :
    char ∉ text.toList := fun member =>
  low (word char member)

end IsWord

end Text

/-! ## Digits -/

theorem exists_digitChar_of_mem_toDigits {base number : Nat} {char : Char} (large : 1 < base)
    (member : char ∈ Nat.toDigits base number) : ∃ digit < base, char = digit.digitChar := by
  induction number using Nat.strongRecOn with
  | ind number induction =>
      rw [Nat.toDigits_eq_if large] at member
      split at member
      case isTrue small => exact ⟨number, small, List.mem_singleton.mp member⟩
      case isFalse higher =>
        have less : number / base < number := Nat.div_lt_self (by omega) large
        rcases List.mem_append.mp member with front | last
        · exact induction (number / base) less front
        · exact ⟨number % base, Nat.mod_lt _ (by omega), List.mem_singleton.mp last⟩

namespace Numeral

theorem digitsValue_append_singleton {base digit : Nat} {char : Char} (part : List Char)
    (shows : digit? base char = some digit) :
    digitsValue base (part ++ [char]) = base * digitsValue base part + digit := by
  simp [digitsValue, shows]

theorem foldl_digits_lt {base : Nat} {digits : List Nat} (small : ∀ digit ∈ digits, digit < base)
    (value : Nat) :
    digits.foldl (fun value digit => base * value + digit) value <
      (value + 1) * Nat.pow base digits.length := by
  induction digits generalizing value with
  | nil => simp
  | cons digit digits induction =>
      have first := small digit List.mem_cons_self
      have later := induction (fun other member => small other (List.mem_cons_of_mem digit member))
        (base * value + digit)
      have step : base * value + digit + 1 ≤ base * (value + 1) := by
        rw [Nat.mul_succ]
        omega
      calc
        _ < (base * value + digit + 1) * Nat.pow base digits.length := later
        _ ≤ base * (value + 1) * Nat.pow base digits.length := Nat.mul_le_mul_right _ step
        _ = (value + 1) * (Nat.pow base digits.length * base) := by
          rw [Nat.mul_comm base, Nat.mul_assoc, Nat.mul_comm base]

/-- Some digits stand for less than any number that has one digit more. -/
theorem digitsValue_lt (base : Nat) (part : List Char) :
    digitsValue base part < Nat.pow base (part.filterMap (digit? base)).length := by
  have small : ∀ digit ∈ part.filterMap (digit? base), digit < base := by
    intro digit member
    rcases List.mem_filterMap.mp member with ⟨char, _, shows⟩
    simpa using (Option.filter_eq_some_iff.mp shows).2
  have bound := foldl_digits_lt small 0
  rw [Nat.zero_add, Nat.one_mul] at bound
  exact bound

/-- Digits that are written in any way that can be read have the value of their number. -/
theorem digitsValue_map_toDigits {base : Nat} (large : 1 < base) {write : Char → Char}
    (shows : ∀ digit < base, digit? base (write digit.digitChar) = some digit) (number : Nat) :
    digitsValue base ((Nat.toDigits base number).map write) = number := by
  induction number using Nat.strongRecOn with
  | ind number induction =>
      rw [Nat.toDigits_eq_if large]
      split
      case isTrue small =>
        have one := digitsValue_append_singleton [] (shows number small)
        simpa [digitsValue] using one
      case isFalse higher =>
        have less : number / base < number := Nat.div_lt_self (by omega) large
        have last := shows (number % base) (Nat.mod_lt _ (by omega))
        rw [List.map_append, List.map_singleton, digitsValue_append_singleton _ last,
          induction _ less, Nat.div_add_mod]

theorem digitsValue_replicate_zero {base : Nat} (shows : digit? base '0' = some 0) (count : Nat)
    (part : List Char) :
    digitsValue base (List.replicate count '0' ++ part) = digitsValue base part := by
  induction count with
  | zero => simp
  | succ count induction =>
      rw [List.replicate_succ, List.cons_append, ← induction]
      simp [digitsValue, shows]

theorem exists_digit_of_mem_repr {number : Nat} {char : Char}
    (member : char ∈ number.repr.toList) : ∃ digit < 10, char = digit.digitChar := by
  rw [Nat.repr_eq_ofList_toDigits, String.toList_ofList] at member
  exact exists_digitChar_of_mem_toDigits (by decide) member

theorem isWord_repr (number : Nat) : Text.IsWord number.repr := by
  have visible : ∀ digit < 10, ' ' < digit.digitChar := by decide
  intro char member
  rcases exists_digit_of_mem_repr member with ⟨digit, bound, rfl⟩
  exact visible digit bound

theorem isWord_decimal (number : Int) : Text.IsWord (decimal number) := by
  cases number with
  | ofNat number => exact isWord_repr number
  | negSucc below => exact .append (by decide) (isWord_repr (below + 1))

end Numeral

namespace Hex

theorem exists_digit_of_mem_padded {width number : Nat} {char : Char}
    (member : char ∈ (padded width number).toList) :
    ∃ digit < 16, char = digit.digitChar.toUpper := by
  rw [padded, String.toList_ofList, List.leftpad, List.mem_append] at member
  rcases member with zero | shown
  · exact ⟨0, by decide, List.eq_of_mem_replicate zero⟩
  · rcases List.mem_map.mp shown with ⟨char, inside, rfl⟩
    rcases exists_digitChar_of_mem_toDigits (by decide) inside with ⟨digit, bound, rfl⟩
    exact ⟨digit, bound, rfl⟩

theorem isWord_padded (width number : Nat) : Text.IsWord (padded width number) := by
  have visible : ∀ digit < 16, ' ' < digit.digitChar.toUpper := by decide
  intro char member
  rcases exists_digit_of_mem_padded member with ⟨digit, bound, rfl⟩
  exact visible digit bound

theorem isWord_signed (width : Nat) (number : Int) : Text.IsWord (signed width number) := by
  cases number with
  | ofNat number => exact isWord_padded width number
  | negSucc below => exact .append (by decide) (isWord_padded (width - 1) (below + 1))

theorem digitsValue_padded (width number : Nat) :
    Numeral.digitsValue 16 (padded width number).toList = number := by
  have shows : ∀ digit < 16, Numeral.digit? 16 digit.digitChar.toUpper = some digit := by decide
  rw [padded, String.toList_ofList, List.leftpad,
    Numeral.digitsValue_replicate_zero (by decide)]
  exact Numeral.digitsValue_map_toDigits (by decide) shows number

theorem length_padded (width number : Nat) :
    (padded width number).length = max width (digits number).length := by
  rw [padded, String.length_ofList, List.length_leftpad]

theorem length_padded_of_lt {width number : Nat} (wide : 0 < width)
    (small : number < Nat.pow 16 width) : (padded width number).length = width := by
  have few : (Nat.toDigits 16 number).length ≤ width :=
    (Nat.length_toDigits_le_iff (by decide) wide).mpr small
  rw [length_padded, digits, List.length_map]
  exact Nat.max_eq_left few

end Hex

end CilTrace
