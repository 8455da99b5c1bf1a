import Mathlib.Data.List.Forall2
import Mathlib.Data.List.TakeWhile
import CilTrace.Instruction
import CilTrace.Proofs.NumberTexts
import CilTrace.Symbol.Table

/-!
Spellings of numbers.

A number may be spelled in hexadecimal digits of either case behind a mark, or in decimal digits.
Zeros may stand in front, single underscores between digits, and blanks around it all. Whichever
spelling is taken, the number is read; so the numbers in listings and messages can be given back as
they are shown.
-/

namespace CilTrace

/-! ## Blanks around a text -/

namespace WideText

theorem trim_around {front core back : List Char} (shown : core ≠ [])
    (before : ∀ char ∈ front, Text.isBlank char = true)
    (behind : ∀ char ∈ back, Text.isBlank char = true)
    (solid : ∀ char ∈ core, Text.isBlank char = false) :
    (ofString (String.ofList (front ++ core ++ back))).trim = ofString (String.ofList core) := by
  have kept : ∀ (chars : List Char) (rest : List CodePoint), chars ≠ [] →
      (∀ char ∈ chars, Text.isBlank char = false) →
      (chars.map CodePoint.char ++ rest).dropWhile (fun point => Text.isBlank point.shown) =
        chars.map CodePoint.char ++ rest := by
    intro chars rest some free
    cases chars with
    | nil => exact absurd rfl some
    | cons char chars =>
        have first : Text.isBlank char = false := free char List.mem_cons_self
        exact List.dropWhile_cons_of_neg (by simp [CodePoint.shown, CodePoint.shownBy, first])
  have dropped : ∀ (chars : List Char) (rest : List CodePoint),
      (∀ char ∈ chars, Text.isBlank char = true) →
      (chars.map CodePoint.char ++ rest).dropWhile (fun point => Text.isBlank point.shown) =
        rest.dropWhile (fun point => Text.isBlank point.shown) := by
    intro chars rest blank
    refine List.dropWhile_append_of_pos ?_
    intro point member
    rcases List.mem_map.mp member with ⟨char, inside, rfl⟩
    exact blank char inside
  have backwards := kept core.reverse [] (by simpa using shown) (by simpa using solid)
  simp only [List.map_reverse, List.append_nil] at backwards
  have trailing := dropped back.reverse (core.map CodePoint.char).reverse (by simpa using behind)
  simp only [List.map_reverse] at trailing
  simp only [trim, ofString, String.toList_ofList, List.map_append, List.append_assoc]
  rw [dropped front _ before, kept core _ shown solid, List.reverse_append, trailing, backwards,
    List.reverse_reverse]

theorem trim_solid {core : List Char} (shown : core ≠ [])
    (solid : ∀ char ∈ core, Text.isBlank char = false) :
    (ofString (String.ofList core)).trim = ofString (String.ofList core) := by
  have alone : (ofString (String.ofList ([] ++ core ++ []))).trim = ofString (String.ofList core) :=
    trim_around shown (by simp) (by simp) solid
  rwa [List.nil_append, List.append_nil] at alone

end WideText

namespace Numeral

theorem readSpelled_of_trim {text other : WideText} (same : text.trim = other.trim) :
    readSpelled text = readSpelled other := by
  rw [readSpelled, readSpelled, same]

/-- Blanks around a number do not matter. -/
theorem readSpelled_around {front core back : List Char} (shown : core ≠ [])
    (before : ∀ char ∈ front, Text.isBlank char = true)
    (behind : ∀ char ∈ back, Text.isBlank char = true)
    (solid : ∀ char ∈ core, Text.isBlank char = false) :
    readSpelled (String.ofList (front ++ core ++ back)) = readSpelled (String.ofList core) := by
  have around := WideText.trim_around shown before behind solid
  exact readSpelled_of_trim (around.trans (WideText.trim_solid shown solid).symm)

/-! ## Digits and underscores -/

/-- Digits, and the same digits with at most one underscore between any two. -/
inductive Spaced : List Char → List Char → Prop where
  | last (digit : Char) : Spaced [digit] [digit]
  | next (digit : Char) {digits part : List Char} (later : Spaced digits part) :
      Spaced (digit :: digits) (digit :: part)
  | apart (digit : Char) {digits part : List Char} (later : Spaced digits part) :
      Spaced (digit :: digits) (digit :: '_' :: part)

namespace Spaced

variable {digits part : List Char}

theorem refl (shown : digits ≠ []) : Spaced digits digits := by
  induction digits with
  | nil => exact absurd rfl shown
  | cons digit digits induction =>
      by_cases more : digits = []
      · subst more
        exact .last digit
      · exact .next digit (induction more)

theorem head (spaced : Spaced digits part) :
    ∃ digit others rest, digits = digit :: others ∧ part = digit :: rest := by
  cases spaced with
  | last digit => exact ⟨digit, _, _, rfl, rfl⟩
  | next digit _ => exact ⟨digit, _, _, rfl, rfl⟩
  | apart digit _ => exact ⟨digit, _, _, rfl, rfl⟩

theorem mem {char : Char} (spaced : Spaced digits part) (member : char ∈ part) :
    char ∈ digits ∨ char = '_' := by
  induction spaced with
  | last digit => exact .inl member
  | next digit later induction =>
      rcases List.mem_cons.mp member with rfl | member
      · exact .inl List.mem_cons_self
      · exact (induction member).imp_left (List.mem_cons_of_mem digit)
  | apart digit later induction =>
      rcases List.mem_cons.mp member with rfl | member
      · exact .inl List.mem_cons_self
      · rcases List.mem_cons.mp member with rfl | member
        · exact .inr rfl
        · exact (induction member).imp_left (List.mem_cons_of_mem digit)

theorem underscoresSeparate_part (spaced : Spaced digits part) (free : '_' ∉ digits) :
    underscoresSeparate part = true := by
  induction spaced with
  | last digit =>
      have other : digit ≠ '_' := fun same => free (same ▸ List.mem_cons_self)
      simp [underscoresSeparate, other]
  | next digit later induction =>
      have other : digit ≠ '_' := fun same => free (same ▸ List.mem_cons_self)
      have rest := induction fun member => free (List.mem_cons_of_mem digit member)
      simp [underscoresSeparate, other, rest]
  | apart digit later induction =>
      have other : digit ≠ '_' := fun same => free (same ▸ List.mem_cons_self)
      have rest := induction fun member => free (List.mem_cons_of_mem digit member)
      rcases later.head with ⟨second, others, rest', rfl, rfl⟩
      have distinct : second ≠ '_' := fun same =>
        free (same ▸ List.mem_cons_of_mem digit List.mem_cons_self)
      simpa [underscoresSeparate, other, distinct] using rest

theorem filterMap_part {β : Type} {value : Char → Option β} (none : value '_' = none)
    (spaced : Spaced digits part) : part.filterMap value = digits.filterMap value := by
  induction spaced with
  | last digit => rfl
  | next digit later induction => simp only [List.filterMap_cons, induction]
  | apart digit later induction => simp only [List.filterMap_cons, none, induction]

end Spaced

theorem digit?_underscore (base : Nat) : digit? base '_' = none := by
  have value : (Text.digitValue? '_').or (Hex.digitValue? '_') = none := by decide
  simp [digit?, value]

/-- Digits with underscores between them, and at most the mark of their base in front, are read as
their value. -/
theorem read_spaced {base : Nat} {text : WideText} {unsigned digits part : List Char}
    (spaced : Spaced digits part) (valid : ∀ char ∈ digits, (digit? base char).isSome = true)
    (front : takeSign (text.chars.dropWhile isBlank) = (false, unsigned))
    (unmarked : takeRadix base unsigned = part) (short : base = 10 → digits.length ≤ maxDigits) :
    read base text = .ok (digitsValue base digits) := by
  have free : '_' ∉ digits := by
    intro member
    have digit := valid '_' member
    simp [digit?_underscore] at digit
  have accepted : ∀ char ∈ part, isDigitPart base char = true := by
    intro char member
    rcases spaced.mem member with inside | rfl
    · simp [isDigitPart, valid char inside]
    · simp [isDigitPart]
  have values := spaced.filterMap_part (digit?_underscore base)
  have fits : ¬ (base = 10 ∧ maxDigits < (digits.filterMap (digit? base)).length) := by
    rintro ⟨ten, long⟩
    have fewer := List.length_filterMap_le (digit? base) digits
    have few := short ten
    omega
  have separate := spaced.underscoresSeparate_part free
  rcases spaced.head with ⟨digit, others, rest, rfl, rfl⟩
  have first : digit ≠ '_' := fun same => free (same ▸ List.mem_cons_self)
  simp only [read, front, unmarked, List.takeWhile_eq_self_iff.mpr accepted,
    List.dropWhile_eq_nil_iff.mpr accepted, separate, values, digitsValue]
  simp [first, fits]

/-- A digit of the base that begins nothing else. -/
def IsPlainDigit (base : Nat) (char : Char) : Prop :=
  (digit? base char).isSome = true ∧ isBlank char = false ∧ char ∉ ['+', '-', 'x', 'X']

instance (base : Nat) (char : Char) : Decidable (IsPlainDigit base char) :=
  inferInstanceAs (Decidable (_ ∧ _ ∧ _))

theorem read_plain_spaced {base : Nat} {digits part : List Char} (spaced : Spaced digits part)
    (plain : ∀ char ∈ digits, IsPlainDigit base char)
    (short : base = 10 → digits.length ≤ maxDigits) :
    read base (String.ofList part) = .ok (digitsValue base digits) := by
  have notMark : 'x' ∉ part ∧ 'X' ∉ part := by
    constructor
    · intro member
      rcases spaced.mem member with inside | same
      · exact absurd (by decide) (plain 'x' inside).2.2
      · cases same
    · intro member
      rcases spaced.mem member with inside | same
      · exact absurd (by decide) (plain 'X' inside).2.2
      · cases same
  have unmarked : takeRadix base part = part := by
    unfold takeRadix
    split
    · next zero mark rest =>
        rw [if_neg]
        rintro ⟨-, rfl | rfl⟩
        · exact notMark.1 (by simp)
        · exact notMark.2 (by simp)
    · rfl
  have front : takeSign (part.dropWhile isBlank) = (false, part) := by
    rcases spaced.head with ⟨digit, others, rest, rfl, rfl⟩
    have first := plain digit List.mem_cons_self
    rw [List.dropWhile_cons_of_neg (by simp [first.2.1])]
    unfold takeSign
    split
    · next same => exact absurd (List.cons.inj same).1 (by rintro rfl; exact first.2.2 (by decide))
    · next same => exact absurd (List.cons.inj same).1 (by rintro rfl; exact first.2.2 (by decide))
    · rfl
  apply read_spaced spaced (fun char member => (plain char member).1) _ unmarked short
  rw [WideText.chars_ofString, String.toList_ofList, front]

theorem read_plain {base : Nat} {part : List Char} (shown : part ≠ [])
    (digits : ∀ char ∈ part, IsPlainDigit base char)
    (short : base = 10 → part.length ≤ maxDigits) :
    read base (String.ofList part) = .ok (digitsValue base part) :=
  read_plain_spaced (.refl shown) digits short

/-! ## Marks -/

section Marks

variable {digits part : List Char}

theorem Spaced.solid (spaced : Spaced digits part)
    (free : ∀ char ∈ digits, Text.isBlank char = false) :
    ∀ char ∈ part, Text.isBlank char = false := by
  intro char member
  rcases spaced.mem member with inside | rfl
  · exact free char inside
  · decide

/-- Hexadecimal digits behind a `0x` are read as their value. -/
theorem readSpelled_marked {mark : Char} (marked : mark = 'x' ∨ mark = 'X')
    (spaced : Spaced digits part)
    (plain : ∀ char ∈ digits, IsPlainDigit 16 char ∧ Text.isBlank char = false) :
    readSpelled (String.ofList ('0' :: mark :: part)) = .ok (digitsValue 16 digits) := by
  have solid : ∀ char ∈ '0' :: mark :: part, Text.isBlank char = false := by
    intro char member
    simp only [List.mem_cons] at member
    rcases member with rfl | rfl | inside
    · decide
    · rcases marked with rfl | rfl <;> decide
    · exact spaced.solid (fun char member => (plain char member).2) char inside
  have unmarked : takeRadix 16 ('0' :: mark :: part) = part := by
    have zero : Text.digitValue? '0' = some 0 := by decide
    simp only [takeRadix, zero, true_and, marked, if_true]
    split
    · rcases spaced.head with ⟨digit, others, rest, rfl, same⟩
      cases same
      exact absurd (plain '_' List.mem_cons_self).1 (by decide)
    · rfl
  have short : 16 = 10 → digits.length ≤ maxDigits := fun ten => by cases ten
  rw [readSpelled, WideText.trim_solid (by simp) solid]
  simp only [WideText.chars_ofString, String.toList_ofList, marked, if_true]
  apply read_spaced spaced (fun char member => (plain char member).1.1) _ unmarked short
  rw [WideText.chars_ofString, String.toList_ofList]
  rfl

theorem readSpelled_dollar (spaced : Spaced digits part)
    (plain : ∀ char ∈ digits, IsPlainDigit 16 char ∧ Text.isBlank char = false) :
    readSpelled (String.ofList ('$' :: part)) = .ok (digitsValue 16 digits) := by
  have solid : ∀ char ∈ '$' :: part, Text.isBlank char = false := by
    intro char member
    rcases List.mem_cons.mp member with rfl | inside
    · decide
    · exact spaced.solid (fun char member => (plain char member).2) char inside
  have short : 16 = 10 → digits.length ≤ maxDigits := fun ten => by cases ten
  have read := read_plain_spaced spaced (fun char member => (plain char member).1) short
  rw [readSpelled, WideText.trim_solid (by simp) solid]
  simp only [WideText.chars_ofString, String.toList_ofList]
  simpa [WideText.ofString] using read

theorem readSpelled_decimal (spaced : Spaced digits part)
    (plain : ∀ char ∈ digits, IsPlainDigit 10 char ∧ Text.isBlank char = false)
    (short : digits.length ≤ maxDigits) :
    readSpelled (String.ofList part) = .ok (digitsValue 10 digits) := by
  have read := read_plain_spaced spaced (fun char member => (plain char member).1) fun _ => short
  have solid := spaced.solid fun char member => (plain char member).2
  have shown : part ≠ [] := by
    rcases spaced.head with ⟨digit, others, rest, rfl, rfl⟩
    exact List.cons_ne_nil digit rest
  rw [readSpelled, WideText.trim_solid shown solid]
  simp only [WideText.chars_ofString, String.toList_ofList]
  split
  -- A zero in front is no mark: an `x` behind it would have to be a digit or an underscore.
  · next mark rest =>
      have inside : mark ∈ '0' :: mark :: rest := List.mem_cons_of_mem '0' List.mem_cons_self
      rw [if_neg]
      · exact read
      · intro marked
        rcases spaced.mem inside with digit | rfl
        · rcases marked with rfl | rfl
          · exact (plain 'x' digit).1.2.2 (by decide)
          · exact (plain 'X' digit).1.2.2 (by decide)
        · rcases marked with same | same <;> cases same
  · rcases spaced.head with ⟨digit, others, rest, rfl, same⟩
    cases same
    exact absurd (plain '$' List.mem_cons_self).1 (by decide)
  · exact read

end Marks

/-! ## Hexadecimal numerals -/

/-- Hexadecimal digits alone are read as their value. -/
theorem read_hex {part : List Char} (shown : part ≠ [])
    (digits : ∀ char ∈ part, ∃ digit < 16, char = digit.digitChar.toUpper) :
    read 16 (String.ofList part) = .ok (digitsValue 16 part) := by
  have plain : ∀ digit < 16, IsPlainDigit 16 digit.digitChar.toUpper := by decide
  apply read_plain shown _ (fun ten => by cases ten)
  intro char member
  rcases digits char member with ⟨digit, bound, rfl⟩
  exact plain digit bound

end Numeral

theorem head?_toDigits {base number : Nat} (large : 1 < base) (positive : 0 < number) :
    ∃ digit < base, 0 < digit ∧ (Nat.toDigits base number).head? = some digit.digitChar := by
  induction number using Nat.strongRecOn with
  | ind number induction =>
      rw [Nat.toDigits_eq_if large]
      split
      case isTrue small => exact ⟨number, small, positive, rfl⟩
      case isFalse higher =>
        have less : number / base < number := Nat.div_lt_self positive large
        have left : 0 < number / base := Nat.div_pos (Nat.le_of_not_lt higher) (by omega)
        rcases induction (number / base) less left with ⟨digit, bound, nonzero, first⟩
        exact ⟨digit, bound, nonzero, by simp [List.head?_append, first]⟩

namespace Hex

/-- A numeral of four or more upper-case hexadecimal digits that does not begin with a zero if there
are more than four. -/
structure IsNumeral (text : String) (number : Nat) : Prop where
  digits : ∀ char ∈ text.toList, char ∈ "0123456789ABCDEF".toList
  long : 4 ≤ text.length
  tight : 4 < text.length → text.toList.head? ≠ some '0'
  value : Numeral.read 16 text = .ok number

theorem isNumeral_padded (number : Nat) : IsNumeral (padded 4 number) number := by
  have upper : ∀ digit < 16, digit.digitChar.toUpper ∈ "0123456789ABCDEF".toList := by decide
  have nonzero : ∀ digit < 16, 0 < digit → digit.digitChar.toUpper ≠ '0' := by decide
  have length := length_padded 4 number
  constructor
  case digits =>
    intro char member
    rcases exists_digit_of_mem_padded member with ⟨digit, bound, rfl⟩
    exact upper digit bound
  case long =>
    rw [length]
    exact Nat.le_max_left ..
  case tight =>
    intro more
    have wide : 4 < (digits number).length := by omega
    have positive : 0 < number := by
      rcases Nat.eq_zero_or_pos number with rfl | positive
      · exact absurd wide (by decide)
      · exact positive
    rcases head?_toDigits (by decide : 1 < 16) positive with ⟨digit, bound, left, first⟩
    have unpadded : (padded 4 number).toList = digits number := by
      rw [padded, String.toList_ofList, List.leftpad, Nat.sub_eq_zero_of_le (Nat.le_of_lt wide)]
      rfl
    rw [unpadded, digits, List.head?_map, first]
    simpa using nonzero digit bound left
  case value =>
    have filled : (padded 4 number).toList ≠ [] := by
      intro empty
      have none : (padded 4 number).length = 0 := by
        rw [← String.length_toList, empty]
        rfl
      omega
    have read := Numeral.read_hex filled fun char => exists_digit_of_mem_padded
    rw [String.ofList_toList, digitsValue_padded] at read
    exact read

end Hex

namespace Numeral

/-! ## Numbers -/

/-- A digit in either letter case. -/
def EitherCase (char digit : Char) : Prop :=
  char = digit ∨ char = digit.toUpper

/-- The digits of a number, behind any zeros and each in either case. -/
def Shows (base number : Nat) (digits : List Char) : Prop :=
  ∃ zeros, List.Forall₂ EitherCase digits (List.replicate zeros '0' ++ Nat.toDigits base number)

/-- A character that is read as a digit and begins nothing else. -/
def IsReadAs (base : Nat) (char : Char) (digit : Nat) : Prop :=
  digit? base char = some digit ∧ IsPlainDigit base char ∧ Text.isBlank char = false

instance (base : Nat) (char : Char) (digit : Nat) : Decidable (IsReadAs base char digit) :=
  inferInstanceAs (Decidable (_ ∧ _ ∧ _))

/-- A base whose digits are read in either case. -/
def IsReadable (base : Nat) : Prop :=
  ∀ digit < base, IsReadAs base digit.digitChar digit ∧ IsReadAs base digit.digitChar.toUpper digit

instance (base : Nat) : Decidable (IsReadable base) :=
  inferInstanceAs (Decidable (∀ digit < base, _))

theorem IsReadable.isReadAs {base digit : Nat} {char : Char} (readable : IsReadable base)
    (bound : digit < base) (cased : EitherCase char digit.digitChar) :
    IsReadAs base char digit := by
  rcases cased with rfl | rfl
  · exact (readable digit bound).1
  · exact (readable digit bound).2

theorem isReadable_ten : IsReadable 10 := by decide

theorem isReadable_sixteen : IsReadable 16 := by decide

section Cases

variable {digits target : List Char}

theorem exists_digit_of_cased (cased : List.Forall₂ EitherCase digits target) {char : Char}
    (member : char ∈ digits) : ∃ digit ∈ target, EitherCase char digit := by
  induction cased with
  | nil => cases member
  | cons first _ induction =>
      rcases List.mem_cons.mp member with rfl | later
      · exact ⟨_, List.mem_cons_self, first⟩
      · rcases induction later with ⟨digit, inside, same⟩
        exact ⟨digit, List.mem_cons_of_mem _ inside, same⟩

theorem filterMap_cased {β : Type} {value : Char → Option β}
    (cased : List.Forall₂ EitherCase digits target)
    (same : ∀ digit ∈ target, ∀ char, EitherCase char digit → value char = value digit) :
    digits.filterMap value = target.filterMap value := by
  induction cased with
  | nil => rfl
  | cons first _ induction =>
      have rest := induction fun digit member => same digit (List.mem_cons_of_mem _ member)
      simp only [List.filterMap_cons, same _ List.mem_cons_self _ first, rest]

theorem exists_digit_of_mem_zeros {base number zeros : Nat} (large : 1 < base) {char : Char}
    (member : char ∈ List.replicate zeros '0' ++ Nat.toDigits base number) :
    ∃ digit < base, char = digit.digitChar := by
  rcases List.mem_append.mp member with zero | inside
  · exact ⟨0, by omega, List.eq_of_mem_replicate zero⟩
  · exact exists_digitChar_of_mem_toDigits large inside

theorem forall₂_eitherCase_refl (digits : List Char) : List.Forall₂ EitherCase digits digits :=
  List.forall₂_same.mpr fun _ _ => .inl rfl

end Cases

namespace Shows

variable {base number : Nat} {digits : List Char}

theorem ne_nil (shows : Shows base number digits) : digits ≠ [] := by
  rcases shows with ⟨zeros, cased⟩
  have count := cased.length_eq
  have some := Nat.length_toDigits_pos (b := base) (n := number)
  rintro rfl
  rw [List.length_append, List.length_replicate, List.length_nil] at count
  omega

theorem exists_digit (shows : Shows base number digits) (large : 1 < base) {char : Char}
    (member : char ∈ digits) :
    ∃ digit < base, EitherCase char digit.digitChar := by
  rcases shows with ⟨zeros, cased⟩
  rcases exists_digit_of_cased cased member with ⟨shown, inside, same⟩
  rcases exists_digit_of_mem_zeros large inside with ⟨digit, bound, rfl⟩
  exact ⟨digit, bound, same⟩

theorem plain (shows : Shows base number digits) (large : 1 < base) (readable : IsReadable base) :
    ∀ char ∈ digits, IsPlainDigit base char ∧ Text.isBlank char = false := by
  intro char member
  rcases shows.exists_digit large member with ⟨digit, bound, cased⟩
  exact (readable.isReadAs bound cased).2

theorem digitsValue_eq (shows : Shows base number digits) (large : 1 < base)
    (readable : IsReadable base) : digitsValue base digits = number := by
  have value : ∀ digit < base, digit? base (id digit.digitChar) = some digit := fun digit bound =>
    (readable digit bound).1.1
  have zero : digit? base '0' = some 0 := value 0 (by omega)
  rcases shows with ⟨zeros, cased⟩
  have lowerCase : digitsValue base digits =
      digitsValue base (List.replicate zeros '0' ++ Nat.toDigits base number) := by
    rw [digitsValue, digitsValue, filterMap_cased cased]
    intro shown inside char same
    rcases exists_digit_of_mem_zeros large inside with ⟨digit, bound, rfl⟩
    exact (readable.isReadAs bound same).1.trans (value digit bound).symm
  rw [lowerCase, digitsValue_replicate_zero zero]
  simpa using digitsValue_map_toDigits large value number

end Shows

/-- A text of blanks only. -/
def IsBlankText (text : String) : Prop :=
  ∀ char ∈ text.toList, Text.isBlank char = true

/-- The texts that spell a number. -/
inductive Spelled (number : Nat) : String → Prop where
  | hexadecimal (front mark part back : String) (before : IsBlankText front)
      (marked : mark ∈ ["0x", "0X", "$"]) (digits : List Char) (shows : Shows 16 number digits)
      (spaced : Spaced digits part.toList) (behind : IsBlankText back) :
      Spelled number (front ++ mark ++ part ++ back)
  /-- Zeros in front count as digits. -/
  | decimal (front part back : String) (before : IsBlankText front) (digits : List Char)
      (shows : Shows 10 number digits) (short : digits.length ≤ maxDigits)
      (spaced : Spaced digits part.toList) (behind : IsBlankText back) :
      Spelled number (front ++ part ++ back)

theorem readSpelled_of_core {front core back : String} (before : IsBlankText front)
    (behind : IsBlankText back) (shown : core.toList ≠ [])
    (solid : ∀ char ∈ core.toList, Text.isBlank char = false) {number : Int}
    (read : readSpelled core = .ok number) :
    readSpelled (front ++ core ++ back) = .ok number := by
  have whole : front ++ core ++ back =
      String.ofList (front.toList ++ core.toList ++ back.toList) := by
    apply String.toList_injective
    simp
  rw [whole, readSpelled_around shown before behind solid, String.ofList_toList, read]

theorem readSpelled_behind_mark {mark part : String} (marked : mark ∈ ["0x", "0X", "$"])
    {digits : List Char} (spaced : Spaced digits part.toList)
    (plain : ∀ char ∈ digits, IsPlainDigit 16 char ∧ Text.isBlank char = false) :
    readSpelled (mark ++ part) = .ok (digitsValue 16 digits) := by
  have whole : mark ++ part = String.ofList (mark.toList ++ part.toList) := by
    apply String.toList_injective
    simp
  rw [whole]
  simp only [List.mem_cons, List.not_mem_nil, or_false] at marked
  rcases marked with rfl | rfl | rfl
  · exact readSpelled_marked (.inl rfl) spaced plain
  · exact readSpelled_marked (.inr rfl) spaced plain
  · exact readSpelled_dollar spaced plain

/-- Whatever way a number is spelled in, it is read. -/
theorem readSpelled_of_spelled {number : Nat} {text : String} (spelled : Spelled number text) :
    readSpelled text = .ok number := by
  cases spelled with
  | hexadecimal front mark part back before marked digits shows spaced behind =>
      have plain := shows.plain (by decide) isReadable_sixteen
      have read := readSpelled_behind_mark marked spaced plain
      rw [shows.digitsValue_eq (by decide) isReadable_sixteen] at read
      have markSolid : ∀ mark ∈ ["0x", "0X", "$"],
          mark.toList.all (fun char => !Text.isBlank char) = true := by
        decide
      have partSolid := spaced.solid fun char member => (plain char member).2
      have grouped : front ++ mark ++ part ++ back = front ++ (mark ++ part) ++ back := by
        simp only [String.append_assoc]
      rw [grouped]
      refine readSpelled_of_core before behind ?_ ?_ read
      · rcases spaced.head with ⟨digit, _, rest, _, same⟩
        simp [same]
      · intro char member
        rw [String.toList_append, List.mem_append] at member
        rcases member with member | member
        · simpa using List.all_eq_true.mp (markSolid mark marked) char member
        · exact partSolid char member
  | decimal front part back before digits shows short spaced behind =>
      have plain := shows.plain (by decide) isReadable_ten
      have read := readSpelled_decimal spaced plain short
      rw [shows.digitsValue_eq (by decide) isReadable_ten, String.ofList_toList] at read
      refine readSpelled_of_core before behind ?_ ?_ read
      · rcases spaced.head with ⟨digit, _, rest, _, same⟩
        simp [same]
      · exact spaced.solid fun char member => (plain char member).2

theorem shows_padded (width number : Nat) : Shows 16 number (Hex.padded width number).toList := by
  refine ⟨width - (Hex.digits number).length, ?_⟩
  rw [Hex.padded, String.toList_ofList, List.leftpad]
  refine List.rel_append (forall₂_eitherCase_refl _) ?_
  rw [Hex.digits, List.forall₂_map_left_iff]
  exact List.forall₂_same.mpr fun _ _ => .inr rfl

theorem shows_repr (number : Nat) : Shows 10 number number.repr.toList := by
  refine ⟨0, ?_⟩
  rw [Nat.repr_eq_ofList_toDigits, String.toList_ofList]
  exact forall₂_eitherCase_refl _

/-- Hexadecimal digits as they are shown spell their number behind any mark. -/
theorem spelled_padded {mark : String} (marked : mark ∈ ["0x", "0X", "$"]) (width number : Nat) :
    Spelled number (mark ++ Hex.padded width number) := by
  have shows := shows_padded width number
  have spelled : Spelled number ("" ++ mark ++ Hex.padded width number ++ "") :=
    .hexadecimal "" mark _ "" (by simp [IsBlankText]) marked _ shows (.refl shows.ne_nil)
      (by simp [IsBlankText])
  simpa using spelled

theorem spelled_repr {number : Nat} (short : number.repr.length ≤ maxDigits) :
    Spelled number number.repr := by
  have shows := shows_repr number
  have spelled : Spelled number ("" ++ number.repr ++ "") :=
    .decimal "" _ "" (by simp [IsBlankText]) _ shows short (.refl shows.ne_nil)
      (by simp [IsBlankText])
  simpa using spelled

theorem readSpelled_spellings (width number : Nat) :
    readSpelled ("0x" ++ Hex.padded width number) = .ok number ∧
    readSpelled ("$" ++ Hex.padded width number) = .ok number ∧
    (number.repr.length ≤ maxDigits → readSpelled number.repr = .ok number) :=
  ⟨readSpelled_of_spelled (spelled_padded (by decide) width number),
    readSpelled_of_spelled (spelled_padded (by decide) width number),
    fun short => readSpelled_of_spelled (spelled_repr short)⟩

/-- A decimal number that can be read has few enough digits to be written. -/
theorem isWritable_of_read {text : WideText} {number : Int} (ok : read 10 text = .ok number) :
    isWritable number = true := by
  unfold read at ok
  dsimp only at ok
  split at ok
  · cases ok
  · split at ok
    · cases ok
    · next few =>
        generalize takeRadix 10 _ = body at few ok
        split at ok
        · cases ok
        · have bound := digitsValue_lt 10 (body.takeWhile (isDigitPart 10))
          generalize body.takeWhile (isDigitPart 10) = part at few ok bound
          have count : (part.filterMap (digit? 10)).length ≤ maxDigits := by
            simpa using few
          have limit {many : Nat} (more : (part.filterMap (digit? 10)).length ≤ many) :
              Nat.pow 10 (part.filterMap (digit? 10)).length ≤ Nat.pow 10 many :=
            Nat.pow_le_pow_right (by decide) more
          have size : number.natAbs = digitsValue 10 part := by
            rw [← Except.ok.inj ok]
            split <;> simp
          exact decide_eq_true (size ▸ Nat.lt_of_lt_of_le bound (limit count))

theorem digitsValue_one_zeros (count : Nat) :
    digitsValue 16 ('1' :: List.replicate count '0') = Nat.pow 16 count := by
  induction count with
  | zero => decide
  | succ count induction =>
      have zero : digit? 16 '0' = some 0 := by decide
      rw [List.replicate_succ', ← List.cons_append, digitsValue_append_singleton _ zero, induction]
      exact Nat.mul_comm 16 (Nat.pow 16 count)

theorem readSpelled_one_zeros (count : Nat) :
    readSpelled (String.ofList ('0' :: 'x' :: '1' :: List.replicate count '0')) =
      .ok (Nat.pow 16 count) := by
  have digits : ∀ char ∈ '1' :: List.replicate count '0',
      IsPlainDigit 16 char ∧ Text.isBlank char = false := by
    intro char member
    rcases List.mem_cons.mp member with rfl | zero
    · decide
    · rw [List.eq_of_mem_replicate zero]
      decide
  rw [readSpelled_marked (.inl rfl) (.refl (List.cons_ne_nil _ _)) digits, digitsValue_one_zeros]

/--
Every spelling of a number is read as that number, both where an offset is given and where a token
is a key, and the two readers agree on every other text too. So an offset in front of an instruction
and the token that a message names can be given back as they are shown.
-/
theorem printed_numbers_are_read :
    (∀ (number : Nat) (text : String), Spelled number text →
      readSpelled text = .ok number ∧ (TokenKey.text text).read = .ok number) ∧
    (∀ text : WideText, (TokenKey.text text).read = readSpelled text) ∧
    (∀ (instruction : Instruction) (offset : Nat), instruction.offset = offset →
      ∃ digits, 4 ≤ digits.length ∧
        instruction.line = digits ++ ": " ++ instruction.text false ∧
        ∀ mark ∈ ["0x", "0X", "$"], Spelled offset (mark ++ digits)) ∧
    ∀ error : UnresolvedReference, ∃ digits rest, digits.length = 8 ∧
      error.message = "cannot resolve " ++ error.kind ++ " token " ++ ("0x" ++ digits) ++ rest ∧
      Spelled (error.token % 0x100000000).toNat ("0x" ++ digits) := by
  refine ⟨?_, fun _ => rfl, ?_, ?_⟩
  · intro number text spelled
    have read := readSpelled_of_spelled spelled
    exact ⟨read, read⟩
  · intro instruction offset here
    refine ⟨Hex.padded 4 offset, ?_, ?_, fun mark marked => spelled_padded marked 4 offset⟩
    · rw [Hex.length_padded]
      exact Nat.le_max_left 4 _
    · rw [Instruction.line, here]
      rfl
  · intro error
    have small : (error.token % 0x100000000).toNat < 0x100000000 := by omega
    refine ⟨Hex.padded 8 (error.token % 0x100000000).toNat,
      if error.reason.isEmpty then "" else ": " ++ error.reason, ?_, ?_,
      spelled_padded (by decide) 8 _⟩
    · exact Hex.length_padded_of_lt (by decide) small
    · have joined : " token 0x" = " token " ++ "0x" := rfl
      unfold UnresolvedReference.message
      generalize Hex.padded 8 (error.token % 0x100000000).toNat = digits
      simp only [joined, String.append_assoc]

/-- An offset between blanks, with zeros, an underscore and digits of both cases. -/
theorem printed_numbers_are_read_between_blanks :
    Spelled 0x1ABC "\t 0X00_1aBC\n" ∧
      readSpelled "\t 0X00_1aBC\n" = .ok 0x1ABC ∧
      (TokenKey.text "\t 0X00_1aBC\n").read = .ok 0x1ABC := by
  have shows : Shows 16 0x1ABC ['0', '0', '1', 'a', 'B', 'C'] :=
    ⟨2, .cons (.inl rfl) <| .cons (.inl rfl) <| .cons (.inl rfl) <| .cons (.inl rfl) <|
      .cons (.inr rfl) <| .cons (.inr rfl) .nil⟩
  have spaced : Spaced ['0', '0', '1', 'a', 'B', 'C'] "00_1aBC".toList :=
    .next _ <| .apart _ <| .next _ <| .next _ <| .next _ <| .last _
  have before : IsBlankText "\t " :=
    List.all_eq_true.mp (by decide : "\t ".toList.all Text.isBlank = true)
  have behind : IsBlankText "\n" :=
    List.all_eq_true.mp (by decide : "\n".toList.all Text.isBlank = true)
  have spelled : Spelled 0x1ABC ("\t " ++ "0X" ++ "00_1aBC" ++ "\n") :=
    .hexadecimal _ _ _ _ before (by decide) _ shows spaced behind
  have read := printed_numbers_are_read.1 _ _ spelled
  exact ⟨spelled, read⟩

end Numeral

end CilTrace
