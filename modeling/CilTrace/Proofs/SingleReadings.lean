import CilTrace.Proofs.OperandTexts
import CilTrace.Proofs.ShortestNumerals

/-!
Floating-point texts are read back as what they were written from.

A text is read as a literal, the literal is rounded to eight bytes, and these are packed into four.
Each step is given by the rule that it follows, on rational numbers and bit patterns. The text of
four bytes that are a number leads back to these four bytes, and the packing does not overflow.
-/

namespace CilTrace

/-! ## Magnitudes of the two formats -/

namespace BinaryFormat

variable {format : BinaryFormat}

/-- Every short enough significand at every place belongs to a code. -/
theorem exists_units_eq (place : Nat) {significand : Nat}
    (short : significand < 2 * format.leading) :
    ∃ code, format.units code = significand * 2 ^ place := by
  induction place generalizing significand with
  | zero => exact ⟨_, units_pack (.inl rfl) short.le⟩
  | succ place induction =>
      rcases Nat.lt_or_ge significand format.leading with small | leads
      · rcases induction (by omega : 2 * significand < 2 * format.leading) with ⟨code, units⟩
        refine ⟨code, ?_⟩
        rw [units, pow_succ]
        ring
      · exact ⟨_, units_pack (.inr leads) short.le⟩

end BinaryFormat

open BinaryFormat

namespace Single

theorem narrowCode_eq_iff {wide code : Nat} :
    narrowCode wide = code ↔ single.RoundsTo (double.value wide) code :=
  nearest_eq_iff _ (unitsPerOne_pos double) (by decide)

/-- The number of a significand at a place above the last bit of the eight-byte format. -/
def wideValue (significand place : Nat) : ℚ :=
  significand * 2 ^ place / double.unitsPerOne

theorem exists_units_infinity :
    ∃ top > 2000, double.units double.infinity = double.leading * 2 ^ top := by
  have infinity : double.infinity = 2046 * double.leading + double.leading := by decide
  refine ⟨2046, by decide, ?_⟩
  rw [infinity, units_pack (.inr le_rfl) (by omega)]

theorem unitsPerOne_double : double.unitsPerOne = single.unitsPerOne * 2 ^ 925 := by
  have sum : double.unitExponent = single.unitExponent + 925 := by decide
  rw [unitsPerOne, unitsPerOne, Nat.pow_eq, Nat.pow_eq, sum, pow_add]

theorem exists_value_eq_wideValue {significand place : Nat}
    (short : significand < 2 * double.leading) (low : place ≤ 2000) :
    ∃ wide < double.infinity, double.value wide = wideValue significand place := by
  rcases exists_units_eq place short with ⟨wide, units⟩
  refine ⟨wide, ?_, ?_⟩
  · apply (units_strictMono double).lt_iff_lt.mp
    rcases exists_units_infinity with ⟨top, high, infinity⟩
    rw [units, infinity]
    calc significand * 2 ^ place
        < 2 * double.leading * 2 ^ place :=
          Nat.mul_lt_mul_of_pos_right short (Nat.pow_pos (by decide))
      _ = double.leading * 2 ^ (place + 1) := by ring
      _ ≤ double.leading * 2 ^ top :=
          Nat.mul_le_mul_left _ (Nat.pow_le_pow_right (by decide) (by omega))
  · rw [BinaryFormat.value, units, wideValue]
    push_cast
    rfl

section Finite

variable {place significand : Nat} (leads : place = 0 ∨ single.leading ≤ significand)
  (short : significand ≤ 2 * single.leading)

include leads

theorem place_lt (finite : place * single.leading + significand < single.infinity) :
    place < 254 := by
  have infinity : single.infinity = 255 * single.leading := rfl
  by_contra above
  have above := Nat.mul_le_mul_right single.leading (not_lt.mp above)
  omega

include short

theorem value_eq_wideValue : single.value (place * single.leading + significand) =
    wideValue significand (place + 925) := by
  have power : (2 : ℚ) ^ 925 ≠ 0 := by positivity
  rw [BinaryFormat.value, units_pack leads short, wideValue, unitsPerOne_double, pow_add,
    ← mul_assoc, Nat.cast_mul, Nat.cast_mul, Nat.cast_pow, Nat.cast_pow, Nat.cast_ofNat]
  exact (mul_div_mul_right _ _ power).symm

/-- Every finite four-byte magnitude is an eight-byte one. -/
theorem exists_value_eq (finite : place * single.leading + significand < single.infinity) :
    ∃ wide < double.infinity,
      double.value wide = single.value (place * single.leading + significand) := by
  have low := place_lt leads finite
  have enough : 2 * single.leading < 2 * double.leading := by decide
  rw [value_eq_wideValue leads short]
  exact exists_value_eq_wideValue (by omega) (by omega)

end Finite

theorem value_succ_lt {code : Nat} (finite : code < single.infinity) :
    single.value (code + 1) < double.value double.infinity := by
  rcases exists_place single code with ⟨place, significand, leads, short, rfl⟩
  have low := place_lt leads finite
  have enough : 2 * single.leading < 2 * double.leading := by decide
  rw [Nat.add_assoc, value_eq_wideValue (by omega) short]
  rcases exists_value_eq_wideValue (by omega : significand + 1 < 2 * double.leading)
    (by omega : place + 925 ≤ 2000) with ⟨wide, bound, value⟩
  rw [← value]
  exact value_strictMono double bound

theorem value_widenCode {code : Nat} (finite : code < single.infinity) :
    widenCode code < double.infinity ∧ double.value (widenCode code) = single.value code := by
  have exact : ∃ wide < double.infinity, double.value wide = single.value code := by
    rcases exists_place single code with ⟨place, significand, leads, short, rfl⟩
    exact exists_value_eq leads short.le finite
  rcases exact with ⟨wide, bounded, value⟩
  have widened : widenCode code = wide := by
    rw [widenCode, if_neg finite.ne, if_neg (Nat.lt_asymm finite),
      nearest_eq_iff _ (unitsPerOne_pos single) (by decide), ← BinaryFormat.value, ← value]
    exact .value bounded.le
  rw [widened]
  exact ⟨bounded, value⟩

/-- The value of a magnitude rounded to some digits. -/
def numeral (code digits : Nat) : Decimal :=
  Decimal.nearest (single.units code) single.unitsPerOne digits

/-- Whether the value of a magnitude, rounded to some digits, is brought back to the magnitude. -/
def Accepts (code digits : Nat) : Prop :=
  narrowCode ((numeral code digits).read .double) = code

instance (code digits : Nat) : Decidable (Accepts code digits) :=
  instDecidableEqNat _ _

theorem shownCode_eq (code : Nat) : shownCode code =
    ((List.range 9).findSome? fun digits => if Accepts code (digits + 1) then
      some ((numeral code (digits + 1)).read .double) else none).getD (widenCode code) := rfl

/-- The first accepted number of digits decides, and the exact value if nine digits are too few. -/
theorem shownCode_cases (code : Nat) :
    (∃ digits < 9, Accepts code (digits + 1) ∧ (∀ fewer < digits, ¬ Accepts code (fewer + 1)) ∧
        shownCode code = (numeral code (digits + 1)).read .double) ∨
      (∀ digits < 9, ¬ Accepts code (digits + 1)) ∧ shownCode code = widenCode code := by
  rw [shownCode_eq]
  rcases findSome?_range_cases (fun digits => if Accepts code (digits + 1) then
      some ((numeral code (digits + 1)).read .double) else none) 9 with
    ⟨failed, none⟩ | ⟨digits, bound, failed, wide, found, first⟩
  · right
    rw [none]
    exact ⟨by simpa using failed, rfl⟩
  · left
    rw [first]
    rw [Option.ite_none_right_eq_some, Option.some.injEq] at found
    exact ⟨digits, bound, found.1, by simpa using failed, found.2.symm⟩

/-- What is shown for a magnitude is rounded to it. -/
theorem narrowCode_shownCode {code : Nat} (finite : code < single.infinity) :
    narrowCode (shownCode code) = code := by
  rcases shownCode_cases code with ⟨digits, _, accepts, _, shown⟩ | ⟨_, shown⟩
  · rw [shown]
    exact accepts
  · rw [shown, narrowCode_eq_iff, (value_widenCode finite).2]
    exact .value finite.le

theorem shownCode_lt {code : Nat} (finite : code < single.infinity) :
    shownCode code < double.infinity := by
  rcases shownCode_cases code with ⟨digits, _, accepts, _, shown⟩ | ⟨_, shown⟩
  · rw [shown]
    have bounded : (numeral code (digits + 1)).read .double ≤ double.infinity := Nat.min_le_left _ _
    rcases Nat.lt_or_eq_of_le bounded with below | top
    · exact below
    · rw [Accepts, top, narrowCode_eq_iff] at accepts
      exact absurd (accepts.le_value_succ finite) (value_succ_lt finite).not_ge
  · rw [shown]
    exact (value_widenCode finite).1

theorem shownCode_pos {code : Nat} (positive : 0 < code) (finite : code < single.infinity) :
    0 < shownCode code := by
  rcases Nat.eq_zero_or_pos (shownCode code) with zero | above
  · have narrowed : narrowCode 0 = 0 := by
      rw [narrowCode_eq_iff, value_zero]
      exact roundsTo_zero single
    have back := narrowCode_shownCode finite
    rw [zero, narrowed] at back
    omega
  · exact above

end Single

/-! ## Patterns -/

namespace BinaryFormat

variable {format : BinaryFormat}

theorem signWeight_pos (format : BinaryFormat) : 0 < format.signWeight :=
  Nat.pow_pos (by decide)

theorem pattern_code {pattern : Nat} (bounded : pattern < 2 * format.signWeight) :
    format.pattern (format.isNegative pattern) (format.code pattern) = pattern := by
  have split := Nat.div_add_mod pattern format.signWeight
  rw [BinaryFormat.pattern, isNegative, code]
  rcases Nat.lt_or_ge pattern format.signWeight with small | large
  · rw [Nat.div_eq_of_lt small, Nat.mod_eq_of_lt small]
    rfl
  · have one : pattern / format.signWeight = 1 := by
      rw [Nat.div_eq_iff (signWeight_pos format)]
      omega
    rw [one] at split ⊢
    simpa using split

theorem isNegative_pattern {negative : Bool} {code : Nat} (bounded : code < format.signWeight) :
    format.isNegative (format.pattern negative code) = negative := by
  have positive := signWeight_pos format
  cases negative with
  | false => simp [isNegative, BinaryFormat.pattern, Nat.div_eq_of_lt bounded]
  | true =>
      have one : (format.signWeight + code) / format.signWeight = 1 := by
        rw [Nat.div_eq_iff positive]
        omega
      simp [isNegative, BinaryFormat.pattern, one]

theorem code_pattern {negative : Bool} {code : Nat} (bounded : code < format.signWeight) :
    format.code (format.pattern negative code) = code := by
  cases negative <;> simp [BinaryFormat.code, BinaryFormat.pattern, Nat.mod_eq_of_lt bounded]

end BinaryFormat

/-! ## The rules of reading and packing -/

/--
A pattern as which a literal is read: under the sign of the literal stands the code to which its
number is rounded.
-/
inductive FloatLiteral.ReadsAs (format : BinaryFormat) : FloatLiteral → Nat → Prop
  | number {negative : Bool} {decimal : Decimal} {code : Nat}
      (rounds : format.RoundsTo decimal.value code) :
      ReadsAs format (.number negative decimal) (format.pattern negative code)
  | infinity {negative : Bool} :
      ReadsAs format (.infinity negative) (format.pattern negative format.infinity)

/--
A four-byte pattern into which an eight-byte one is packed. Infinities are kept; a finite number is
rounded, and overflows if that gives infinity.
-/
inductive Single.PacksTo (wide : Nat) : Nat → Prop
  | finite {code : Nat} (finite : double.code wide < double.infinity)
      (rounds : single.RoundsTo (double.value (double.code wide)) code)
      (noOverflow : code < single.infinity) :
      PacksTo wide (single.pattern (double.isNegative wide) code)
  | infinity (infinite : double.code wide = double.infinity) :
      PacksTo wide (single.pattern (double.isNegative wide) single.infinity)

theorem FloatLiteral.ReadsAs.unique {format : BinaryFormat} {literal : FloatLiteral}
    {pattern other : Nat} (reads : literal.ReadsAs format pattern)
    (others : literal.ReadsAs format other) : pattern = other := by
  cases reads with
  | number rounds =>
      cases others with
      | number otherRounds => rw [rounds.unique otherRounds]
  | infinity =>
      cases others with
      | infinity => rfl

theorem Single.PacksTo.unique {wide pattern other : Nat} (packs : PacksTo wide pattern)
    (others : PacksTo wide other) : pattern = other := by
  cases packs with
  | finite finite rounds _ =>
      cases others with
      | finite _ otherRounds _ => rw [rounds.unique otherRounds]
      | infinity infinite => omega
  | infinity infinite =>
      cases others with
      | finite finite _ _ => omega
      | infinity _ => rfl

/-! ## Literals of texts -/

theorem Decimal.exists_digit_of_ofChars? {chars : List Char} {decimal : Decimal}
    (read : ofChars? chars = some decimal) :
    ∃ first rest, chars = first :: rest ∧ Json.isDigit first = true := by
  cases chars with
  | nil => cases read
  | cons first rest =>
      refine ⟨first, rest, rfl, ?_⟩
      cases shown : Json.isDigit first with
      | true => rfl
      | false => simp [ofChars?, shown] at read

theorem Numeral.takeSign_sign (negative : Bool) {first : Char} (rest : List Char)
    (digit : Json.isDigit first = true) :
    takeSign ((if negative then "-" else "").toList ++ first :: rest) =
      (negative, first :: rest) := by
  cases negative with
  | true => rfl
  | false =>
      unfold takeSign
      split
      case h_1 rest same =>
        cases (List.cons.inj same).1
        cases digit
      case h_2 rest same =>
        cases (List.cons.inj same).1
        cases digit
      case h_3 => rfl

namespace FloatLiteral

theorem ofText?_numeral (negative : Bool) {text : String} {decimal : Decimal}
    (read : Decimal.ofChars? text.toList = some decimal) :
    ofText? ((if negative then "-" else "") ++ text) = some (.number negative decimal) := by
  rcases Decimal.exists_digit_of_ofChars? read with ⟨first, rest, chars, digit⟩
  have infinity : first :: rest ≠ "inf".toList := by
    intro same
    cases (List.cons.inj same).1
    cases digit
  have nan : first :: rest ≠ "nan".toList := by
    intro same
    cases (List.cons.inj same).1
    cases digit
  rw [chars] at read
  rw [ofText?, String.toList_append, chars, Numeral.takeSign_sign negative rest digit]
  simp only [if_neg infinity, if_neg nan, read, Option.map_some]

/-- The literal of a pattern that is a number: its sign with infinity or with the value of its
numeral. -/
theorem exists_ofText?_text {format : BinaryFormat} {numeral : Nat → Decimal} {pattern : Nat}
    (number : format.code pattern ≤ format.infinity)
    (positive : 0 < format.code pattern → format.code pattern < format.infinity →
      0 < (numeral (format.code pattern)).coefficient) :
    (format.code pattern = format.infinity ∧ ofText? (format.text numeral pattern) =
        some (.infinity (format.isNegative pattern))) ∨
      (format.code pattern < format.infinity ∧ ∃ decimal : Decimal,
        ofText? (format.text numeral pattern) =
            some (.number (format.isNegative pattern) decimal) ∧
          decimal.value = if format.code pattern = 0 then 0
            else (numeral (format.code pattern)).value) := by
  rw [BinaryFormat.text, if_neg (by omega)]
  rcases Nat.lt_or_eq_of_le number with finite | infinite
  · right
    refine ⟨finite, ?_⟩
    rw [if_neg finite.ne]
    by_cases zero : format.code pattern = 0
    · have read : Decimal.ofChars? "0.0".toList = some ⟨0, -1⟩ := by decide
      rw [if_pos zero, if_pos zero]
      exact ⟨⟨0, -1⟩, ofText?_numeral _ read, by simp [Decimal.value]⟩
    · rw [if_neg zero, if_neg zero]
      rcases Decimal.exists_ofChars?_layout (positive (Nat.pos_of_ne_zero zero) finite) with
        ⟨shown, read, value⟩
      exact ⟨shown, ofText?_numeral _ read, value⟩
  · left
    rw [if_pos infinite]
    refine ⟨infinite, ?_⟩
    cases format.isNegative pattern <;> rfl

end FloatLiteral

/-! ## Four bytes and back -/

namespace Single

/-- The numeral that is written for a positive magnitude. -/
def shownNumeral (code : Nat) : Decimal :=
  .shortest .double (shownCode code)

theorem singleText_eq (pattern : Nat) : singleText pattern = single.text shownNumeral pattern := rfl

variable {code : Nat}

theorem roundsTo_shownNumeral (finite : code < single.infinity) :
    double.RoundsTo (shownNumeral code).value (shownCode code) :=
  (Decimal.read_eq_iff (by decide)).mp (Decimal.read_shortest (by decide) (shownCode_lt finite).le)

theorem coefficient_shownNumeral_pos (positive : 0 < code) (finite : code < single.infinity) :
    0 < (shownNumeral code).coefficient := by
  apply Decimal.coefficient_pos_of_read (by decide : 1 < double.precision)
  rw [(Decimal.read_eq_iff (by decide)).mpr (roundsTo_shownNumeral finite)]
  exact shownCode_pos positive finite

/-- A finite magnitude is shown by a number that is rounded to eight bytes and then back to it. -/
theorem exists_roundsTo (finite : code < single.infinity) :
    ∃ wide < double.infinity,
      double.RoundsTo (if code = 0 then 0 else (shownNumeral code).value) wide ∧
        single.RoundsTo (double.value wide) code := by
  by_cases zero : code = 0
  · rw [if_pos zero, zero]
    refine ⟨0, by decide, roundsTo_zero double, ?_⟩
    rw [value_zero]
    exact roundsTo_zero single
  · rw [if_neg zero]
    exact ⟨shownCode code, shownCode_lt finite, roundsTo_shownNumeral finite,
      narrowCode_eq_iff.mp (narrowCode_shownCode finite)⟩

/-- The text of a pattern is read as an eight-byte pattern that is packed into it. -/
theorem exists_packsTo {pattern : Nat} (bounded : pattern < 2 * single.signWeight)
    (number : single.code pattern ≤ single.infinity) :
    ∃ literal wide, FloatLiteral.ofText? (singleText pattern) = some literal ∧
      literal.ReadsAs .double wide ∧ PacksTo wide pattern := by
  have whole := pattern_code bounded
  have room : double.infinity < double.signWeight := by decide
  rw [singleText_eq]
  rcases FloatLiteral.exists_ofText?_text number coefficient_shownNumeral_pos with
    ⟨infinite, text⟩ | ⟨finite, decimal, text, value⟩
  · refine ⟨_, _, text, .infinity, ?_⟩
    have packs := PacksTo.infinity (code_pattern room : double.code (double.pattern
      (single.isNegative pattern) double.infinity) = double.infinity)
    rwa [isNegative_pattern room, ← infinite, whole] at packs
  · rcases exists_roundsTo finite with ⟨wide, wideFinite, rounds, back⟩
    have room : wide < double.signWeight := wideFinite.trans room
    refine ⟨_, double.pattern (single.isNegative pattern) wide, text, .number ?_, ?_⟩
    · rwa [value]
    · have code : double.code (double.pattern (single.isNegative pattern) wide) = wide :=
        code_pattern room
      rw [← code] at wideFinite back
      have packs := PacksTo.finite wideFinite back finite
      rwa [isNegative_pattern room, whole] at packs

/-- What the text of a pattern is read as and packed into is the pattern. -/
theorem eq_of_packsTo {pattern wide packed : Nat} {literal : FloatLiteral}
    (bounded : pattern < 2 * single.signWeight) (number : single.code pattern ≤ single.infinity)
    (text : FloatLiteral.ofText? (singleText pattern) = some literal)
    (reads : literal.ReadsAs .double wide) (packs : PacksTo wide packed) : packed = pattern := by
  rcases exists_packsTo bounded number with ⟨same, sameWide, sameText, sameReads, samePacks⟩
  rw [text, Option.some.injEq] at sameText
  subst sameText
  cases reads.unique sameReads
  exact packs.unique samePacks

end Single

namespace Cursor

/-- The bytes that spell a number, the least significant one first. -/
def spell : Nat → Nat → List UInt8
  | 0, _ => []
  | size + 1, number => UInt8.ofNat number :: spell size (number / 0x100)

theorem spell_littleEndian (bytes : List UInt8) :
    spell bytes.length (littleEndian bytes) = bytes := by
  induction bytes with
  | nil => rfl
  | cons byte bytes induction =>
      have value : littleEndian (byte :: bytes) = byte.toNat + 0x100 * littleEndian bytes := rfl
      have small := byte.toNat_lt
      have first : UInt8.ofNat (littleEndian (byte :: bytes)) = byte := by
        apply UInt8.toNat.inj
        rw [UInt8.toNat_ofNat', value]
        omega
      have rest : littleEndian (byte :: bytes) / 0x100 = littleEndian bytes := by
        rw [value]
        omega
      rw [List.length_cons, spell, first, rest, induction]

end Cursor

/--
The text of four bytes that are not a NaN is a literal. Rounding the literal to eight bytes and
packing these into four gives the same bytes, in no more than one way and without overflow. So no
other four bytes that are not a NaN have this text.
-/
theorem singleText_gives_back_bytes {bytes : List UInt8} (four : bytes.length = 4)
    (number : single.code (Cursor.littleEndian bytes) ≤ single.infinity) :
    (∃ literal wide pattern,
      FloatLiteral.ofText? (singleText (Cursor.littleEndian bytes)) = some literal ∧
        literal.ReadsAs .double wide ∧ Single.PacksTo wide pattern) ∧
    (∀ literal wide pattern,
      FloatLiteral.ofText? (singleText (Cursor.littleEndian bytes)) = some literal →
        literal.ReadsAs .double wide → Single.PacksTo wide pattern →
          Cursor.spell 4 pattern = bytes) ∧
    ∀ others : List UInt8, others.length = 4 →
      single.code (Cursor.littleEndian others) ≤ single.infinity →
        singleText (Cursor.littleEndian others) = singleText (Cursor.littleEndian bytes) →
          others = bytes := by
  have bounded : ∀ four : List UInt8, four.length = 4 →
      Cursor.littleEndian four < 2 * single.signWeight := by
    intro bytes four
    have bound := Cursor.littleEndian_lt bytes
    rw [four] at bound
    exact bound
  rcases Single.exists_packsTo (bounded bytes four) number with ⟨literal, wide, text, reads, packs⟩
  refine ⟨⟨literal, wide, _, text, reads, packs⟩, ?_, ?_⟩
  · intro literal wide pattern text reads packs
    rw [Single.eq_of_packsTo (bounded bytes four) number text reads packs, ← four,
      Cursor.spell_littleEndian]
  · intro others otherFour otherNumber same
    rw [← same] at text
    have pattern := Single.eq_of_packsTo (bounded others otherFour) otherNumber text reads packs
    exact Cursor.littleEndian_injective (otherFour.trans four.symm) pattern.symm

/-- The largest finite magnitude, under a sign. -/
theorem singleText_gives_back_largest :
    let bytes : List UInt8 := [0xFF, 0xFF, 0x7F, 0xFF]
    singleText (Cursor.littleEndian bytes) = "-3.4028235e+38" ∧
      ∃ literal wide pattern, FloatLiteral.ofText? "-3.4028235e+38" = some literal ∧
        literal.ReadsAs .double wide ∧ Single.PacksTo wide pattern ∧
          Cursor.spell 4 pattern = bytes := by
  have text : singleText (Cursor.littleEndian [0xFF, 0xFF, 0x7F, 0xFF]) = "-3.4028235e+38" := by
    decide +kernel
  have number : single.code (Cursor.littleEndian [0xFF, 0xFF, 0x7F, 0xFF]) ≤ single.infinity := by
    decide +kernel
  have back := singleText_gives_back_bytes rfl number
  rw [text] at back
  rcases back with ⟨⟨literal, wide, pattern, read, reads, packs⟩, spelled, _⟩
  exact ⟨text, literal, wide, pattern, read, reads, packs,
    spelled literal wide pattern read reads packs⟩

end CilTrace
