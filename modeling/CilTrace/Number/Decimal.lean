import CilTrace.Number.Binary

/-!
Decimal numerals of floating-point magnitudes.

The shortest numeral of a magnitude is the one with the fewest significant digits that is read back
as that magnitude; of several it is the nearest, and of two equally near ones the even one. All
tests are made in exact arithmetic on whole numbers.
-/

namespace CilTrace

/-- A decimal number: a coefficient times a power of ten. -/
structure Decimal where
  coefficient : Nat
  exponent : Int
deriving DecidableEq, Repr

namespace Decimal

/-- The number of decimal digits of a whole number; zero has one. -/
def digitCount (number : Nat) : Nat :=
  (Nat.toDigits 10 number).length

def numerator (decimal : Decimal) : Nat :=
  decimal.coefficient * Nat.pow 10 decimal.exponent.toNat

def denominator (decimal : Decimal) : Nat :=
  Nat.pow 10 (-decimal.exponent).toNat

/-- The code of the magnitude of `format` that the numeral is read as. -/
def read (format : BinaryFormat) (decimal : Decimal) : Nat :=
  format.nearest decimal.numerator decimal.denominator

/-- The exponent of the leading digit of a positive fraction. -/
def leadingExponent (numerator denominator : Nat) : Int :=
  if denominator ≤ numerator then digitCount (numerator / denominator) - 1
  else -digitCount ((denominator - 1) / numerator)

/-- A fraction divided by a power of ten, as a numerator and a denominator. -/
def scale (numerator denominator : Nat) (exponent : Int) : Nat × Nat :=
  (numerator * Nat.pow 10 (-exponent).toNat, denominator * Nat.pow 10 exponent.toNat)

/-- The numeral of `digits` significant digits nearest to a positive fraction. -/
def nearest (numerator denominator digits : Nat) : Decimal :=
  let exponent := leadingExponent numerator denominator - digits + 1
  let (upper, lower) := scale numerator denominator exponent
  ⟨roundHalfEven upper lower, exponent⟩

/--
The numeral of `digits` significant digits for a positive magnitude: of the two on either side of
its value, the one that is read back, or the nearer if both are.
-/
def shortestAt (format : BinaryFormat) (code digits : Nat) : Option Decimal :=
  let numerator := format.units code
  let denominator := format.unitsPerOne
  let exponent := leadingExponent numerator denominator - digits + 1
  let (upper, lower) := scale numerator denominator exponent
  let below : Decimal := ⟨upper / lower, exponent⟩
  let above : Decimal := ⟨upper / lower + 1, exponent⟩
  match below.read format == code, above.read format == code with
  | true, true => some ⟨roundHalfEven upper lower, exponent⟩
  | true, false => some below
  | false, true => some above
  | false, false => none

/-- The exact numeral of a magnitude. -/
def exact (format : BinaryFormat) (code : Nat) : Decimal :=
  ⟨format.units code * Nat.pow 5 format.unitExponent, -format.unitExponent⟩

/-- The shortest numeral of a positive magnitude. -/
def shortest (format : BinaryFormat) (code : Nat) : Decimal :=
  ((List.range 17).findSome? fun digits => shortestAt format code (digits + 1)).getD
    (exact format code)

/-! ## Layout -/

/-- An exponent with its sign and at least two digits. -/
def exponentText (exponent : Int) : String :=
  (if exponent < 0 then "-" else "+") ++
    String.ofList ((Nat.toDigits 10 exponent.natAbs).leftpad 2 '0')

/--
Writes a positive numeral. With the point between four places left of the first digit and sixteen
places right of it the numeral is positional and keeps at least one digit after the point; any
other has one digit before the point and an exponent.
-/
def layout (decimal : Decimal) : String :=
  let digits := Nat.toDigits 10 decimal.coefficient
  let point := decimal.exponent + digits.length
  let kept := (digits.reverse.dropWhile (· == '0')).reverse
  if -4 < point ∧ point ≤ 0 then
    "0." ++ String.ofList (List.replicate (-point).toNat '0' ++ kept)
  else if 0 < point ∧ point ≤ 16 then
    let whole := (kept.take point.toNat).rightpad point.toNat '0'
    let fraction := kept.drop point.toNat
    String.ofList (whole ++ '.' :: (if fraction.isEmpty then ['0'] else fraction))
  else
    let fraction := kept.drop 1
    String.ofList (kept.take 1 ++ (if fraction.isEmpty then [] else '.' :: fraction)) ++
      "e" ++ exponentText (point - 1)

end Decimal

namespace BinaryFormat

/-- Writes a pattern: words for what is not finite, else a sign and a numeral for the magnitude. -/
def text (format : BinaryFormat) (numeral : Nat → Decimal) (pattern : Nat) : String :=
  let code := format.code pattern
  let sign := if format.isNegative pattern then "-" else ""
  if format.infinity < code then "nan"
  else if code = format.infinity then sign ++ "inf"
  else if code = 0 then sign ++ "0.0"
  else sign ++ (numeral code).layout

end BinaryFormat

/-- Writes an eight-byte pattern by its shortest numeral. -/
def doubleText (pattern : Nat) : String :=
  BinaryFormat.double.text (Decimal.shortest .double) pattern

namespace Single

/-- The code of the eight-byte magnitude equal to a four-byte one. -/
def widenCode (code : Nat) : Nat :=
  if code = BinaryFormat.single.infinity then BinaryFormat.double.infinity
  else if BinaryFormat.single.infinity < code then BinaryFormat.double.infinity + 1
  else BinaryFormat.double.nearest (BinaryFormat.single.units code) BinaryFormat.single.unitsPerOne

/-- The code of the four-byte magnitude nearest to a finite eight-byte one. -/
def narrowCode (code : Nat) : Nat :=
  BinaryFormat.single.nearest (BinaryFormat.double.units code) BinaryFormat.double.unitsPerOne

/-- The eight-byte pattern of the number of a four-byte pattern. -/
def widen (pattern : Nat) : Nat :=
  BinaryFormat.double.pattern (BinaryFormat.single.isNegative pattern)
    (widenCode (BinaryFormat.single.code pattern))

/--
The eight-byte magnitude by which a four-byte one is shown. The value is rounded to one, two, up to
nine digits; the first of these numerals that an eight-byte and then a four-byte reading bring back
to the magnitude is taken.
-/
def shownCode (code : Nat) : Nat :=
  ((List.range 9).findSome? fun digits =>
    let numeral := Decimal.nearest (BinaryFormat.single.units code)
      BinaryFormat.single.unitsPerOne (digits + 1)
    let wide := numeral.read .double
    if narrowCode wide = code then some wide else none).getD (widenCode code)

end Single

/-- Writes a four-byte pattern by a short numeral that is read back as the same pattern. -/
def singleText (pattern : Nat) : String :=
  BinaryFormat.single.text (fun code => Decimal.shortest .double (Single.shownCode code)) pattern

end CilTrace
