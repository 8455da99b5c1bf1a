/-!
Binary floating-point formats.

A format is given by the width of its significand and of its exponent. A pattern is the number that
the stored bits spell: one sign bit above the code of a magnitude. Codes grow with the magnitudes
they stand for, so a magnitude is handled through its code, and every finite magnitude is a whole
multiple of the least positive one.
-/

namespace CilTrace

/-- The quotient rounded to the nearest whole number, a half going to the even neighbour. -/
def roundHalfEven (numerator denominator : Nat) : Nat :=
  let quotient := numerator / denominator
  let twice := 2 * (numerator % denominator)
  if twice < denominator then quotient
  else if denominator < twice then quotient + 1
  else quotient + quotient % 2

/-- A binary format: bits of precision, with the leading one, and bits of the exponent. -/
structure BinaryFormat where
  precision : Nat
  exponentWidth : Nat
deriving DecidableEq, Repr

namespace BinaryFormat

/-- The four-byte format. -/
def single : BinaryFormat := ⟨24, 8⟩

/-- The eight-byte format. -/
def double : BinaryFormat := ⟨53, 11⟩

/-- The least positive magnitude is two to the minus this exponent. -/
def unitExponent (format : BinaryFormat) : Nat :=
  Nat.pow 2 (format.exponentWidth - 1) + format.precision - 3

/-- The least significand with its leading bit set; there are as many codes for each exponent. -/
def leading (format : BinaryFormat) : Nat :=
  Nat.pow 2 (format.precision - 1)

/-- The weight of the sign bit, and the number of codes. -/
def signWeight (format : BinaryFormat) : Nat :=
  Nat.pow 2 (format.precision + format.exponentWidth - 1)

/-- The code of infinity; smaller codes are finite and larger ones stand for no number. -/
def infinity (format : BinaryFormat) : Nat :=
  (Nat.pow 2 format.exponentWidth - 1) * format.leading

/-- Whether the sign bit of a pattern is set. -/
def isNegative (format : BinaryFormat) (pattern : Nat) : Bool :=
  pattern / format.signWeight % 2 = 1

/-- The code of the magnitude of a pattern. -/
def code (format : BinaryFormat) (pattern : Nat) : Nat :=
  pattern % format.signWeight

/-- The pattern of a magnitude with a sign. -/
def pattern (format : BinaryFormat) (negative : Bool) (code : Nat) : Nat :=
  if negative then format.signWeight + code else code

/-- A finite magnitude, counted in multiples of the least positive one. -/
def units (format : BinaryFormat) (code : Nat) : Nat :=
  if code < format.leading then code
  else (format.leading + code % format.leading) * Nat.pow 2 (code / format.leading - 1)

/-- The denominator under which `units` is the value of a finite magnitude. -/
def unitsPerOne (format : BinaryFormat) : Nat :=
  Nat.pow 2 format.unitExponent

/--
The code of the magnitude nearest to a fraction, a half going to the even code; fractions at or
beyond the midpoint above the largest finite magnitude go to infinity.
-/
def nearest (format : BinaryFormat) (numerator denominator : Nat) : Nat :=
  let scaled := numerator * format.unitsPerOne
  let shift := (scaled / denominator).log2 - (format.precision - 1)
  min format.infinity
    (shift * format.leading + roundHalfEven scaled (denominator * Nat.pow 2 shift))

example : single.unitExponent = 149 := rfl
example : double.unitExponent = 1074 := rfl
example : single.infinity = 0x7F800000 := by decide

end BinaryFormat

end CilTrace
