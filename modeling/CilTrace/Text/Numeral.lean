import CilTrace.Text.Blank
import CilTrace.Text.Digit
import CilTrace.Text.Hex
import CilTrace.Text.Wide

/-!
Integers as texts.

Decimal numbers are written with a sign only when negative. A text is read as a number in base ten
or sixteen: blanks around it, one sign, digits of any script, and single underscores between digits
are allowed; in base sixteen also a `0x` in front, whose zero may be of any script, with one
underscore after it. Decimal texts of more than 4300 digits are refused.
-/

namespace CilTrace

/-- Why a text is not read as an integer, or an integer not written as a text. -/
inductive NumeralError where
  /-- The text does not follow the rules for the base. -/
  | malformed (base : Nat) (text : WideText)
  /-- The text is a decimal number of too many digits. -/
  | tooManyDigits (count : Nat)
  /-- The number has too many decimal digits to be written. -/
  | tooLongToWrite
deriving DecidableEq, Repr

namespace Numeral

/-- The most decimal digits that are read or written. -/
def maxDigits : Nat := 4300

end Numeral

namespace NumeralError

def message : NumeralError → String
  | malformed base text =>
      "invalid literal for int() with base " ++ base.repr ++ ": " ++
        String.ofList (text.quoted.toList.take 200)
  | tooManyDigits count =>
      "Exceeds the limit (" ++ Numeral.maxDigits.repr ++
        " digits) for integer string conversion: value has " ++ count.repr ++
        " digits; use sys.set_int_max_str_digits() to increase the limit"
  | tooLongToWrite =>
      "Exceeds the limit (" ++ Numeral.maxDigits.repr ++
        " digits) for integer string conversion; use sys.set_int_max_str_digits() to increase the limit"

end NumeralError

namespace Numeral

/-- A number in decimal digits, with a minus sign when it is negative. -/
def decimal : Int → String
  | .ofNat number => number.repr
  | .negSucc below => "-" ++ (below + 1).repr

/-- Whether the decimal text of a number stays within the limit. -/
def isWritable (number : Int) : Bool :=
  number.natAbs < Nat.pow 10 maxDigits

/-- The decimal text of a number within the limit. -/
def write (number : Int) : Except NumeralError String :=
  if isWritable number then .ok (decimal number) else .error .tooLongToWrite

/-- A blank that may stand around a number: an ASCII blank, or a wide blank outside ASCII. -/
def isBlank (char : Char) : Bool :=
  Text.isAsciiBlank char || (0x80 ≤ char.toNat && Text.isBlank char)

/-- The value of a digit of `base`: a decimal digit of any script, or a Latin letter. -/
def digit? (base : Nat) (char : Char) : Option Nat :=
  ((Text.digitValue? char).or (Hex.digitValue? char)).filter (· < base)

/-- A character of the digit part: a digit of the base or an underscore. -/
def isDigitPart (base : Nat) (char : Char) : Bool :=
  char == '_' || (digit? base char).isSome

/-- Takes a sign from the front; `true` means that the number is negative. -/
def takeSign : List Char → Bool × List Char
  | '+' :: rest => (false, rest)
  | '-' :: rest => (true, rest)
  | chars => (false, chars)

/-- Takes a `0x` with at most one underscore after it from the front of a base-sixteen text. -/
def takeRadix (base : Nat) (chars : List Char) : List Char :=
  match base, chars with
  | 16, zero :: mark :: rest =>
      if Text.digitValue? zero = some 0 ∧ (mark = 'x' ∨ mark = 'X') then
        match rest with
        | '_' :: rest => rest
        | rest => rest
      else chars
  | _, chars => chars

/-- Whether underscores stand only between digits. -/
def underscoresSeparate : List Char → Bool
  | [] => true
  | ['_'] => false
  | '_' :: '_' :: _ => false
  | _ :: rest => underscoresSeparate rest

/-- The number that the digit part stands for. -/
def digitsValue (base : Nat) (part : List Char) : Nat :=
  (part.filterMap (digit? base)).foldl (fun value digit => base * value + digit) 0

/-- Reads an integer in base ten or sixteen. -/
def read (base : Nat) (text : WideText) : Except NumeralError Int :=
  let malformed := .error (.malformed base text)
  let (negative, unsigned) := takeSign (text.chars.dropWhile isBlank)
  let body := takeRadix base unsigned
  let part := body.takeWhile (isDigitPart base)
  let rest := body.dropWhile (isDigitPart base)
  let count := (part.filterMap (digit? base)).length
  if part.head? = some '_' || !underscoresSeparate part then malformed
  else if base = 10 && maxDigits < count then .error (.tooManyDigits count)
  else if part.isEmpty || !rest.all isBlank then malformed
  else
    let value : Int := digitsValue base part
    .ok (if negative then -value else value)

/--
Reads a number the way offsets and tokens are spelled: after trimming, `0x` or `$` in front means
hexadecimal and anything else decimal.
-/
def readSpelled (text : WideText) : Except NumeralError Int :=
  let trimmed := text.trim
  match trimmed.chars with
  | '0' :: mark :: _ => if mark = 'x' ∨ mark = 'X' then read 16 trimmed else read 10 trimmed
  | '$' :: _ => read 16 ⟨trimmed.points.drop 1⟩
  | _ => read 10 trimmed

end Numeral

end CilTrace
