import CilTrace.Value

/-!
Reading JSON texts.

The grammar is that of JSON with the three words `NaN`, `Infinity` and `-Infinity` as further
numbers. A failure names what was expected or wrong, and where: line and column from one, and the
number of characters before the place. Lists and objects may be nested only so deep.
-/

namespace CilTrace

/-- What is wrong with a JSON text. -/
inductive JsonProblem where
  | expectedValue
  | expectedName
  | expectedColon
  | expectedComma
  | extraData
  | unterminatedText
  | controlCharacter
  | badEscape
  | badCodeEscape
  | byteOrderMark
deriving DecidableEq, Repr

/-- A JSON value that holds others. -/
inductive JsonContainer where
  | list
  | object
deriving DecidableEq, Repr

/-- Why a JSON text was refused. -/
inductive JsonError where
  | malformed (problem : JsonProblem) (line column position : Nat)
  | numeral (error : NumeralError)
  /-- A container stands inside too many others. -/
  | tooDeep (container : JsonContainer)
deriving DecidableEq, Repr

namespace JsonProblem

def message : JsonProblem → String
  | expectedValue => "Expecting value"
  | expectedName => "Expecting property name enclosed in double quotes"
  | expectedColon => "Expecting ':' delimiter"
  | expectedComma => "Expecting ',' delimiter"
  | extraData => "Extra data"
  | unterminatedText => "Unterminated string starting at"
  | controlCharacter => "Invalid control character at"
  | badEscape => "Invalid \\escape"
  | badCodeEscape => "Invalid \\uXXXX escape"
  | byteOrderMark => "Unexpected UTF-8 BOM (decode using utf-8-sig)"

end JsonProblem

namespace JsonContainer

def name : JsonContainer → String
  | list => "array"
  | object => "object"

end JsonContainer

namespace JsonError

def message : JsonError → String
  | malformed problem line column position =>
      problem.message ++ ": line " ++ line.repr ++ " column " ++ column.repr ++
        " (char " ++ position.repr ++ ")"
  | numeral error => error.message
  | tooDeep container =>
      "maximum recursion depth exceeded while decoding a JSON " ++ container.name ++
        " from a unicode string"

end JsonError

namespace Json

/-- A failure inside a text: the problem, with the characters from its place on. -/
inductive Fault where
  | at (problem : JsonProblem) (rest : List Char)
  | numeral (error : NumeralError)
  | tooDeep (container : JsonContainer)

/-- What a reader takes from the front of a text, with the characters it leaves. -/
abbrev Reading (α : Type) := Except Fault (α × List Char)

def isBlank (char : Char) : Bool :=
  char == ' ' || char == '\t' || char == '\n' || char == '\r'

def skipBlanks (chars : List Char) : List Char :=
  chars.dropWhile isBlank

/-! ## Texts -/

/-- The number of four hexadecimal digits. -/
def codeUnit? (first second third fourth : Char) : Option Nat := do
  let first ← Hex.digitValue? first
  let second ← Hex.digitValue? second
  let third ← Hex.digitValue? third
  let fourth ← Hex.digitValue? fourth
  return ((first * 16 + second) * 16 + third) * 16 + fourth

/-- The character of a one-letter escape. -/
def simpleEscape? : Char → Option Char
  | '"' => some '"'
  | '\\' => some '\\'
  | '/' => some '/'
  | 'b' => some '\x08'
  | 'f' => some '\x0c'
  | 'n' => some '\n'
  | 'r' => some '\r'
  | 't' => some '\t'
  | _ => none

/-- Puts a code unit in front of those that are read after it. -/
def prepend (unit : Nat) (reading : Reading (List Nat)) : Reading (List Nat) :=
  reading.map fun (units, rest) => (unit :: units, rest)

/-- Reads the code units of a text after its opening quote; `opening` starts at that quote. A code
escape needs a character after it. -/
def readUnits (opening : List Char) : List Char → Reading (List Nat)
  | [] => .error (.at .unterminatedText opening)
  | '"' :: rest => .ok ([], rest)
  | ['\\'] => .error (.at .unterminatedText opening)
  | '\\' :: 'u' :: first :: second :: third :: fourth :: tail =>
      match tail.isEmpty, codeUnit? first second third fourth with
      | false, some unit => prepend unit (readUnits opening tail)
      | _, _ => .error (.at .badCodeEscape ('u' :: first :: second :: third :: fourth :: tail))
  | '\\' :: 'u' :: rest => .error (.at .badCodeEscape ('u' :: rest))
  | '\\' :: escape :: rest =>
      match simpleEscape? escape with
      | some char => prepend char.toNat (readUnits opening rest)
      | none => .error (.at .badEscape ('\\' :: escape :: rest))
  | char :: rest =>
      if char.toNat < 0x20 then .error (.at .controlCharacter (char :: rest))
      else prepend char.toNat (readUnits opening rest)

/-- Reads a text after its opening quote. -/
def readText (opening rest : List Char) : Reading WideText :=
  (readUnits opening rest).map fun (units, rest) => (.ofUnits units, rest)

/-! ## Numbers -/

def isDigit (char : Char) : Bool :=
  '0' ≤ char && char ≤ '9'

def digitsValue (digits : List Char) : Nat :=
  Numeral.digitsValue 10 digits

/-- The pattern of a decimal number in the eight-byte format. Exponents far outside the range of
the format are settled without computing the power of ten. -/
def floatPattern (negative : Bool) (decimal : Decimal) : Nat :=
  let top := decimal.exponent + Decimal.digitCount decimal.coefficient
  let code :=
    if decimal.coefficient = 0 ∨ top < -400 then 0
    else if 400 < top then BinaryFormat.double.infinity
    else decimal.read .double
  BinaryFormat.double.pattern negative code

/-- Takes a fraction from the front: a point and at least one digit. -/
def takeFraction (chars : List Char) : List Char × List Char :=
  match chars with
  | '.' :: rest =>
      let digits := rest.takeWhile isDigit
      if digits.isEmpty then ([], chars) else (digits, rest.dropWhile isDigit)
  | _ => ([], chars)

/-- Takes an exponent from the front: a mark, an optional sign and at least one digit. -/
def takeExponent (chars : List Char) : Option Int × List Char :=
  match chars with
  | mark :: rest =>
      if mark = 'e' ∨ mark = 'E' then
        let (negative, unsigned) := Numeral.takeSign rest
        let digits := unsigned.takeWhile isDigit
        if digits.isEmpty then (none, chars)
        else
          let value : Int := digitsValue digits
          (some (if negative then -value else value), unsigned.dropWhile isDigit)
      else (none, chars)
  | [] => (none, chars)

/-- Reads a number whose sign has been taken already; `start` begins at the sign. -/
def readUnsigned (start : List Char) (negative : Bool) (chars : List Char) : Reading Value :=
  let whole : List Char :=
    match chars with
    | '0' :: _ => ['0']
    | chars => chars.takeWhile isDigit
  if whole.isEmpty then .error (.at .expectedValue start)
  else
    let (fraction, rest) := takeFraction (chars.drop whole.length)
    let (exponent, rest) := takeExponent rest
    if fraction.isEmpty && exponent.isNone then
      if Numeral.maxDigits < whole.length then .error (.numeral (.tooManyDigits whole.length))
      else
        let value : Int := digitsValue whole
        .ok (.int (if negative then -value else value), rest)
    else
      let decimal : Decimal :=
        ⟨digitsValue (whole ++ fraction), exponent.getD 0 - fraction.length⟩
      .ok (.float (floatPattern negative decimal), rest)

/-! ## Values -/

/-- The words that stand for values. -/
def words : List (List Char × Value) :=
  [("null".toList, .null), ("true".toList, .bool true), ("false".toList, .bool false),
    ("NaN".toList, .float (BinaryFormat.double.infinity + 1)),
    ("Infinity".toList, .float BinaryFormat.double.infinity),
    ("-Infinity".toList, .float (BinaryFormat.double.pattern true BinaryFormat.double.infinity))]

/-- Reads a word or a number. -/
def readAtom (chars : List Char) : Reading Value :=
  match words.find? fun word => word.1.isPrefixOf chars with
  | some (word, value) => .ok (value, chars.drop word.length)
  | none =>
      match chars with
      | '-' :: rest => readUnsigned chars true rest
      | _ => readUnsigned chars false chars

/-- How deep containers may be nested. -/
def maxDepth : Nat := 988

mutual

/-- Reads one value inside which containers may be nested `depth` deep. A text of `n` characters is
nested and listed in fewer than `2 n` steps. -/
def readValue : Nat → Nat → List Char → Reading Value
  | 0, _, chars => .error (.at .expectedValue chars)
  | steps + 1, depth, chars =>
      match chars, depth with
      | '"' :: rest, _ => (readText chars rest).map fun (text, rest) => (.text text, rest)
      | '[' :: _, 0 => .error (.tooDeep .list)
      | '[' :: rest, depth + 1 =>
          match skipBlanks rest with
          | ']' :: rest => .ok (.list [], rest)
          | rest => (readItems steps depth rest).map fun (items, rest) => (.list items, rest)
      | '\x7b' :: _, 0 => .error (.tooDeep .object)
      | '\x7b' :: rest, depth + 1 =>
          match skipBlanks rest with
          | '\x7d' :: rest => .ok (.object [], rest)
          | rest =>
              (readFields steps depth [] rest).map fun (fields, rest) => (.object fields, rest)
      | chars, _ => readAtom chars

/-- Reads the items of a list up to its closing bracket. -/
def readItems : Nat → Nat → List Char → Reading (List Value)
  | 0, _, chars => .error (.at .expectedValue chars)
  | steps + 1, depth, chars =>
      match readValue steps depth chars with
      | .error fault => .error fault
      | .ok (item, rest) =>
          match skipBlanks rest with
          | ']' :: rest => .ok ([item], rest)
          | ',' :: rest =>
              (readItems steps depth (skipBlanks rest)).map fun (items, rest) =>
                (item :: items, rest)
          | rest => .error (.at .expectedComma rest)

/-- Reads the fields of an object up to its closing brace, after the fields `before`. -/
def readFields : Nat → Nat → List (WideText × Value) → List Char →
    Reading (List (WideText × Value))
  | 0, _, _, chars => .error (.at .expectedValue chars)
  | steps + 1, depth, before, chars =>
      match chars with
      | '"' :: afterQuote =>
          match readText chars afterQuote with
          | .error fault => .error fault
          | .ok (name, rest) =>
              match skipBlanks rest with
              | ':' :: rest =>
                  match readValue steps depth (skipBlanks rest) with
                  | .error fault => .error fault
                  | .ok (value, rest) =>
                      let fields := Value.putField before name value
                      match skipBlanks rest with
                      | '\x7d' :: rest => .ok (fields, rest)
                      | ',' :: rest => readFields steps depth fields (skipBlanks rest)
                      | rest => .error (.at .expectedComma rest)
              | rest => .error (.at .expectedColon rest)
      | chars => .error (.at .expectedName chars)

end

/-- Locates a fault in the whole text by what is left of the text there. -/
def locate (chars : List Char) : Fault → JsonError
  | .numeral error => .numeral error
  | .tooDeep container => .tooDeep container
  | .at problem rest =>
      let before := chars.take (chars.length - rest.length)
      let lineBreaks := before.filter (· == '\n')
      let column := (before.reverse.takeWhile (· != '\n')).length + 1
      .malformed problem (lineBreaks.length + 1) column before.length

/-- Reads a whole text as one value with blanks around it. -/
def readAll (chars : List Char) : Reading Value :=
  if chars.head? = some '\ufeff' then .error (.at .byteOrderMark chars)
  else match readValue (2 * chars.length + 2) maxDepth (skipBlanks chars) with
    | .error fault => .error fault
    | .ok (value, rest) =>
        match skipBlanks rest with
        | [] => .ok (value, [])
        | rest => .error (.at .extraData rest)

/-- The value of a JSON text. -/
def read (chars : List Char) : Except JsonError Value :=
  match readAll chars with
  | .error fault => .error (locate chars fault)
  | .ok (value, _) => .ok value

end Json

end CilTrace
