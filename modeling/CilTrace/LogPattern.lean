import CilTrace.Text.Digit
import CilTrace.Text.Numeral
import CilTrace.Text.Quoted

/-!
Patterns of log lines.

A pattern is a text with fields. A field is a percent sign, a name in round brackets, flags, a width,
a precision and a letter that says how the value of the name is shown; two percent signs in a row
stand for one. A pattern is refused at once if it has no field in it, and otherwise at the first
field that cannot be filled in.
-/

namespace CilTrace

/-- Why a pattern cannot be filled in. -/
inductive PatternError where
  /-- No field is found in the pattern. -/
  | noField (pattern : String)
  /-- The bracket after a percent sign is not closed. -/
  | openName
  | unknownName (name : String)
  | widthTooBig
  | precisionTooBig
  /-- The pattern ends inside a field. -/
  | openField
  | unknownLetter (letter : Char) (index : Nat)
  /-- A field has no name of its own, and the value of the last name is used up. -/
  | nothingLeft
  /-- The width or precision is to be taken from a value that is no number. -/
  | starNeedsInteger
  | needsNumber (letter : Char) (kind : String)
  | needsInteger (letter : Char) (kind : String)
  | needsReal (kind : String)
  | needsCharacter
deriving DecidableEq, Repr

namespace PatternError

/-- A letter as the complaint about it shows it. -/
def letterText (letter : Char) : String :=
  (if 31 ≤ letter.toNat ∧ letter.toNat ≤ 126 then letter else '?').toString

def message : PatternError → String
  | noField pattern => "Invalid format '" ++ pattern ++ "' for '%' style"
  | openName => "incomplete format key"
  | unknownName name => "Formatting field not found in record: " ++ Text.quoted name
  | widthTooBig => "width too big"
  | precisionTooBig => "precision too big"
  | openField => "incomplete format"
  | unknownLetter letter index =>
      "unsupported format character '" ++ letterText letter ++ "' (0x" ++ Hex.lower 1 letter.toNat ++
        ") at index " ++ index.repr
  | nothingLeft => "not enough arguments for format string"
  | starNeedsInteger => "* wants int"
  | needsNumber letter kind =>
      "%" ++ letter.toString ++ " format: a real number is required, not " ++ kind
  | needsInteger letter kind =>
      "%" ++ letter.toString ++ " format: an integer is required, not " ++ kind
  | needsReal kind => "must be real number, not " ++ kind
  | needsCharacter => "%c requires int or char"

/-- The name of an error in traces. -/
def typeName : PatternError → String
  | noField _ => "ValueError"
  | openName => "ValueError"
  | unknownName _ => "ValueError"
  | widthTooBig => "ValueError"
  | precisionTooBig => "ValueError"
  | openField => "ValueError"
  | unknownLetter _ _ => "ValueError"
  | _ => "TypeError"

end PatternError

namespace LogPattern

/-! ## Finding fields -/

/-- A character of a name, for the purpose of finding fields. -/
def isNameChar (char : Char) : Bool :=
  char.isAlphanum || char == '_' || 0x80 ≤ char.toNat

def isFlag (char : Char) : Bool :=
  ['#', '0', '+', ' ', '-'].contains char

/-- The letters of fields, in lower case. -/
def letters : List Char :=
  ['d', 'i', 'o', 'u', 'x', 'e', 'f', 'g', 'c', 'r', 's', 'a', '%']

/-- Skips a star or digits of any script. -/
def skipSize : List Char → List Char
  | '*' :: rest => rest
  | chars => chars.dropWhile fun char => (Text.digitValue? char).isSome

/-- Skips a precision, if a star or a digit stands after its point. -/
def skipPrecision (chars : List Char) : List Char :=
  match chars with
  | '.' :: rest => if (skipSize rest).length < rest.length then skipSize rest else chars
  | _ => chars

/-- Whether a pattern begins with a field. -/
def beginsWithField : List Char → Bool
  | '%' :: '(' :: rest =>
      let name := rest.takeWhile isNameChar
      match rest.drop name.length with
      | ')' :: rest =>
          match skipPrecision (skipSize (rest.dropWhile isFlag)) with
          | letter :: _ => !name.isEmpty && letters.contains letter.toLower
          | [] => false
      | _ => false
  | _ => false

/-- Whether there is a field in a pattern. -/
def hasField : List Char → Bool
  | [] => false
  | char :: rest => beginsWithField (char :: rest) || hasField rest

/-! ## Filling in -/

/-- What the next field without a name shows. -/
inductive Available where
  /-- The whole record, as long as no name has come up. -/
  | record
  /-- The value of the last name. -/
  | value (text : String)
  | nothing
deriving DecidableEq, Repr

/-- The rest of a pattern, with the value at hand. -/
structure State where
  available : Available
  rest : List Char
deriving DecidableEq, Repr

/-- A step through a pattern. -/
abbrev Step := ExceptT PatternError (StateM State)

/-- The number of characters of a bracketed name; `depth` brackets are still open. -/
def nameLength? : Nat → List Char → Option Nat
  | 0, _ => some 0
  | _, [] => none
  | depth + 1, char :: rest =>
      let depth := if char = ')' then depth else if char = '(' then depth + 2 else depth + 1
      (nameLength? depth rest).map (· + 1)

/-- Takes a name in brackets, and with it the value of the name. -/
def takeName (find? : String → Option String) : Step Unit := do
  match (← get).rest with
  | '(' :: rest =>
      match nameLength? 1 rest with
      | none => throw .openName
      | some length =>
          let name := String.ofList (rest.take (length - 1))
          match find? name with
          | none => throw (.unknownName name)
          | some text => set (State.mk (.value text) (rest.drop length))
  | _ => return ()

/-- Takes characters for as long as they satisfy a test. -/
def takeWhile (test : Char → Bool) : Step (List Char) := do
  let state ← get
  set { state with rest := state.rest.dropWhile test }
  return state.rest.takeWhile test

/-- Takes one character if it satisfies a test. -/
def takeIf (test : Char → Bool) : Step Bool := do
  let state ← get
  match state.rest with
  | char :: rest =>
      if test char then
        set { state with rest }
        return true
      else return false
  | [] => return false

/-- Uses up the value at hand: its text, or none for the whole record. -/
def takeValue : Step (Option String) := do
  let state ← get
  match state.available with
  | .nothing => throw .nothingLeft
  | .record => set { state with available := .nothing }; return none
  | .value text => set { state with available := .nothing }; return some text

/-- Takes a width or a precision of at most `limit`; no digits are none. No value of a record is a
number, so a star never finds one. -/
def takeSize (limit : Nat) (tooBig : PatternError) : Step (Option Nat) := do
  if ← takeIf (· == '*') then
    let _ ← takeValue
    throw .starNeedsInteger
  let digits ← takeWhile Char.isDigit
  let size := Numeral.digitsValue 10 digits
  if limit < size then throw tooBig
  return if digits.isEmpty then none else some size

def maxWidth : Nat := 0x7FFFFFFFFFFFFFFF

def maxPrecision : Nat := 0x7FFFFFFF

/-- A quoted text in ASCII. -/
def asciiQuoted (text : String) : String :=
  String.join ((Text.quoted text).toList.map fun char =>
    if char.toNat < 0x80 then char.toString else Text.escapeCode char.toNat)

/-- How a letter shows a value. The precision is the most characters that are shown; it does not
count for a single character. -/
def show? (letter : Char) (index : Nat) (value : Option String) (precision : Option Nat) :
    Except PatternError (List Char) :=
  let kind := if value.isSome then "str" else "dict"
  let text := value.getD ""
  let cut (text : String) : List Char := text.toList.take (precision.getD text.length)
  if letter = 's' then .ok (cut text)
  else if letter = 'r' then .ok (cut (Text.quoted text))
  else if letter = 'a' then .ok (cut (asciiQuoted text))
  else if letter = 'c' then
    if text.length = 1 then .ok text.toList else .error .needsCharacter
  else if ['d', 'i', 'u'].contains letter then .error (.needsNumber letter kind)
  else if ['o', 'x', 'X'].contains letter then .error (.needsInteger letter kind)
  else if ['e', 'E', 'f', 'F', 'g', 'G'].contains letter then .error (.needsReal kind)
  else .error (.unknownLetter letter index)

/-- Fills with blanks up to a width. -/
def align (flags : List Char) (width : Nat) (chars : List Char) : List Char :=
  let blanks := List.replicate (width - chars.length) ' '
  if flags.contains '-' then chars ++ blanks else blanks ++ chars

/-- Fills in the field after a percent sign, in a pattern of `size` characters. -/
def field (find? : String → Option String) (size : Nat) : Step (List Char) := do
  if ← takeIf (· == '%') then
    return ['%']
  takeName find?
  let flags ← takeWhile isFlag
  let width ← takeSize maxWidth .widthTooBig
  let precision ←
    if ← takeIf (· == '.') then
      let digits ← takeSize maxPrecision .precisionTooBig
      pure (some (digits.getD 0))
    else pure none
  let _ ← takeIf ['h', 'l', 'L'].contains
  match (← get).rest with
  | [] => throw .openField
  | letter :: rest =>
      let value ← takeValue
      modify fun state => { state with rest }
      let shown ← show? letter (size - rest.length - 1) value precision
      return align flags (width.getD 0) shown

/-- Fills in what is left of a pattern of `size` characters; each step takes at least one. -/
def fillFrom (find? : String → Option String) (size : Nat) :
    Nat → State → Except PatternError (List Char)
  | 0, _ => .ok []
  | steps + 1, state =>
      match state.rest with
      | [] => .ok []
      | '%' :: rest =>
          match field find? size { state with rest } with
          | (.error error, _) => .error error
          | (.ok shown, state) => (fillFrom find? size steps state).map (shown ++ ·)
      | char :: rest => (fillFrom find? size steps { state with rest }).map (char :: ·)

/-- Fills in a pattern, given the values of names. -/
def fill (find? : String → Option String) (pattern : String) : Except PatternError String :=
  let chars := pattern.toList
  if hasField chars then
    (fillFrom find? chars.length chars.length ⟨.record, chars⟩).map String.ofList
  else .error (.noField pattern)

end LogPattern

end CilTrace
