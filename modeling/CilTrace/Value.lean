import CilTrace.HostFailure
import CilTrace.Number.Decimal

/-!
Values of a host and of symbol files.

A symbol file holds values of several kinds, and a host may answer a question with a value of any
kind. The listing needs the text of such a value, whether it counts as no answer, and the bytes it
stands for where a blob is asked for. A value that holds a number too long to be written has no text.
-/

namespace CilTrace

inductive Value where
  | null
  | bool (flag : Bool)
  | int (number : Int)
  /-- A floating-point number by its eight-byte pattern. -/
  | float (pattern : Nat)
  | text (content : WideText)
  | bytes (content : List UInt8)
  | list (items : List Value)
  /-- Named values in the order of first appearance. -/
  | object (fields : List (WideText × Value))
deriving Repr

namespace Value

/-- The name of the kind of a value, as messages give it. -/
def kindName : Value → String
  | null => "NoneType"
  | bool _ => "bool"
  | int _ => "int"
  | float _ => "float"
  | text _ => "str"
  | bytes _ => "bytes"
  | list _ => "list"
  | object _ => "dict"

/-- Whether a value counts as no answer: nothing, false, zero, or an empty text or collection. -/
def isVoid : Value → Bool
  | null => true
  | bool flag => !flag
  | int number => number == 0
  | float pattern => BinaryFormat.double.code pattern == 0
  | text content => content.isEmpty
  | bytes content => content.isEmpty
  | list items => items.isEmpty
  | object fields => fields.isEmpty

mutual

/-- The text of a value inside another: texts are quoted. -/
def inner : Value → Except NumeralError String
  | null => .ok "None"
  | bool flag => .ok (if flag then "True" else "False")
  | int number => Numeral.write number
  | float pattern => .ok (doubleText pattern)
  | text content => .ok content.quoted
  | bytes content => .ok (Text.quotedBytes content)
  | list items => do return "[" ++ String.intercalate ", " (← innerItems items) ++ "]"
  | object fields => do return "\x7b" ++ String.intercalate ", " (← innerFields fields) ++ "\x7d"

def innerItems : List Value → Except NumeralError (List String)
  | [] => .ok []
  | item :: items => do return (← item.inner) :: (← innerItems items)

def innerFields : List (WideText × Value) → Except NumeralError (List String)
  | [] => .ok []
  | (name, value) :: fields => do
      return (name.quoted ++ ": " ++ (← value.inner)) :: (← innerFields fields)

end

/-- The text of a value on its own: a text is itself. -/
def display : Value → Except NumeralError String
  | text content => .ok content.toString
  | value => value.inner

/-- The text of a value on its own, with the lone surrogates of a text. -/
def rendering : Value → Except NumeralError WideText
  | text content => .ok content
  | value => value.inner.map WideText.ofString

/-! ## Blobs -/

/-- The byte that an element stands for. -/
def byte : Value → Except HostFailure UInt8
  | int number =>
      if 0 ≤ number ∧ number < 256 then .ok (UInt8.ofNat number.toNat)
      else .error (.told "ValueError" "bytes must be in range(0, 256)")
  | bool flag => .ok (if flag then 1 else 0)
  | value =>
      .error (.told "TypeError"
        ("'" ++ value.kindName ++ "' object cannot be interpreted as an integer"))

/-- The longest blob that a number may ask for. -/
def maxBlobSize : Int := 0x40000000

/-- The blob of as many zeros as a number says. -/
def zeros (count : Int) : Except HostFailure (List UInt8) :=
  if count < -0x8000000000000000 ∨ 0x8000000000000000 ≤ count then
    .error (.told "OverflowError" "cannot fit 'int' into an index-sized integer")
  else if count < 0 then .error (.told "ValueError" "negative count")
  else if maxBlobSize < count then .error (.told "MemoryError" "")
  else .ok (List.replicate count.toNat 0)

/-- The blob that a value stands for: bytes and elements that are bytes as they are, a number by as
many zeros. -/
def blob : Value → Except HostFailure (List UInt8)
  | bytes content => .ok content
  | list items => items.mapM byte
  | object fields => fields.mapM fun field => (text field.1).byte
  | int number => zeros number
  | bool flag => zeros flag.toNat
  | text _ => .error (.told "TypeError" "string argument without an encoding")
  | value => .error (.told "TypeError" ("cannot convert '" ++ value.kindName ++ "' object to bytes"))

/-! ## Fields -/

/-- The value of a named field of an object. -/
def field? (name : String) : Value → Option Value
  | object fields => fields.lookup (WideText.ofString name)
  | _ => none

/-- Gives a name a value: in place if the name is there, else at the end. -/
def putField (fields : List (WideText × Value)) (name : WideText) (value : Value) :
    List (WideText × Value) :=
  match fields with
  | [] => [(name, value)]
  | (other, old) :: rest =>
      if other = name then (name, value) :: rest else (other, old) :: putField rest name value

end Value

end CilTrace
