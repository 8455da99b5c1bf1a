import CilTrace.Text.Blank
import CilTrace.Text.Quoted

/-!
Wide texts: texts that may hold surrogates without a partner.

An escape in a JSON text may name half of a surrogate pair. Such a half is no character, yet keys and
values that hold one are told apart by it and show it when they are quoted. A wide text becomes an
ordinary one only when it has no such half; otherwise the first run of them is at fault.
-/

namespace CilTrace

/-- A member of a wide text. -/
inductive CodePoint where
  | char (char : Char)
  /-- A surrogate without its partner. -/
  | lone (code : Nat)
deriving DecidableEq, Repr

namespace CodePoint

/-- What is shown for a surrogate without its partner. -/
def replacement : Char := '\ufffd'

/-- The character that is shown, with `standIn` for surrogates. -/
def shownBy (standIn : Nat → Char) : CodePoint → Char
  | .char value => value
  | .lone code => standIn code

/-- The character that is shown. The replacement character is no digit, no blank and no mark, so a
reader that looks at shown characters refuses a lone surrogate like any other strange character. -/
def shown (point : CodePoint) : Char :=
  point.shownBy fun _ => replacement

def isLone : CodePoint → Bool
  | .char _ => false
  | .lone _ => true

end CodePoint

structure WideText where
  points : List CodePoint
deriving DecidableEq, Repr

namespace WideText

/-- A text as a wide one. -/
def ofString (text : String) : WideText :=
  ⟨text.toList.map .char⟩

instance : Coe String WideText := ⟨ofString⟩

def isEmpty (text : WideText) : Bool :=
  text.points.isEmpty

/-- The characters that are shown. -/
def chars (text : WideText) : List Char :=
  text.points.map CodePoint.shown

/-- The text that is shown. -/
def toString (text : WideText) : String :=
  String.ofList text.chars

/-- The text that is shown when surrogates have stand-ins. -/
def toStringBy (standIn : Nat → Char) (text : WideText) : String :=
  String.ofList (text.points.map (CodePoint.shownBy standIn))

/-- Whether a text holds a surrogate without its partner. -/
def hasLone (text : WideText) : Bool :=
  text.points.any CodePoint.isLone

/-- Takes wide blanks from both ends. -/
def trim (text : WideText) : WideText :=
  let blank (point : CodePoint) := Text.isBlank point.shown
  ⟨((text.points.dropWhile blank).reverse.dropWhile blank).reverse⟩

/-- A member as it stands between two of `quote`. -/
def quotePoint (quote : Char) : CodePoint → String
  | .char char => Text.quoteChar quote char
  | .lone code => Text.escapeCode code

/-- A text between quotes; lone surrogates are escaped. -/
def quoted (text : WideText) : String :=
  let quote := Text.quoteFor text.chars
  quote.toString ++ String.join (text.points.map (quotePoint quote)) ++ quote.toString

/-! ## Code units -/

def isHighSurrogate (unit : Nat) : Bool := 0xD800 ≤ unit && unit < 0xDC00

def isLowSurrogate (unit : Nat) : Bool := 0xDC00 ≤ unit && unit < 0xE000

/-- The character of a surrogate pair. -/
def pairChar (high low : Nat) : Char :=
  Char.ofNat (0x10000 + (high - 0xD800) * 0x400 + (low - 0xDC00))

/-- A code unit on its own. -/
def ofUnit (unit : Nat) : CodePoint :=
  if isHighSurrogate unit || isLowSurrogate unit then .lone unit else .char (Char.ofNat unit)

/-- The members that code units stand for; a high surrogate and a low one after it make one
character. -/
def joinUnits : List Nat → List CodePoint
  | [] => []
  | [unit] => [ofUnit unit]
  | high :: low :: rest =>
      if isHighSurrogate high && isLowSurrogate low then .char (pairChar high low) :: joinUnits rest
      else ofUnit high :: joinUnits (low :: rest)

def ofUnits (units : List Nat) : WideText :=
  ⟨joinUnits units⟩

example : (ofUnits [0xD83D, 0xDE00, 0xD83D]).points = [.char '😀', .lone 0xD83D] := by decide

/-! ## Stand-ins

A surrogate in a text passes through the layout of a listing as a stand-in. Two layouts of the same
text with different stand-ins differ exactly where the surrogates are. -/

/-- The stand-ins of a first layout. -/
def firstStandIn (code : Nat) : Char :=
  Char.ofNat (0xE000 + (code - 0xD800))

/-- The stand-ins of a second layout, all different from those of the first. -/
def secondStandIn (code : Nat) : Char :=
  Char.ofNat (0xE800 + (code - 0xD800))

/-- The member that shows as one character in a first layout and as another in a second. -/
def ofStandIns (first second : Char) : CodePoint :=
  if first = second then .char first else .lone (0xD800 + (first.toNat - 0xE000))

/-- The wide text of two layouts. -/
def ofLayouts (first second : String) : WideText :=
  ⟨List.zipWith ofStandIns first.toList second.toList⟩

end WideText

/-! ## Back to ordinary texts -/

/-- The first run of surrogates in a text that cannot be written, from its first place to its last.
-/
structure LoneSurrogates where
  code : Nat
  first : Nat
  last : Nat
deriving DecidableEq, Repr

namespace LoneSurrogates

def message (error : LoneSurrogates) : String :=
  "'utf-8' codec can't encode character" ++
    (if error.first = error.last then
      " '" ++ Text.escapeCode error.code ++ "' in position " ++ error.first.repr
    else
      "s in position " ++ error.first.repr ++ "-" ++ error.last.repr) ++
    ": surrogates not allowed"

end LoneSurrogates

namespace WideText

/-- The first run of lone surrogates among members of which `before` came earlier. -/
def loneFrom (before : Nat) : List CodePoint → Option LoneSurrogates
  | [] => none
  | .char _ :: rest => loneFrom (before + 1) rest
  | .lone code :: rest =>
      some ⟨code, before, before + (rest.takeWhile CodePoint.isLone).length⟩

/-- The ordinary text that a wide one is. -/
def toText (text : WideText) : Except LoneSurrogates String :=
  match loneFrom 0 text.points with
  | some error => .error error
  | none => .ok text.toString

theorem loneFrom_map_char (before : Nat) (chars : List Char) :
    loneFrom before (chars.map .char) = none := by
  induction chars generalizing before with
  | nil => rfl
  | cons char chars induction => exact induction (before + 1)

@[simp] theorem chars_ofString (text : String) : (ofString text).chars = text.toList := by
  simp [chars, ofString, CodePoint.shown, CodePoint.shownBy, Function.comp_def]

@[simp] theorem toString_ofString (text : String) : (ofString text).toString = text := by
  simp [toString]

/-- An ordinary text stays what it is. -/
@[simp] theorem toText_ofString (text : String) : (ofString text).toText = .ok text := by
  have whole : loneFrom 0 (ofString text).points = none := loneFrom_map_char 0 text.toList
  simp [toText, whole]

end WideText

end CilTrace
