/-!
Blank characters and trimming.

Two classes are in use. The wide class holds every character that counts as white space in
Unicode, with the four separators U+001C to U+001F; names and keys are trimmed by it. The narrow
class holds the six ASCII blanks that may stand between pairs of hexadecimal digits.
-/

namespace CilTrace.Text

/-- A blank of the wide class. -/
def isBlank (char : Char) : Bool :=
  let code := char.toNat
  (0x09 ≤ code && code ≤ 0x0D) || (0x1C ≤ code && code ≤ 0x20) || code == 0x85 || code == 0xA0 ||
    code == 0x1680 || (0x2000 ≤ code && code ≤ 0x200A) || code == 0x2028 || code == 0x2029 ||
    code == 0x202F || code == 0x205F || code == 0x3000

/-- A blank of the narrow class: tab, line feed, vertical tab, form feed, carriage return, space. -/
def isAsciiBlank (char : Char) : Bool :=
  let code := char.toNat
  (0x09 ≤ code && code ≤ 0x0D) || code == 0x20

/-- The characters left after the longest run at the end that satisfies `drop` is taken away. -/
def dropTrailing (drop : Char → Bool) (chars : List Char) : List Char :=
  (chars.reverse.dropWhile drop).reverse

/-- Takes wide blanks from both ends. -/
def trim (text : String) : String :=
  String.ofList (dropTrailing isBlank (text.toList.dropWhile isBlank))

/-- Takes wide blanks from the end. -/
def trimEnd (text : String) : String :=
  String.ofList (dropTrailing isBlank text.toList)

/-- Takes every copy of one character from the end. -/
def trimEndOf (char : Char) (text : String) : String :=
  String.ofList (dropTrailing (· == char) text.toList)

end CilTrace.Text
