/-!
Lines of a text.

A text that was read from a file has its line ends unified to line feeds first. Cutting a text
into lines knows more line breaks than that: vertical tab, form feed, the separators U+001C to
U+001E, next line, and the two Unicode separators.
-/

namespace CilTrace.Text

/-- Turns a carriage return, alone or before a line feed, into one line feed. -/
def unifyLineEnds : List Char → List Char
  | [] => []
  | '\r' :: '\n' :: rest => '\n' :: unifyLineEnds rest
  | char :: rest => (if char = '\r' then '\n' else char) :: unifyLineEnds rest

/-- A character that ends a line. -/
def isLineBreak (char : Char) : Bool :=
  let code := char.toNat
  (0x0A ≤ code && code ≤ 0x0D) || (0x1C ≤ code && code ≤ 0x1E) || code == 0x85 ||
    code == 0x2028 || code == 0x2029

/-- The lines of a text without their breaks; a break at the very end opens no further line. -/
def splitLines : List Char → List (List Char)
  | [] => []
  | '\r' :: '\n' :: rest => [] :: splitLines rest
  | char :: rest =>
      if isLineBreak char then [] :: splitLines rest
      else match splitLines rest with
        | [] => [[char]]
        | line :: lines => (char :: line) :: lines

example : splitLines "a\r\nb\x0b".toList = ["a".toList, "b".toList] := by decide
example : splitLines "\n".toList = [[]] := by decide

end CilTrace.Text
