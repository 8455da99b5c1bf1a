import CilTrace.Text.HexText
import CilTrace.Text.Lines
import CilTrace.Text.Utf8

/-!
Files that hold the bytes of a method body.

A file holds the bytes themselves, or a text with pairs of hexadecimal digits. A semicolon in a text
opens a comment that goes to the end of the line.
-/

namespace CilTrace

inductive BodyFileError where
  | encoding (error : Utf8Error)
  | pairs (error : HexTextError)
deriving DecidableEq, Repr

namespace BodyFileError

def message : BodyFileError → String
  | encoding error => error.message
  | pairs error => error.message

/-- The name of an error in traces. -/
def typeName : BodyFileError → String
  | encoding _ => "UnicodeDecodeError"
  | pairs _ => "ValueError"

end BodyFileError

namespace BodyFile

/-- The part of a line before a comment. -/
def withoutComment (line : List Char) : List Char :=
  line.takeWhile (· != ';')

/-- Lines joined with a blank between each two. -/
def joinLines (lines : List (List Char)) : List Char :=
  List.intercalate [' '] lines

/-- The bytes that a commented text spells. -/
def readText (chars : List Char) : Except HexTextError (List UInt8) :=
  HexText.read (joinLines ((Text.splitLines chars).map withoutComment))

/-- The body that a file holds. -/
def read (isText : Bool) (content : List UInt8) : Except BodyFileError (List UInt8) :=
  if isText then do
    let chars ← (Utf8.decode content).mapError .encoding
    (readText (Text.unifyLineEnds chars)).mapError .pairs
  else .ok content

end BodyFile

end CilTrace
