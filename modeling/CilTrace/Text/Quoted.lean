import CilTrace.Text.Hex
import CilTrace.Text.Printable

/-!
Quoted texts and quoted bytes.

A text is quoted with single quotes, or with double quotes when it holds a single quote and no
double one. The quote in use, the backslash and unprintable characters are escaped, each by the
shortest escape that can hold its code point.
-/

namespace CilTrace.Text

/-- The quote for a text: single unless the text holds a single quote and no double one. -/
def quoteFor (chars : List Char) : Char :=
  if chars.contains '\'' && !chars.contains '"' then '"' else '\''

/-- The escape of an unprintable code point: two, four or eight lower-case digits. -/
def escapeCode (code : Nat) : String :=
  if code < 0x100 then "\\x" ++ Hex.lower 2 code
  else if code < 0x10000 then "\\u" ++ Hex.lower 4 code
  else "\\U" ++ Hex.lower 8 code

/-- One character as it stands between two of `quote`. -/
def quoteChar (quote char : Char) : String :=
  if char = quote ∨ char = '\\' then String.ofList ['\\', char]
  else if char = '\n' then "\\n"
  else if char = '\r' then "\\r"
  else if char = '\t' then "\\t"
  else if isPrintable char then char.toString
  else escapeCode char.toNat

/-- A text between quotes. -/
def quoted (text : String) : String :=
  let quote := quoteFor text.toList
  quote.toString ++ String.join (text.toList.map (quoteChar quote)) ++ quote.toString

/-- One byte as it stands between two of `quote`; only printable ASCII is shown as it is. -/
def quoteByte (quote : Char) (byte : UInt8) : String :=
  if byte < 0x7F then quoteChar quote (Char.ofNat byte.toNat) else escapeCode byte.toNat

/-- Bytes between quotes, marked by a `b`. -/
def quotedBytes (bytes : List UInt8) : String :=
  let quote := quoteFor (bytes.map fun byte => Char.ofNat byte.toNat)
  "b" ++ quote.toString ++ String.join (bytes.map (quoteByte quote)) ++ quote.toString

end CilTrace.Text
