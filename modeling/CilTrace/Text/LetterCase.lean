/-!
Letter case for comparing names with ASCII names.
-/

namespace CilTrace.Text

/--
The lower case of a character where that is one ASCII letter. Besides the capital Latin letters
only the Kelvin sign U+212A has such a lower case, so two texts of which one is lower-case ASCII
agree without regard to case exactly when the lowered texts are equal.
-/
def lowerChar (char : Char) : Char :=
  if char.toNat = 0x212A then 'k' else char.toLower

/-- Lowers every character of a text. -/
def lower (text : String) : String :=
  String.ofList (text.toList.map lowerChar)

end CilTrace.Text
