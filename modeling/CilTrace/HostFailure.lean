import CilTrace.Text.Numeral

/-!
Failures of a host.

A host may fail in any way when something is asked of it. What is seen of a failure is its kind and
its text, and asking for the text may fail in turn.
-/

namespace CilTrace

inductive HostFailure where
  | told (kind text : String)
  /-- A failure without a text: asking for it fails with another one. -/
  | untold (kind : String) (inner : HostFailure)
  /-- A failure without a text: asking for it fails with the same one again. -/
  | circular (kind : String)
deriving DecidableEq, Repr

namespace HostFailure

/-- The name of the failure in messages. -/
def kind : HostFailure → String
  | told kind _ => kind
  | untold kind _ => kind
  | circular kind => kind

/-- The text of a failure, or what asking for it fails with. -/
def text : HostFailure → Except HostFailure String
  | told _ text => .ok text
  | untold _ inner => .error inner
  | circular kind => .error (.circular kind)

/-- A value lacks what is looked up in it. -/
def noAttribute (kind missing : String) : HostFailure :=
  .told "AttributeError" ("'" ++ kind ++ "' object has no attribute '" ++ missing ++ "'")

/-- A value has no elements to go through. -/
def notIterable (kind : String) : HostFailure :=
  .told "TypeError" ("'" ++ kind ++ "' object is not iterable")

def ofNumeralError (error : NumeralError) : HostFailure :=
  .told "ValueError" error.message

end HostFailure

end CilTrace
