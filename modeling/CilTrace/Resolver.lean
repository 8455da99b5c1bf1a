import CilTrace.Opcode.Basic
import CilTrace.Value

/-!
Naming metadata tokens.

A resolver is a host's answer to "what does this token of this kind name?". It may answer with any
value of the host, or fail. What is asked of an answer may fail as well: whether it is void, what its
text is, and which bytes it stands for. A failure that has a text counts as no name; one without a
text passes through.
-/

namespace CilTrace

/-- A value of a host by what is asked of it. -/
structure Answer where
  /-- Whether the value counts as no answer. -/
  isVoid : Except HostFailure Bool
  text : Except HostFailure String
  /-- The bytes of a signature. -/
  blob : Except HostFailure (List UInt8)

/-- A value as an answer. -/
def Value.toAnswer (value : Value) : Answer where
  isVoid := .ok value.isVoid
  text := value.display.mapError HostFailure.ofNumeralError
  blob := value.blob

structure Resolver where
  answer : ReferenceKind → Nat → Except HostFailure Answer

/-- What came of asking for the name of a token. -/
inductive Resolution where
  /-- There is no resolver to ask. -/
  | unasked
  /-- The answer was void. -/
  | nothing
  | failed (reason : String)
  | named (text : String)
deriving DecidableEq, Repr

namespace Resolution

/-- A signature blob in brackets, as pairs of hexadecimal digits. -/
def signatureText (blob : List UInt8) : String :=
  "[" ++ Hex.pairs blob ++ "]"

/-- How an answer about a token of some kind is written. -/
def ofAnswer (kind : ReferenceKind) (answer : Answer) : Except HostFailure Resolution := do
  if ← answer.isVoid then return nothing
  match kind with
  | .signature => return named (signatureText (← answer.blob))
  | _ => return named (← answer.text)

/-- What a resolver makes of a token. -/
def attempt (resolver : Resolver) (kind : ReferenceKind) (token : Nat) :
    Except HostFailure Resolution := do
  ofAnswer kind (← resolver.answer kind token)

/-- Asks a resolver for the name of a token. A failure is noted, for which it needs a text. -/
def ask (resolver : Option Resolver) (kind : ReferenceKind) (token : Nat) :
    Except HostFailure Resolution :=
  match resolver with
  | none => .ok unasked
  | some resolver =>
      match attempt resolver kind token with
      | .ok resolution => .ok resolution
      | .error failure => failure.text.map failed

/-- What a listing shows: the name, or else the kind in brackets. -/
def text (kind : ReferenceKind) : Resolution → String
  | named text => text
  | _ => "[" ++ kind.name ++ "]"

/-- What a log says about a token that has no name. -/
def note? (kind : ReferenceKind) (token : Nat) : Resolution → Option String
  | unasked | named _ => none
  | nothing =>
      some ("Resolver returned nothing for " ++ kind.name ++ " token 0x" ++ Hex.padded 8 token)
  | failed reason =>
      some ("Unresolved " ++ kind.name ++ " token 0x" ++ Hex.padded 8 token ++ ": " ++ reason)

end Resolution

end CilTrace
