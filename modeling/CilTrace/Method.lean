import CilTrace.Resolver
import CilTrace.Text.Blank

/-!
Method bodies with what is known about the method around them.
-/

namespace CilTrace

/-- A declared local variable. -/
structure LocalVariable where
  index : Int
  typeName : Option String := none
deriving DecidableEq, Repr

namespace LocalVariable

/-- The number in brackets and the type, without blanks at the end. -/
def text (slot : LocalVariable) : Except NumeralError String := do
  return Text.trimEnd ("[" ++ (← Numeral.write slot.index) ++ "] " ++ slot.typeName.getD "")

end LocalVariable

structure Method where
  /-- The instruction bytes, if there are any to be had. -/
  body : Option (Array UInt8)
  maxStack : Int := 0
  locals : List LocalVariable := []
  /-- Whether local variables start out as zero. -/
  initLocals : Bool := false
  resolver : Option Resolver := none
  /-- The name for the heading of a listing. -/
  name : Option String := none
  /-- The parameter types for the heading of a listing. -/
  parameters : List String := []

/-- What a host tells about the body of a method. -/
structure MethodFacts where
  body : Option (Array UInt8)
  maxStack : Int
  locals : List LocalVariable
  initLocals : Bool

namespace MethodFacts

/-- The method of a body, with a resolver and a heading. -/
def toMethod (facts : MethodFacts) (resolver : Option Resolver) (name : Option String)
    (parameters : List String) : Method :=
  { body := facts.body
    maxStack := facts.maxStack
    locals := facts.locals
    initLocals := facts.initLocals
    resolver, name, parameters }

end MethodFacts

end CilTrace
