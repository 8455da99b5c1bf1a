import CilTrace.Trace

/-!
Errors of the host.

A running host has errors of its own, with causes, contexts and stacks. Capturing one gives the
levels of a trace. Stacks list the outermost call first; levels list the innermost first.
-/

namespace CilTrace

/-- One entry of a stack. The numbers in it are those of the machine. -/
structure StackEntry where
  /-- The name of the function with the names around it, divided by dots. -/
  qualifiedName : String
  module : Option String := none
  file : String
  line : Option Int32
  /-- The place in the code of the function, or below zero if it is not known. -/
  lastInstruction : Int32
  /-- The start column of each two-byte unit of the code, where it is known. -/
  columns : List (Option Int32)
deriving DecidableEq, Repr

structure HostError where
  name : String
  module : String
  qualifiedName : String
  message : Option String
  /-- What asking an error for its text fails with, if it does. -/
  textFailure : Option HostFailure
  cause : Option Nat
  context : Option Nat
  suppressContext : Bool
  stack : List StackEntry
deriving DecidableEq, Repr

namespace StackEntry

/-- The column, counted from one; zero if it is not known. -/
def column (entry : StackEntry) : Int :=
  if entry.lastInstruction.toInt < 0 then 0
  else match entry.columns[entry.lastInstruction.toInt.toNat / 2]? with
    | some (some start) => start.toInt + 1
    | _ => 0

/-- The part of a dotted name before its last dot and the part after it. -/
def splitName (name : String) : String × String :=
  let chars := name.toList
  let last := (chars.reverse.takeWhile (· != '.')).reverse
  (String.ofList (chars.take (chars.length - last.length - 1)), String.ofList last)

/-- The call frame of an entry. -/
def toFrame (entry : StackEntry) : CallFrame :=
  let module := entry.module.getD ""
  let (owner, name) := splitName entry.qualifiedName
  { declaringType := some (if owner.isEmpty then module else module ++ "." ++ owner)
    methodName := name
    file := some entry.file
    line := (entry.line.map Int32.toInt).getD 0
    column := entry.column }

end StackEntry

namespace HostError

/-- The module whose errors go without its name. -/
def plainModule : String := "builtins"

def typeName (error : HostError) : String :=
  if error.module == plainModule then error.qualifiedName
  else error.module ++ "." ++ error.qualifiedName

/-- The error that comes next: the cause, or else the context if it is not suppressed. -/
def next? (error : HostError) : Option Nat :=
  match error.cause with
  | some number => some number
  | none => if error.suppressContext then none else error.context

/-- The text of an error, or what asking for it fails with. -/
def text (error : HostError) : Except HostFailure String :=
  match error.textFailure with
  | some failure => .error failure
  | none => .ok (error.message.getD "")

/-- A short description that does not need the text. -/
def describe (error : HostError) : String :=
  error.name ++ "(" ++ (error.message.map Text.quoted).getD "" ++ ")"

/-- The call frames of an error, the innermost call first. -/
def frames (error : HostError) : List CallFrame :=
  error.stack.reverse.map StackEntry.toFrame

/-- The level of an error. -/
def toLevel (error : HostError) : Except HostFailure Level := do
  let message ← error.text
  return { typeName := error.typeName, message, frames := .list (error.frames.map .call) }

/--
The errors from one inward: up to the end, the first repetition or the depth limit. The first
argument is at least the number of errors that have not been seen.
-/
def path (errors : List HostError) (limit : Int) : Nat → List Nat → Option Nat → List HostError
  | _, _, none => []
  | 0, _, some _ => []
  | unseen + 1, seen, some number =>
      if seen.contains number ∨ limit ≤ seen.length then []
      else match errors[number]? with
        | none => []
        | some error => error :: path errors limit unseen (number :: seen) error.next?

/-- The levels of some errors, of which the last is turned into a level first. -/
def levels : List HostError → Except HostFailure (List Level)
  | [] => .ok []
  | error :: inner => do
      let innerLevels ← levels inner
      return (← error.toLevel) :: innerLevels

/-- The levels of an error among others, outermost first. -/
def capture (errors : List HostError) (limit : Int) (root : Nat) :
    Except HostFailure (List Level) :=
  levels (path errors limit errors.length [] (some root))

end HostError

namespace Trace

/-- The trace of a host error; if some error cannot be captured, one line about that. -/
def ofHostErrors (config : Config) (errors : List HostError) (root : Nat) :
    Except HostFailure String :=
  match HostError.capture errors config.maxCauseDepth root with
  | .ok levels => ofLevels config levels.reverse
  | .error failure => do
      let described := ((errors[root]?).map HostError.describe).getD "None"
      return described ++ " " ++ failure.kind ++ ": " ++ (← failure.text) ++ "\n"

end Trace

end CilTrace
