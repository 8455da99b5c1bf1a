import CilTrace.Config
import CilTrace.Frame

/-!
Traces of errors and their causes.

A trace has a level for each error of a cause chain, the innermost first, with a separator line
between levels. A level is the line of its error and a line for each call frame. What a host hands
over in place of frames or causes may be anything; such a value ends the level or the trace with a
line that says so. What that line says needs a text, and without one there is no trace.
-/

namespace CilTrace

/-- An element of a list of call frames. -/
inductive FrameItem where
  | call (frame : CallFrame)
  /-- A value that is no call frame. -/
  | foreign (value : Value)

/-- The call frames of an error, the innermost call first. -/
inductive Frames where
  | list (items : List FrameItem)
  /-- A value that is no list of call frames. -/
  | foreign (value : Value)

/-- One error of a cause chain. -/
structure Level where
  typeName : String
  message : String := ""
  frames : Frames := .list []

/-- What an error was caused by. -/
inductive Cause where
  | nothing
  /-- Another error, by its number among the errors at hand. -/
  | error (number : Nat)
  /-- A value that is no error. -/
  | foreign (value : Value)

/-- An error with its cause. -/
structure ErrorRecord extends Level where
  cause : Cause := .nothing

/-! ## Call frames -/

namespace CallFrame

/-- The place of a frame in its source, if it is known. -/
def locationText (frame : CallFrame) : Except NumeralError String :=
  if frame.hasLocation then do
    return " at (" ++ (← Numeral.write frame.line) ++ "," ++ (← Numeral.write frame.column) ++ ")"
  else return ""

/-- The number before the snippet, if there is one. -/
def offsetText (frame : CallFrame) : Except NumeralError String :=
  match frame.snippetOffset? with
  | none => return ""
  | some offset => return "#" ++ (← Numeral.write offset) ++ ": "

/-- Writes a line up to its snippet; a number that is too long to be written ends it. -/
def appendOpening (frame : CallFrame) (buffer : TextBuffer) : TextBuffer × Option NumeralError :=
  let named := buffer.append ("  in " ++ frame.declaringType.getD "" ++ "." ++ frame.methodName)
  match frame.locationText with
  | .error error => (named, some error)
  | .ok location =>
      let headed := named.append (location ++ ", ")
      match frame.offsetText with
      | .error error => (headed, some error)
      | .ok offset => (headed.append offset, none)

/-- Ends a line behind the reason why it could not go on, if there is one. -/
def endLine (written : TextBuffer) (reason : String) : TextBuffer :=
  (written.append reason).appendLine ""

/-- Writes the line of a frame. An error without a text leaves the line as far as it got. -/
def appendLine (frame : CallFrame) (buffer : TextBuffer) : TextBuffer × Option HostFailure :=
  match frame.appendOpening buffer with
  | (opened, some error) => (endLine opened error.message, none)
  | (opened, none) =>
      match frame.appendSnippet false opened with
      | (written, none) => (endLine written "", none)
      | (written, some error) =>
          match error.message with
          | .ok reason => (endLine written reason, none)
          | .error failure => (written, some failure)

end CallFrame

namespace Frames

/-- The elements of the frames. A text has its characters, and an object its names, as elements. -/
def items : Frames → Except HostFailure (List FrameItem)
  | list items => .ok items
  | foreign (.list values) => .ok (values.map .foreign)
  | foreign (.text content) =>
      .ok (content.points.map fun point => .foreign (.text ⟨[point]⟩))
  | foreign (.object fields) => .ok (fields.map fun field => .foreign (.text field.1))
  | foreign (.bytes content) => .ok (content.map fun byte => .foreign (.int byte.toNat))
  | foreign value => .error (.notIterable value.kindName)

end Frames

/-- Writes the lines of frames up to the first element that is none and to the first error that has
no text. -/
def appendFrames : List FrameItem → TextBuffer → TextBuffer × Option HostFailure
  | [], buffer => (buffer, none)
  | .foreign value :: _, buffer => (buffer, some (.noAttribute value.kindName "method_name"))
  | .call frame :: rest, buffer =>
      match frame.appendLine buffer with
      | (written, none) => appendFrames rest written
      | (written, some failure) => (written, some failure)

/-! ## Levels -/

namespace Level

/-- A level in one line. -/
def summary (level : Level) : String :=
  if level.message.isEmpty then level.typeName else level.typeName ++ ": " ++ level.message

/-- The first line of a level. -/
def header (level : Level) : String :=
  "[" ++ level.typeName ++ " : " ++ level.message ++ "]"

/-- Writes the lines of the frames, as far as they can be gone through. -/
def appendLines (level : Level) (buffer : TextBuffer) : TextBuffer × Option HostFailure :=
  match level.frames.items with
  | .error failure => (buffer, some failure)
  | .ok items => appendFrames items buffer

/-- Writes the lines of a level. If it cannot be finished, its summary and the failure follow, unless
the failure has no text. -/
def append (level : Level) (buffer : TextBuffer) : Except HostFailure TextBuffer :=
  match level.appendLines (buffer.appendLine level.header) with
  | (written, none) => .ok written
  | (written, some failure) => do
      let text ← failure.text
      return written.appendLine (level.summary ++ " " ++ failure.kind ++ ": " ++ text)

end Level

namespace Trace

/-- Writes levels that come after another one, each behind a separator line. -/
def appendSeparated (separator : String) : List Level → TextBuffer → Except HostFailure TextBuffer
  | [], buffer => .ok buffer
  | level :: rest, buffer => do
      let written ← level.append (buffer.appendLine separator)
      appendSeparated separator rest written

/-- The text of levels in the order in which they are shown. -/
def ofLevels (config : Config) : List Level → Except HostFailure String
  | [] => .ok ""
  | first :: rest => do
      let begun ← first.append (.ofString "")
      return (← appendSeparated config.causeSeparator rest begun).toString

/-! ## Cause chains -/

/-- Ends a chain at its depth limit. This is noted, so the limit has to be written. -/
def cutAt (limit : Int) : Except HostFailure (List Level) := do
  let _ ← (Numeral.write limit).mapError HostFailure.ofNumeralError
  return []

/--
The errors from a cause inward, outermost first. The chain ends where there is no further cause,
where an error comes up again, and at the depth limit; a value that is no error cannot be followed.
The first argument is at least the number of errors that have not been seen.
-/
def chain (errors : List ErrorRecord) (limit : Int) :
    Nat → List Nat → Cause → Except HostFailure (List Level)
  | _, _, .nothing => .ok []
  | _, _, .foreign .null => .ok []
  | _, seen, .foreign value =>
      if limit ≤ seen.length then cutAt limit else .error (.noAttribute value.kindName "cause")
  | 0, _, .error _ => .ok []
  | unseen + 1, seen, .error number =>
      if seen.contains number then .ok []
      else match errors[number]? with
        | none => .ok []
        | some error =>
            if limit ≤ seen.length then cutAt limit
            else do
              let inner ← chain errors limit unseen (number :: seen) error.cause
              return error.toLevel :: inner

end Trace

/-! ## Descriptions

A description has all fields of a record, so no number in it may be too long to be written. -/

namespace Describe

/-- Values between round brackets; a single one is followed by a comma. -/
def tuple : List String → String
  | [] => "()"
  | [item] => "(" ++ item ++ ",)"
  | items => "(" ++ String.intercalate ", " items ++ ")"

def option {α : Type} (describe : α → Except NumeralError String) :
    Option α → Except NumeralError String
  | none => .ok "None"
  | some value => describe value

def quoted (text : Option String) : String :=
  (text.map Text.quoted).getD "None"

def bool (flag : Bool) : String :=
  if flag then "True" else "False"

/-- What an error says that was raised with some values: nothing, the value, or all of them. -/
def arguments : List Value → Except NumeralError String
  | [] => .ok ""
  | [value] => value.display
  | values => do return tuple (← values.mapM Value.inner)

/-- A record by its name and its fields. -/
def fields (name : String) (entries : List (String × String)) : String :=
  name ++ "(" ++ String.intercalate ", " (entries.map fun entry => entry.1 ++ "=" ++ entry.2) ++ ")"

def slot (slot : LocalVariable) : Except NumeralError String := do
  return fields "LocalVariable"
    [("index", ← Numeral.write slot.index), ("type_name", quoted slot.typeName)]

/-- All that is known about a method but its resolver. -/
def method (method : Method) : Except NumeralError String := do
  return fields "MethodContext"
    [("il", (method.body.map fun body => Text.quotedBytes body.toList).getD "None"),
      ("max_stack", ← Numeral.write method.maxStack),
      ("locals", tuple (← method.locals.mapM slot)),
      ("init_locals", bool method.initLocals),
      ("name", quoted method.name),
      ("parameters", tuple (method.parameters.map Text.quoted))]

def frame (frame : CallFrame) : Except NumeralError String := do
  return fields "CallFrame"
    [("declaring_type", quoted frame.declaringType),
      ("method_name", Text.quoted frame.methodName),
      ("method", ← option method frame.method),
      ("file", quoted frame.file),
      ("line", ← Numeral.write frame.line),
      ("column", ← Numeral.write frame.column),
      ("offset", ← option Numeral.write frame.offset)]

def frameItem : FrameItem → Except NumeralError String
  | .call callFrame => frame callFrame
  | .foreign value => value.inner

def frames : Frames → Except NumeralError String
  | .list items => do return tuple (← items.mapM frameItem)
  | .foreign value => value.inner

/-- An error with its causes; one that comes up again inside itself is left out. -/
def cause (errors : List ErrorRecord) : Nat → List Nat → Cause → Except NumeralError String
  | _, _, .nothing => .ok "None"
  | _, _, .foreign value => value.inner
  | 0, _, .error _ => .ok "..."
  | unseen + 1, seen, .error number =>
      if seen.contains number then .ok "..."
      else match errors[number]? with
        | none => .ok "None"
        | some error => do
            return fields "DiagnosticRecord"
              [("type_name", Text.quoted error.typeName),
                ("message", Text.quoted error.message),
                ("cause", ← cause errors unseen (number :: seen) error.cause),
                ("frames", ← frames error.frames)]

end Describe

namespace Trace

/-- The one line about an error whose causes cannot be followed. -/
def unfollowed (errors : List ErrorRecord) (root : Cause) (failure : HostFailure) :
    Except HostFailure String := do
  let described ← (Describe.cause errors errors.length [] root).mapError HostFailure.ofNumeralError
  return described ++ " " ++ failure.kind ++ ": " ++ (← failure.text) ++ "\n"

/-- The text of an error among others and of its causes, the innermost first. -/
def ofErrors (config : Config) (errors : List ErrorRecord) (root : Cause) :
    Except HostFailure String :=
  match chain errors config.maxCauseDepth errors.length [] root with
  | .ok levels => ofLevels config levels.reverse
  | .error failure => unfollowed errors root failure

end Trace

end CilTrace
