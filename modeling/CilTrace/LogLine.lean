import CilTrace.HostError
import CilTrace.LogPattern

/-!
Log lines, with a trace behind them when an error is logged.
-/

namespace CilTrace

/-- What is logged. -/
structure LogRecord where
  name : String
  level : Int
  message : String
deriving DecidableEq, Repr

/-- The error that is logged along. -/
inductive LoggedError where
  | nothing
  /-- Word of an error, but none at hand. -/
  | absent
  | error (errors : List HostError) (root : Nat)

namespace LogRecord

def levelName (record : LogRecord) : String :=
  match record.level with
  | 0 => "NOTSET"
  | 10 => "DEBUG"
  | 20 => "INFO"
  | 30 => "WARNING"
  | 40 => "ERROR"
  | 50 => "CRITICAL"
  | level => "Level " ++ Numeral.decimal level

/-- The values of the names that a pattern may use. -/
def field? (record : LogRecord) (name : String) : Option String :=
  [("levelname", record.levelName), ("name", record.name), ("message", record.message)].lookup name

/-- The pattern that is used when none is given. -/
def defaultPattern : String := "%(message)s"

end LogRecord

/-- Why a record cannot be written. -/
inductive LogError where
  | pattern (error : PatternError)
  /-- There is no trace of the error that is logged along. -/
  | host (failure : HostFailure)

namespace LogLine

/-- The text of a logged error, without line feeds at its end. -/
def errorText (config : Config) : LoggedError → Except HostFailure String
  | .nothing => .ok ""
  | .absent => .ok "NoneType: None"
  | .error errors root => do
      return Text.trimEndOf '\n' (← Trace.ofHostErrors config errors root)

/-- A line, with the text of an error on lines of its own. -/
def withError (line error : String) : String :=
  if error.isEmpty then line
  else if line.toList.getLast? = some '\n' then line ++ error
  else line ++ "\n" ++ error

/-- Writes a record by a pattern. An empty pattern counts as none. -/
def format (pattern : Option String) (config : Config) (record : LogRecord)
    (error : LoggedError) : Except LogError String := do
  let pattern := (pattern.filter fun text => !text.isEmpty).getD LogRecord.defaultPattern
  let line ← (LogPattern.fill record.field? pattern).mapError .pattern
  return withError line (← (errorText config error).mapError .host)

end LogLine

end CilTrace
