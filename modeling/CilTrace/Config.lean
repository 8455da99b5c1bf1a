import CilTrace.Text.LetterCase
import CilTrace.Text.Numeral

/-!
Settings of listings and traces, and how the environment changes them.
-/

namespace CilTrace

structure Config where
  /-- Whether instructions are followed by their bytes. -/
  includeRawBytes : Bool := false
  /-- The line between two levels of a trace. -/
  causeSeparator : String := String.ofList (List.replicate 23 '-')
  /-- The most levels that a trace shows. -/
  maxCauseDepth : Int := 64
deriving DecidableEq, Repr

namespace Config

/-- The spellings of yes and no. -/
def trueWords : List String := ["1", "true", "yes", "on"]

def falseWords : List String := ["0", "false", "no", "off"]

/-- Reads yes or no in any letter case, with blanks around it. -/
def flag? (text : String) : Option Bool :=
  let word := Text.lower (Text.trim text)
  if trueWords.contains word then some true
  else if falseWords.contains word then some false
  else none

/-- Reads a number of levels; only positive numbers count. -/
def depth? (text : String) : Option Int :=
  match Numeral.read 10 text with
  | .ok depth => if 0 < depth then some depth else none
  | .error _ => none

/-- The variables that the settings come from. -/
def rawBytesVariable : String := "TINYIL_RAW_BYTES"

def separatorVariable : String := "TINYIL_CAUSE_SEPARATOR"

def depthVariable : String := "TINYIL_MAX_CAUSE_DEPTH"

def variableNames : List String := [rawBytesVariable, separatorVariable, depthVariable]

/-- The settings that an environment gives. Empty variables count as absent, and a value that makes
no sense leaves the default. -/
def ofEnvironment (lookup : String → Option String) : Config :=
  let nonempty (name : String) := (lookup name).filter fun text => !text.isEmpty
  let default : Config := {}
  { includeRawBytes :=
      ((nonempty rawBytesVariable).bind flag?).getD default.includeRawBytes
    causeSeparator := (nonempty separatorVariable).getD default.causeSeparator
    maxCauseDepth := ((nonempty depthVariable).bind depth?).getD default.maxCauseDepth }

end Config

end CilTrace
