import CilTrace.Command.Library
import CilTrace.Text.Numeral

/-!
The options of the command, and the request that they make.
-/

namespace CilTrace

/-- Options without a value. -/
inductive Flag where
  | hex
  | initLocals
  | bytes
  | verbose
  | version
  | help
deriving DecidableEq, Repr

/-- Options with a value. -/
inductive Setting where
  | output
  | maxStack
  | local
  | name
  | symbols
  | offset
deriving DecidableEq, Repr

/-- An option as it was given. -/
inductive GivenOption where
  | flag (flag : Flag)
  | setting (setting : Setting) (value : String)
deriving DecidableEq, Repr

/-- The arguments of a command: options, and what is left when they are taken out. -/
structure Arguments where
  options : List GivenOption := []
  operands : List String := []
deriving DecidableEq, Repr

/-- The long name of a flag. -/
def Flag.spelling : Flag → String
  | hex => "--hex"
  | initLocals => "--init-locals"
  | bytes => "--bytes"
  | verbose => "--verbose"
  | version => "--version"
  | help => "--help"

/-- The long name of a setting. -/
def Setting.spelling : Setting → String
  | output => "--output"
  | maxStack => "--max-stack"
  | «local» => "--local"
  | name => "--name"
  | symbols => "--symbols"
  | offset => "--offset"

/-- The arguments that give an option. -/
def GivenOption.spelled : GivenOption → List String
  | flag given => [given.spelling]
  | setting given value => [given.spelling, value]

namespace Arguments

/-- A command line with these arguments. -/
def spelled (arguments : Arguments) : List String :=
  arguments.options.flatMap GivenOption.spelled ++ "--" :: arguments.operands

def hasFlag (arguments : Arguments) (flag : Flag) : Bool :=
  arguments.options.contains (.flag flag)

/-- All values of a setting, in order. -/
def values (arguments : Arguments) (setting : Setting) : List String :=
  arguments.options.filterMap fun
    | .setting other value => if other = setting then some value else none
    | .flag _ => none

/-- The value of a setting: the last one given. -/
def value? (arguments : Arguments) (setting : Setting) : Option String :=
  (arguments.values setting).getLast?

/-- The stack depth that is asked for; without a number it is eight. -/
def maxStack (arguments : Arguments) : Int :=
  ((arguments.value? .maxStack).bind fun text => (Numeral.read 10 text).toOption).getD 8

/-- The request that arguments make about an input file. -/
def toRequest (arguments : Arguments) (inputFile : String) : Request :=
  { inputFile := Path.normal inputFile
    outputFile := (arguments.value? .output).map Path.normal
    symbolsFile := (arguments.value? .symbols).map Path.normal
    inputIsText := arguments.hasFlag .hex
    maxStack := arguments.maxStack
    locals := arguments.values .local
    initLocals := arguments.hasFlag .initLocals
    name := arguments.value? .name
    offset := arguments.value? .offset
    withBytes := arguments.hasFlag .bytes
    verbose := arguments.hasFlag .verbose }

end Arguments

end CilTrace
