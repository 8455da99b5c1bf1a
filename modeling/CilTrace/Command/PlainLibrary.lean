import CilTrace.Command.Options
import CilTrace.Text.Control
import CilTrace.Text.Similar

/-!
A library for command lines, with which the command can be run.

Options may stand anywhere before a `--`. A long option takes its value after an equals sign or from
the next argument; short options may be joined, and the rest of such an argument is the value of the
first one that takes a value. Control sequences are left out of what is printed, as is done where an
output is no terminal.
-/

namespace CilTrace

/-- What is wrong with arguments. -/
inductive UsageError where
  | unknownOption (spelling : String) (suggestions : List String)
  | needsValue (spelling : String)
  | takesNoValue (spelling : String)
  | notInteger (parameter value : String)
  | noFile (parameter path : String)
  | directory (parameter path : String)
  /-- A path holds a null character, so that no file can have it. -/
  | nullInPath
  | noInput
  | extraArguments (arguments : List String)
deriving DecidableEq, Repr

namespace UsageError

/-- What is offered in place of an unknown option. -/
def offer : List String → String
  | [] => ""
  | [option] => " Did you mean " ++ option ++ "?"
  | options => " (Possible options: " ++ String.intercalate ", " options ++ ")"

def message : UsageError → String
  | unknownOption spelling suggestions => "No such option: " ++ spelling ++ offer suggestions
  | needsValue spelling => "Option " ++ Text.quoted spelling ++ " requires an argument."
  | takesNoValue spelling => "Option " ++ Text.quoted spelling ++ " does not take a value."
  | notInteger parameter value =>
      "Invalid value for " ++ parameter ++ ": " ++ Text.quoted value ++ " is not a valid integer."
  | noFile parameter path =>
      "Invalid value for " ++ parameter ++ ": File " ++ Text.quoted path ++ " does not exist."
  | directory parameter path =>
      "Invalid value for " ++ parameter ++ ": File " ++ Text.quoted path ++ " is a directory."
  | nullInPath => "embedded null byte"
  | noInput => "Missing argument 'INPUT_FILE'."
  | extraArguments arguments =>
      "Got unexpected extra argument" ++ (if arguments.length = 1 then "" else "s") ++ " (" ++
        String.intercalate " " arguments ++ ")"

/-- Whether the usage line is repeated before the message. -/
def showsUsage : UsageError → Bool
  | needsValue _ | takesNoValue _ => false
  | _ => true

def usage : String :=
  "Usage: ildisasm [OPTIONS] INPUT_FILE\nTry 'ildisasm --help' for help.\n\n"

/-- What the command leaves behind. It ends without a word at a path that no file can have. -/
def report (error : UsageError) : Report :=
  match error with
  | nullInPath => { exitCode := 1 }
  | error =>
      { exitCode := 2
        stderr := (if error.showsUsage then usage else "") ++
          Text.withoutControls ("Error: " ++ error.message ++ "\n") }

end UsageError

/-! ## Reading options -/

inductive OptionKey where
  | flag (flag : Flag)
  | setting (setting : Setting)
deriving DecidableEq, Repr

namespace OptionKey

def long : List (String × OptionKey) :=
  [("--output", .setting .output), ("--hex", .flag .hex), ("--max-stack", .setting .maxStack),
    ("--local", .setting .local), ("--init-locals", .flag .initLocals), ("--name", .setting .name),
    ("--symbols", .setting .symbols), ("--offset", .setting .offset), ("--bytes", .flag .bytes),
    ("--verbose", .flag .verbose), ("--version", .flag .version), ("--help", .flag .help)]

def short : List (Char × OptionKey) :=
  [('o', .setting .output), ('v', .flag .verbose)]

end OptionKey

/-- The options that one argument gives. The last one may still wait for its value; it is then named
as it was spelled. -/
structure OptionArgument where
  given : List GivenOption := []
  waiting : Option (Setting × String) := none
deriving DecidableEq, Repr

namespace OptionArgument

/-- Reads joined short options. -/
def readShort : List Char → Except UsageError OptionArgument
  | [] => .ok {}
  | char :: rest =>
      match OptionKey.short.lookup char with
      | none => .error (.unknownOption ("-" ++ char.toString) [])
      | some (.flag flag) => do
          let later ← readShort rest
          return { later with given := .flag flag :: later.given }
      | some (.setting setting) =>
          if rest.isEmpty then .ok { waiting := some (setting, "-" ++ char.toString) }
          else .ok { given := [.setting setting (String.ofList rest)] }

/-- An argument before and after its first equals sign. -/
def splitValue (argument : String) : String × Option String :=
  let chars := argument.toList
  let name := chars.takeWhile (· != '=')
  match chars.drop name.length with
  | [] => (argument, none)
  | _ :: value => (String.ofList name, some (String.ofList value))

/-- Reads an argument that begins with a dash: as a long option, or else as short ones. -/
def read (argument : String) : Except UsageError OptionArgument :=
  let (name, value) := splitValue argument
  match OptionKey.long.lookup name, value with
  | some (.flag flag), none => .ok { given := [.flag flag] }
  | some (.flag _), some _ => .error (.takesNoValue name)
  | some (.setting setting), some value => .ok { given := [.setting setting value] }
  | some (.setting setting), none => .ok { waiting := some (setting, name) }
  | none, _ =>
      match argument.toList with
      | '-' :: '-' :: _ =>
          .error (.unknownOption name (Text.suggestions (OptionKey.long.map (·.1)) name))
      | chars => readShort (chars.drop 1)

end OptionArgument

namespace Arguments

/-- Whether an argument gives options: it begins with a dash and goes on. -/
def givesOptions (argument : String) : Bool :=
  argument.toList.head? == some '-' && argument != "-"

/-- Puts options before those of the arguments that follow. -/
def prepend (given : List GivenOption) (later : Arguments) : Arguments :=
  { later with options := given ++ later.options }

/-- Sorts out arguments. -/
def read : List String → Except UsageError Arguments
  | [] => .ok {}
  | argument :: rest =>
      if argument = "--" then .ok { operands := rest }
      else if givesOptions argument then
        match OptionArgument.read argument, rest with
        | .error error, _ => .error error
        | .ok ⟨given, none⟩, rest => (read rest).map (prepend given)
        | .ok ⟨_, some (_, spelling)⟩, [] => .error (.needsValue spelling)
        | .ok ⟨given, some (setting, _)⟩, value :: rest =>
            (read rest).map (prepend (given ++ [.setting setting value]))
      else (read rest).map fun later => { later with operands := argument :: later.operands }

/-- The settings that were given, each once, in the order in which they first were. -/
def settings (arguments : Arguments) : List Setting :=
  (arguments.options.foldl (fun before option =>
    match option with
    | .setting setting _ => if before.contains setting then before else setting :: before
    | .flag _ => before) []).reverse

end Arguments

/-! ## Fixed answers -/

def versionText : String :=
  "ildisasm, version 1.0.0\n"

def helpText : String :=
  "Usage: ildisasm [OPTIONS] INPUT_FILE\n\n" ++
  "  Disassemble the IL of a CIL method body.\n\n" ++
  "  INPUT_FILE holds the method body's IL bytes (no method header).\n\n" ++
  "  Examples:\n\n" ++
  "      # Full listing with two int locals     ildisasm body.bin --local int\n" ++
  "      --local int --init-locals\n\n" ++
  "      # Two-instruction snippet at IL offset 0x0C     ildisasm body.bin --offset\n" ++
  "      0x0C\n\n" ++
  "Options:\n" ++
  "  -o, --output FILE    Output file (default: stdout)\n" ++
  "  --hex                Input file contains hex text instead of binary IL\n" ++
  "  --max-stack INTEGER  Declared maximum evaluation stack depth  [default: 8]\n" ++
  "  --local TYPE         Declare a local variable of TYPE (repeat for each local,\n" ++
  "                       in slot order)\n" ++
  "  --init-locals        Mark locals as zero-initialised (.locals init)\n" ++
  "  --name TEXT          Method name for the .method header\n" ++
  "  --symbols FILE       JSON symbol tables used to resolve metadata tokens\n" ++
  "  --offset TEXT        Show only the instruction at this IL offset and the next\n" ++
  "                       one (hex with 0x prefix or decimal)\n" ++
  "  --bytes              Append raw instruction bytes to each instruction\n" ++
  "  -v, --verbose        Verbose output\n" ++
  "  --version            Show the version and exit.\n" ++
  "  --help               Show this message and exit.\n"

namespace Arguments

/-- The answer of the first option that asks for one. -/
def answer? (arguments : Arguments) : Option Report :=
  arguments.options.findSome? fun
    | .flag .version => some { stdout := versionText }
    | .flag .help => some { stdout := helpText }
    | _ => none

end Arguments

/-! ## Checks -/

namespace Command

variable {m : Type → Type} [Monad m]

/-- How messages name a parameter. -/
def inputParameter : String := "'INPUT_FILE'"

def outputParameter : String := "'-o' / '--output'"

def symbolsParameter : String := "'--symbols'"

def maxStackParameter : String := "'--max-stack'"

/-- Whether a parameter names a file that can be used: none that is a directory, and one that is
there if `mustExist`. -/
def checkFile (files : FileSystem m) (parameter path : String) (mustExist : Bool) :
    ExceptT UsageError m Unit := do
  if path.toList.contains '\x00' then throw .nullInPath
  match ← files.kindOf path with
  | some .directory => throw (.directory parameter path)
  | some .file => return ()
  | none => if mustExist then throw (.noFile parameter path)

/-- The number that a setting stands for. -/
def readMaxStack (text : String) : Except UsageError Int :=
  (Numeral.read 10 text).mapError fun _ => .notInteger maxStackParameter text

/-- Checks the value of a setting. -/
def checkSetting (files : FileSystem m) (arguments : Arguments) (setting : Setting) :
    ExceptT UsageError m Unit := do
  match setting, arguments.value? setting with
  | .output, some path => checkFile files outputParameter path false
  | .symbols, some path => checkFile files symbolsParameter path true
  | .maxStack, some text =>
      let _ ← readMaxStack text
      return ()
  | _, _ => return ()

/-- Checks arguments: the settings in the order in which they were given, then the input file, then
that nothing is left over. -/
def check (files : FileSystem m) (arguments : Arguments) : ExceptT UsageError m Request := do
  arguments.settings.forM (checkSetting files arguments)
  match arguments.operands with
  | [] => throw .noInput
  | inputFile :: extra =>
      checkFile files inputParameter inputFile true
      unless extra.isEmpty do throw (.extraArguments extra)
      return arguments.toRequest inputFile

/-- Sorts out arguments, answers those that ask for help or the version, and checks the others. -/
def parse (files : FileSystem m) (arguments : List String) : m (Except Report Request) := do
  match Arguments.read arguments with
  | .error error => return .error error.report
  | .ok arguments =>
      match arguments.answer? with
      | some report => return .error report
      | none =>
          match ← check files arguments with
          | .error error => return .error error.report
          | .ok request => return .ok request

end Command

/-- The library that the command runs with. -/
def CommandLibrary.plain {m : Type → Type} [Monad m] : CommandLibrary m where
  parse := Command.parse
  echo := WideText.withoutControls

end CilTrace
