import CilTrace.Command.Run
import CilTrace.Proofs.CommandLines
import CilTrace.Proofs.SymbolLookups

/-!
What a command reports about decoding.

The exit code says whether the body could be decoded, the standard output holds the text as far as
it got, and the standard error ends with the reason if there is one. This is so with every library
for command lines that does what is relied on.
-/

namespace CilTrace

/-! ## Steps of a command -/

theorem lift_bind_of_ok {ε σ α β : Type} {result : Except ε α} {value : α}
    (ok : result = .ok value) (next : α → ExceptT ε (StateM σ) β) (state : σ) :
    ((liftM result : ExceptT ε (StateM σ) α) >>= next) state = next value state := by
  subst ok
  rfl

theorem lift_bind_of_error {ε σ α β : Type} {result : Except ε α} {error : ε}
    (failed : result = .error error) (next : α → ExceptT ε (StateM σ) β) (state : σ) :
    ((liftM result : ExceptT ε (StateM σ) α) >>= next) state = (.error error, state) := by
  subst failed
  rfl

namespace Logged

/-- The step ends well, whatever it adds to the log. -/
def Passes (step : Logged Unit) : Prop :=
  ∀ log, ∃ reached, step log = (.ok (), reached)

theorem passes_pure : Passes (pure ()) := fun log =>
  ⟨log, rfl⟩

theorem Passes.bind {step : Logged Unit} {next : Unit → Logged Unit} (first : Passes step)
    (second : Passes (next ())) : Passes (step >>= next) := by
  intro log
  rcases first log with ⟨middle, firstRun⟩
  rcases second middle with ⟨reached, secondRun⟩
  exact ⟨reached, by rw [bind_of_ok firstRun, secondRun]⟩

theorem passes_add (text : String) : Passes (add text) := fun log =>
  ⟨log ++ text, rfl⟩

theorem passes_line {m : Type → Type} (library : CommandLibrary m) (text : String) :
    Passes (line library text) :=
  passes_add _

theorem passes_debug (part : String) (notes : List String) : Passes (debug part notes) := by
  induction notes with
  | nil => exact passes_pure
  | cons note notes induction => exact (passes_add _).bind induction

/-- What comes behind a step that ends well. -/
theorem Passes.before {α : Type} {step : Logged Unit} (passes : Passes step) {value : α}
    {next : Unit → Logged α} (later : ∀ log, ∃ reached, next () log = (.ok value, reached))
    (log : String) : ∃ reached, (step >>= next) log = (.ok value, reached) := by
  rcases passes log with ⟨middle, run⟩
  rcases later middle with ⟨reached, rest⟩
  exact ⟨reached, by rw [bind_of_ok run, rest]⟩

theorem Passes.whenVerbose {step : Logged Unit} (passes : Passes step) (request : Request) :
    Passes (request.whenVerbose step) := by
  rw [Request.whenVerbose]
  split
  · exact passes
  · exact passes_pure

end Logged

/-! ## The text of a request -/

namespace Request

open Logged

variable {m : Type → Type} (library : CommandLibrary m) (request : Request)
  {tables : Option SymbolTables}

/-- The part of a request that makes its text, once its files have been read. -/
def layOut (config : Config) (body : List UInt8) (tables : Option SymbolTables) :
    Logged Disassembly :=
  let withBytes := request.withBytes || config.includeRawBytes
  match request.offset with
  | some offset => request.snippet body tables withBytes offset
  | none => request.listing library body tables withBytes

theorem wideText_of_ordinary (ordinary : ∀ loaded ∈ tables, loaded.hasLone = false)
    {layOut : Option SymbolTables → Except Failure String} {text : String}
    (shown : layOut tables = .ok text) : wideText tables layOut = .ok (.ofString text) := by
  cases tables with
  | none =>
      simp only [wideText, shown]
      rfl
  | some loaded =>
      simp only [wideText, ordinary loaded rfl, shown]
      rfl

theorem loadSymbols_of_ok {content : List UInt8} {loaded : SymbolTables}
    (read : SymbolTables.ofFile content = .ok loaded) (path log : String) :
    ∃ reached, request.loadSymbols library path (.ok content) log = (.ok loaded, reached) := by
  rw [loadSymbols, mapError_bind_of_ok rfl, mapError_bind_of_ok read]
  exact (((passes_debug _ _).bind (passes_line library _)).whenVerbose request).before
    (fun reached => ⟨reached, rfl⟩) log

theorem layOut_listing {body : List UInt8}
    (ordinary : ∀ loaded ∈ tables, loaded.hasLone = false) (noOffset : request.offset = none)
    {config : Config} {listing : Listing}
    (listed : Listing.ofMethod (request.toMethod body tables)
      (request.withBytes || config.includeRawBytes) = .ok listing) (log : String) :
    ∃ reached, request.layOut library config body tables log =
      (.ok ⟨.ofString (endLine listing.text), listing.failure⟩, reached) := by
  have shown : ((Listing.ofMethod (request.toMethod body tables)
      (request.withBytes || config.includeRawBytes)).mapError Failure.ofHostFailure).map
        (fun listing => endLine listing.text) = .ok (endLine listing.text) := by
    rw [listed]
    rfl
  simp only [layOut, noOffset]
  rw [Request.listing]
  refine Passes.before (Passes.whenVerbose (passes_debug _ _) request) (fun middle => ?_) log
  rw [mapError_bind_of_ok listed]
  refine Passes.before (Passes.whenVerbose ?_ request) (fun reached => ⟨reached, ?_⟩) middle
  · refine (passes_debug _ _).bind ?_
    split
    · exact passes_line library _
    · exact passes_pure
  · rw [lift_bind_of_ok (wideText_of_ordinary ordinary shown)]
    rfl

theorem layOut_snippet {body : List UInt8}
    (ordinary : ∀ loaded ∈ tables, loaded.hasLone = false) {text : String} {offset : Int}
    (given : request.offset = some text) (read : Numeral.readSpelled text = .ok offset)
    {config : Config} {written : TextBuffer} {failure : Option DecodeError}
    (shown : (request.toMethod body tables).appendSnippet offset
      (request.withBytes || config.includeRawBytes) (.ofString "") = (written, failure))
    (inBody : ∀ error ∈ failure, error.isAboutBody = true) (log : String) :
    ∃ reached, request.layOut library config body tables log =
      (.ok ⟨.ofString (written.toString ++ "\n"), failure⟩, reached) := by
  have laidOut : request.snippetText body (request.withBytes || config.includeRawBytes) offset
      tables = .ok (written.toString ++ "\n", failure) := by
    unfold snippetText
    rw [shown]
    cases failure with
    | none => rfl
    | some error => exact if_pos (inBody error rfl)
  have first : (request.snippetText body (request.withBytes || config.includeRawBytes) offset
      tables).map (·.1) = .ok (written.toString ++ "\n") := by
    rw [laidOut]
    rfl
  simp only [layOut, given]
  rw [Request.snippet, mapError_bind_of_ok read]
  refine Passes.before (Passes.whenVerbose (passes_debug _ _) request)
    (fun reached => ⟨reached, ?_⟩) log
  rw [lift_bind_of_ok laidOut]
  dsimp only
  rw [lift_bind_of_ok (wideText_of_ordinary ordinary first)]
  rfl

/-- A snippet that ends for a reason outside the body leaves no text. -/
theorem layOut_broken {body : List UInt8} {text : String} {offset : Int}
    (given : request.offset = some text) (read : Numeral.readSpelled text = .ok offset)
    {config : Config} {written : TextBuffer} {error : DecodeError}
    (shown : (request.toMethod body tables).appendSnippet offset
      (request.withBytes || config.includeRawBytes) (.ofString "") = (written, some error))
    (outside : error.isAboutBody = false) (log : String) :
    ∃ reached, request.layOut library config body tables log =
      (.error (.ofDecodeError error), reached) := by
  have laidOut : request.snippetText body (request.withBytes || config.includeRawBytes) offset
      tables = .error (.ofDecodeError error) := by
    unfold snippetText
    rw [shown]
    exact if_neg (by rw [outside]; decide)
  have notes := (passes_debug "disassembler.operands"
    ((request.toMethod body tables).resolutionNotes offset 2)).whenVerbose request
  rcases notes log with ⟨reached, run⟩
  simp only [layOut, given]
  rw [Request.snippet, mapError_bind_of_ok read, bind_of_ok run, lift_bind_of_error laidOut]
  exact ⟨reached, rfl⟩

theorem disassemble_of_body {content body : List UInt8}
    (read : BodyFile.read request.inputIsText content = .ok body) (config : Config)
    (symbols : Option (Except FileError (List UInt8))) (log : String) :
    ∃ reached, request.disassemble library config (.ok content) symbols log =
      ((match symbols with
        | none => pure none
        | some content =>
            some <$> request.loadSymbols library (request.symbolsFile.getD "") content) >>=
        request.layOut library config body) reached := by
  have notes := (passes_line library ("Input file: " ++ request.inputFile ++ " (" ++
    body.length.repr ++ " bytes)")).whenVerbose request
  rcases notes log with ⟨reached, run⟩
  refine ⟨reached, ?_⟩
  rw [disassemble, mapError_bind_of_ok rfl, mapError_bind_of_ok read, bind_of_ok run]
  cases symbols <;> rfl

theorem disassemble_noSymbols {content body : List UInt8}
    (read : BodyFile.read request.inputIsText content = .ok body) (config : Config)
    (log : String) :
    ∃ reached, request.disassemble library config (.ok content) none log =
      request.layOut library config body none reached :=
  request.disassemble_of_body library read config none log

theorem disassemble_symbols {content symbols body : List UInt8} {loaded : SymbolTables}
    (read : BodyFile.read request.inputIsText content = .ok body)
    (load : SymbolTables.ofFile symbols = .ok loaded) (config : Config) (log : String) :
    ∃ reached, request.disassemble library config (.ok content) (some (.ok symbols)) log =
      request.layOut library config body (some loaded) reached := by
  rcases request.disassemble_of_body library read config (some (.ok symbols)) log with
    ⟨middle, run⟩
  rcases request.loadSymbols_of_ok library load (request.symbolsFile.getD "") middle with
    ⟨reached, loads⟩
  have mapped : (some <$> request.loadSymbols library (request.symbolsFile.getD "")
      (.ok symbols)) middle = (.ok (some loaded), reached) := by
    rw [map_eq_pure_bind, bind_of_ok loads]
    rfl
  exact ⟨reached, run.trans (bind_of_ok mapped)⟩

end Request

/-! ## Reports -/

/--
A report of a text and of what cut it short, if anything did. The text is printed by a library, so as
it is if it has no escape characters.
-/
structure Report.Tells (library : CommandLibrary (StateM FileTree)) (report : Report)
    (text : String) (failure : Option DecodeError) : Prop where
  stdout : report.stdout = library.echoed text
  verbatim : Text.HasNoEscape text → report.stdout = text
  exitCode : report.exitCode = if failure = none then 0 else 1
  stderr : ∀ error ∈ failure, ∃ log reason, error.message = .ok reason ∧
    report.stderr = log ++ ("Error: " ++ reason ++ "\n")

namespace Command

/--
Sound arguments, with what their files and numbers come to: the bytes of the body, the stack depth,
and the symbol tables if a file of them is named.
-/
structure Usable (tree : FileTree) (arguments : Arguments) (inputFile : String)
    (body : List UInt8) (maxStack : Int) (tables : Option SymbolTables) : Prop where
  operands : arguments.operands = [inputFile]
  noVersion : arguments.hasFlag .version = false
  noHelp : arguments.hasFlag .help = false
  noOutput : arguments.value? .output = none
  input : ∃ content, tree.HasFile inputFile content ∧
    BodyFile.read (arguments.hasFlag .hex) content = .ok body
  depth : match arguments.value? .maxStack with
    | none => maxStack = 8
    | some text => Numeral.read 10 text = .ok maxStack
  symbols : match arguments.value? .symbols with
    | none => tables = none
    | some path => ∃ content loaded, tree.HasFile path content ∧
        SymbolTables.ofFile content = .ok loaded ∧ loaded.hasLone = false ∧ tables = some loaded

variable {library : CommandLibrary (StateM FileTree)} {tree : FileTree} {arguments : Arguments}
  {inputFile : String} {body : List UInt8} {maxStack : Int} {tables : Option SymbolTables}

namespace Usable

theorem depth_of_none (usable : Usable tree arguments inputFile body maxStack tables)
    (given : arguments.value? .maxStack = none) : maxStack = 8 := by
  have depth := usable.depth
  rwa [given] at depth

theorem depth_of_some (usable : Usable tree arguments inputFile body maxStack tables)
    {text : String} (given : arguments.value? .maxStack = some text) :
    Numeral.read 10 text = .ok maxStack := by
  have depth := usable.depth
  rwa [given] at depth

theorem symbols_of_none (usable : Usable tree arguments inputFile body maxStack tables)
    (given : arguments.value? .symbols = none) : tables = none := by
  have symbols := usable.symbols
  rwa [given] at symbols

theorem symbols_of_some (usable : Usable tree arguments inputFile body maxStack tables)
    {path : String} (given : arguments.value? .symbols = some path) :
    ∃ content loaded, tree.HasFile path content ∧ SymbolTables.ofFile content = .ok loaded ∧
      loaded.hasLone = false ∧ tables = some loaded := by
  have symbols := usable.symbols
  rwa [given] at symbols

theorem areSound (usable : Usable tree arguments inputFile body maxStack tables) :
    arguments.AreSound tree inputFile where
  operands := usable.operands
  noVersion := usable.noVersion
  noHelp := usable.noHelp
  noOutput := usable.noOutput
  input := by
    rcases usable.input with ⟨content, file, _⟩
    exact ⟨content, file⟩
  symbols := by
    intro path given
    rcases usable.symbols_of_some given with ⟨content, _, file, _⟩
    exact ⟨content, file⟩
  depth := fun _ given => ⟨maxStack, usable.depth_of_some given⟩

theorem maxStack_eq (usable : Usable tree arguments inputFile body maxStack tables) :
    arguments.maxStack = maxStack := by
  unfold Arguments.maxStack
  cases given : arguments.value? .maxStack with
  | none => exact (usable.depth_of_none given).symm
  | some text =>
      rw [Option.bind_some, usable.depth_of_some given]
      rfl

theorem isWritable_maxStack (usable : Usable tree arguments inputFile body maxStack tables) :
    Numeral.isWritable maxStack = true := by
  cases given : arguments.value? .maxStack with
  | none =>
      rw [usable.depth_of_none given]
      decide +kernel
  | some text => exact Numeral.isWritable_of_read (usable.depth_of_some given)

/-- Tables are loaded without lone surrogates, and fail with a text only. -/
theorem tables_plain (usable : Usable tree arguments inputFile body maxStack tables) :
    ∀ loaded ∈ tables, loaded.hasLone = false ∧ loaded.TellFailures := by
  intro loaded member
  cases given : arguments.value? .symbols with
  | none =>
      rw [usable.symbols_of_none given] at member
      cases member
  | some path =>
      rcases usable.symbols_of_some given with ⟨content, other, _, read, ordinary, same⟩
      rw [same] at member
      cases member
      exact ⟨ordinary, SymbolTables.tellFailures_of_ofFile read⟩

theorem ordinary (usable : Usable tree arguments inputFile body maxStack tables) :
    ∀ loaded ∈ tables, loaded.hasLone = false := fun loaded member =>
  (usable.tables_plain loaded member).1

theorem failuresAreTold (usable : Usable tree arguments inputFile body maxStack tables) :
    FailuresAreTold (tables.map SymbolTables.toResolver) := by
  intro host known
  rcases Option.map_eq_some_iff.mp known with ⟨loaded, member, rfl⟩
  exact (usable.tables_plain loaded member).2.toResolver

end Usable

/-- The method that arguments describe. -/
def methodOf (arguments : Arguments) (body : List UInt8) (maxStack : Int)
    (tables : Option SymbolTables) : Method :=
  { body := some body.toArray
    maxStack
    locals := (arguments.values .local).mapIdx fun index typeName => ⟨index, some typeName⟩
    initLocals := arguments.hasFlag .initLocals
    resolver := tables.map SymbolTables.toResolver
    name := arguments.value? .name }

theorem toMethod_toRequest (usable : Usable tree arguments inputFile body maxStack tables) :
    (arguments.toRequest inputFile).toMethod body tables =
      methodOf arguments body maxStack tables := by
  rw [Request.toMethod, methodOf, ← usable.maxStack_eq]
  rfl

/-- An error that lies in the body is about decoding. -/
theorem ofDecodeError_of_isInBody {error : DecodeError} {reason : String}
    (isInBody : error.IsInBody reason) : Failure.ofDecodeError error = ⟨.decoding, reason⟩ := by
  have kind : FailureKind.ofTypeName error.typeName = .decoding := by
    have about := isInBody.about
    cases error
    case beforeStart | beyondWord | cutSingle | unwritable | host => cases about
    all_goals
      simp [FailureKind.ofTypeName, FailureKind.decodingErrors, DecodeError.typeName]
  rw [Failure.ofDecodeError, isInBody.message]
  dsimp only
  rw [Failure.raised, kind]

section Printing

variable (documented : library.WorksAsDocumented)
include documented

theorem echoed_plain {text : String} (free : Text.HasNoEscape text) :
    library.echoed text = text := by
  rw [CommandLibrary.echoed, documented.verbatim text free, WideText.toString_ofString]

theorem print_of_text (request : Request) (text : String) (failure : Option DecodeError)
    (log : String) :
    print library request ⟨.ofString text, failure⟩ log =
      finish library request ⟨.ofString text, failure⟩ (library.echoed text) log := by
  rcases documented.prints text with ⟨printed, arrives⟩
  have echoed : library.echoed text = printed := by
    rw [CommandLibrary.echoed, arrives, WideText.toString_ofString]
  rw [print]
  dsimp only
  rw [arrives, WideText.toText_ofString, echoed]

theorem print_tells (request : Request) {text : String} {failure : Option DecodeError}
    (inBody : ∀ error ∈ failure, ∃ reason, error.IsInBody reason) (log : String) :
    (print library request ⟨.ofString text, failure⟩ log).Tells library text failure := by
  rw [print_of_text documented]
  cases failure with
  | none => exact ⟨rfl, echoed_plain documented, rfl, by simp⟩
  | some error =>
      rcases inBody error rfl with ⟨reason, isInBody⟩
      have free : Text.HasNoEscape ("Error: " ++ reason ++ "\n") :=
        .append (.append (by decide) isInBody.plain) (by decide)
      have reported : finish library request ⟨.ofString text, some error⟩ (library.echoed text)
          log = ⟨1, library.echoed text, log ++ ("Error: " ++ reason ++ "\n")⟩ := by
        simp [finish, ofDecodeError_of_isInBody isInBody, Failure.exitCode, said, Failure.texts,
          echoed_plain documented free]
      rw [reported]
      refine ⟨rfl, echoed_plain documented, rfl, ?_⟩
      rintro _ ⟨⟩
      exact ⟨log, reason, isInBody.message, rfl⟩

end Printing

/-- What reading the file of symbols gives, if a request names one. -/
inductive SymbolsRead (tree : FileTree) (request : Request) :
    Option (Except FileError (List UInt8)) → Prop where
  | none (noFile : request.symbolsFile = none) : SymbolsRead tree request none
  | file (path : String) (content : Except FileError (List UInt8))
      (named : request.symbolsFile = some path)
      (run : FileTree.fileSystem.readBytes path tree = (content, tree)) :
      SymbolsRead tree request (some content)

/-- The report of what has been laid out, or of why nothing has. -/
def conclude (library : CommandLibrary (StateM FileTree)) (request : Request) (log : String) :
    Except Failure Disassembly → Report
  | .error failure => fail library request failure log
  | .ok disassembly => print library request disassembly log

theorem perform_of_reads {request : Request} {config : Config}
    {result : Except Failure Disassembly} {input : Except FileError (List UInt8)}
    {symbols : Option (Except FileError (List UInt8))} {log : String}
    (inputRead : FileTree.fileSystem.readBytes request.inputFile tree = (input, tree))
    (symbolsRead : SymbolsRead tree request symbols) (noOutput : request.outputFile = none)
    (shown : request.disassemble library config input symbols "" = (result, log)) :
    perform library FileTree.fileSystem config request tree =
      (conclude library request log result, tree) := by
  rw [perform, state_bind_of_eq inputRead]
  cases symbolsRead with
  | none noFile =>
      simp only [noFile, noOutput, shown, pure_bind]
      cases result <;> rfl
  | file path content named run =>
      have mapped : (some <$> FileTree.fileSystem.readBytes path) tree = (some content, tree) := by
        rw [map_eq_pure_bind, state_bind_of_eq run]
        rfl
      simp only [named]
      rw [state_bind_of_eq mapped]
      simp only [noOutput, shown]
      cases result <;> rfl

variable {environment : String → Option String} {args : List String}

/-- A usable command reports on what is laid out for it. -/
theorem run_of_usable (usable : Usable tree arguments inputFile body maxStack tables)
    (given : library.parse FileTree.fileSystem args tree =
      (.ok (arguments.toRequest inputFile), tree)) {result : Except Failure Disassembly}
    (shown : ∀ log, ∃ reached, (arguments.toRequest inputFile).layOut library
      (Config.ofEnvironment environment) body tables log = (result, reached)) :
    ∃ log, run library FileTree.fileSystem environment args tree =
      (conclude library (arguments.toRequest inputFile) log result, tree) := by
  rw [run, state_bind_of_eq given]
  dsimp only
  rcases usable.input with ⟨content, file, read⟩
  have inputRead : FileTree.fileSystem.readBytes (arguments.toRequest inputFile).inputFile tree =
      (.ok content, tree) := by
    have path : (arguments.toRequest inputFile).inputFile = Path.normal inputFile := rfl
    rw [path, file.read_normal]
  have noOutput : (arguments.toRequest inputFile).outputFile = none := by
    simp [Arguments.toRequest, usable.noOutput]
  cases chosen : arguments.value? .symbols with
  | none =>
      cases usable.symbols_of_none chosen
      have noFile : (arguments.toRequest inputFile).symbolsFile = none := by
        simp [Arguments.toRequest, chosen]
      rcases (arguments.toRequest inputFile).disassemble_noSymbols library read _ "" with
        ⟨middle, run⟩
      rcases shown middle with ⟨log, laidOut⟩
      exact ⟨log, perform_of_reads inputRead (.none noFile) noOutput (run.trans laidOut)⟩
  | some path =>
      rcases usable.symbols_of_some chosen with ⟨bytes, loaded, symbolsFile, load, _, rfl⟩
      have named : (arguments.toRequest inputFile).symbolsFile = some (Path.normal path) := by
        simp [Arguments.toRequest, chosen]
      rcases (arguments.toRequest inputFile).disassemble_symbols library read load _ "" with
        ⟨middle, run⟩
      rcases shown middle with ⟨log, laidOut⟩
      exact ⟨log, perform_of_reads inputRead (.file _ _ named symbolsFile.read_normal)
        noOutput (run.trans laidOut)⟩

theorem run_tells (documented : library.WorksAsDocumented)
    (usable : Usable tree arguments inputFile body maxStack tables)
    (given : library.parse FileTree.fileSystem args tree =
      (.ok (arguments.toRequest inputFile), tree)) {text : String} {failure : Option DecodeError}
    (shown : ∀ log, ∃ reached, (arguments.toRequest inputFile).layOut library
      (Config.ofEnvironment environment) body tables log =
        (.ok ⟨.ofString text, failure⟩, reached))
    (inBody : ∀ error ∈ failure, ∃ reason, error.IsInBody reason) :
    ∃ report, run library FileTree.fileSystem environment args tree = (report, tree) ∧
      report.Tells library text failure := by
  rcases run_of_usable usable given shown with ⟨log, performed⟩
  exact ⟨_, performed, print_tells documented _ inBody log⟩

theorem hasWritableNumbers_methodOf
    (usable : Usable tree arguments inputFile body maxStack tables)
    (few : (arguments.values .local).length ≤ Nat.pow 10 Numeral.maxDigits) :
    Listing.HasWritableNumbers (methodOf arguments body maxStack tables) := by
  refine ⟨?_, usable.isWritable_maxStack⟩
  intro slot member
  rcases List.mem_mapIdx.mp member with ⟨index, inside, rfl⟩
  exact decide_eq_true (Nat.lt_of_lt_of_le inside few)

/-- An offset outside the body that is too long to be written leaves no text of a snippet. -/
theorem appendSnippet_of_long {method : Method} {data : Array UInt8}
    (present : method.body = some data) {offset : Int}
    (outside : ¬ (0 ≤ offset ∧ offset ≤ data.size)) (long : ¬ Numeral.isWritable offset = true)
    (withBytes : Bool) (buffer : TextBuffer) :
    method.appendSnippet offset withBytes buffer = (buffer, some .unwritable) := by
  have opened : Cursor.openAt method.body offset = .error .unwritable := by
    rw [present, Cursor.openAt, if_neg outside, DecodeError.misplaced, if_neg long]
  rw [Method.appendSnippet, opened]

theorem run_of_long (usable : Usable tree arguments inputFile body maxStack tables)
    (given : library.parse FileTree.fileSystem args tree =
      (.ok (arguments.toRequest inputFile), tree)) {text : String} {offset : Int}
    (offsetGiven : arguments.value? .offset = some text)
    (read : Numeral.readSpelled text = .ok offset)
    (long : ¬ (Numeral.isWritable offset = true ∨ 0 ≤ offset ∧ offset ≤ body.length)) :
    ∃ report, run library FileTree.fileSystem environment args tree = (report, tree) ∧
      report.exitCode = 2 ∧ report.stdout = "" := by
  have outside : ¬ (0 ≤ offset ∧ offset ≤ body.toArray.size) := fun inside =>
    long (.inr (by simpa using inside))
  have shown (withBytes : Bool) : ((arguments.toRequest inputFile).toMethod body
      tables).appendSnippet offset withBytes (.ofString "") = (.ofString "", some .unwritable) :=
    appendSnippet_of_long rfl outside (fun short => long (.inl short)) withBytes _
  rcases run_of_usable usable given fun log =>
    (arguments.toRequest inputFile).layOut_broken library offsetGiven read (shown _) rfl log with
    ⟨log, ran⟩
  exact ⟨_, ran, rfl, rfl⟩

/--
The report of a command that lists a whole body tells the listing and, if decoding stops, why; that
of a command with an offset tells the snippet there, as far as it got. The files stay as they are.
This holds for every environment and every library that works as documented, unless a number that
has to be written is too long for that. An offset that can be read but is too long to be called
outside the body makes the input bad.
-/
theorem command_reports_decoding (library : CommandLibrary (StateM FileTree))
    (documented : library.WorksAsDocumented) (tree : FileTree)
    (environment : String → Option String) (arguments : Arguments) (inputFile : String)
    (body : List UInt8) (maxStack : Int) (tables : Option SymbolTables)
    (usable : Usable tree arguments inputFile body maxStack tables) :
    let method := methodOf arguments body maxStack tables
    let withBytes := arguments.hasFlag .bytes || (Config.ofEnvironment environment).includeRawBytes
    let request := arguments.toRequest inputFile
    library.parse FileTree.fileSystem arguments.spelled tree = (.ok request, tree) ∧
    ∀ args, library.parse FileTree.fileSystem args tree = (.ok request, tree) →
      (arguments.value? .offset = none →
        (arguments.values .local).length ≤ Nat.pow 10 Numeral.maxDigits →
        ∃ listing report, Listing.ofMethod method withBytes = .ok listing ∧
          run library FileTree.fileSystem environment args tree = (report, tree) ∧
          (∀ records, method.disassemble = .ok records →
            report.Tells library (Request.endLine listing.text) none) ∧
          ∀ error, method.disassemble = .error error →
            report.Tells library (Request.endLine listing.text) (some error)) ∧
      ∀ text offset, arguments.value? .offset = some text →
        Numeral.readSpelled text = .ok offset →
        (Numeral.isWritable offset = true ∨ 0 ≤ offset ∧ offset ≤ body.length →
          let written := method.appendSnippet offset withBytes (.ofString "")
          ∃ report, run library FileTree.fileSystem environment args tree = (report, tree) ∧
            report.Tells library (written.1.toString ++ "\n") written.2) ∧
        (¬ (Numeral.isWritable offset = true ∨ 0 ≤ offset ∧ offset ≤ body.length) →
          ∃ report, run library FileTree.fileSystem environment args tree = (report, tree) ∧
            report.exitCode = 2 ∧ report.stdout = "") := by
  intro method withBytes request
  have same : request.toMethod body tables = method := toMethod_toRequest usable
  have told : FailuresAreTold method.resolver := usable.failuresAreTold
  refine ⟨documented.parses tree arguments inputFile usable.areSound, ?_⟩
  intro args given
  constructor
  · intro noOffset few
    rcases Listing.exists_shows_of_told withBytes
      (.inr (hasWritableNumbers_methodOf usable few)) told with ⟨listing, listed, shows⟩
    have requested : Listing.ofMethod (request.toMethod body tables) withBytes = .ok listing := by
      rw [same, listed]
    rcases run_tells documented usable given
      (fun log => request.layOut_listing library usable.ordinary noOffset requested log)
      (shows.isInBody told) with ⟨report, ran, tells⟩
    refine ⟨listing, report, listed, ran, ?_, ?_⟩
    · intro records decoded
      rwa [shows.complete.mpr ⟨records, decoded⟩] at tells
    · intro error decoded
      rwa [(shows.cut error decoded).1] at tells
  · intro text offset offsetGiven read
    constructor
    · intro placed written
      have opens : Numeral.isWritable offset = true ∨
          ∃ cursor, Cursor.openAt method.body offset = .ok cursor := by
        refine placed.imp_right fun inside => ⟨_, if_pos ?_⟩
        simpa using inside
      have inBody : ∀ error ∈ written.2, ∃ reason, error.IsInBody reason := fun error failed =>
        Method.isInBody_of_appendSnippet told opens failed
      have about : ∀ error ∈ written.2, error.isAboutBody = true := by
        intro error failed
        rcases inBody error failed with ⟨reason, isInBody⟩
        exact isInBody.about
      have shown : (request.toMethod body tables).appendSnippet offset withBytes (.ofString "") =
          (written.1, written.2) := by
        rw [same]
      exact run_tells documented usable given (fun log => request.layOut_snippet library
        usable.ordinary offsetGiven read shown about log) inBody
    · exact run_of_long usable given offsetGiven read

/-- A call and half an opcode, spelled in digits with a comment, with a name for the callee. Bytes
are asked for by the environment. -/
theorem command_reports_decoding_of_cut_body :
    let text := "28 01 00 00 06 ; call\nFE".toUTF8.data.toList
    let names := "\x7b\"methods\": \x7b\"0x06000001\": \"A::B\"\x7d\x7d".toUTF8.data.toList
    let tree : FileTree := ⟨[(["in", "body.txt"], .file text), (["names.json"], .file names)]⟩
    let arguments : Arguments :=
      { options := [.flag .hex, .setting .maxStack " +3", .setting .local "int",
          .setting .symbols "./names.json", .setting .name "Main"]
        operands := ["in//body.txt"] }
    let environment (name : String) := if name = "TINYIL_RAW_BYTES" then some " Yes" else none
    let tables := (SymbolTables.ofFile names).toOption
    let reason := "need 1 byte(s) but only 0 remain in 6-byte IL buffer (at IL offset 0006)"
    (CommandLibrary.plain : CommandLibrary (StateM FileTree)).WorksAsDocumented ∧
      Usable tree arguments "in//body.txt" [0x28, 1, 0, 0, 6, 0xFE] 3 tables ∧
      ∃ report, run .plain FileTree.fileSystem environment arguments.spelled tree =
          (report, tree) ∧
        report.exitCode = 1 ∧
        report.stdout = reason ++ "\n.method Main()\n\x7b\n  .locals (\n    [0] int\n  )\n" ++
          "  .maxstack 3\n\n  0000: call A::B $2801000006\n  0005: \n" ∧
        ∃ log, report.stderr = log ++ ("Error: " ++ reason ++ "\n") := by
  intro text names tree arguments environment tables reason
  have usable : Usable tree arguments "in//body.txt" [0x28, 1, 0, 0, 6, 0xFE] 3 tables := by
    have depth : Numeral.read 10 (WideText.ofString " +3") = .ok 3 := by decide +kernel
    have loads : (SymbolTables.ofFile names).toOption.any (!·.hasLone) = true := by decide +kernel
    refine ⟨rfl, rfl, rfl, rfl, ⟨text, ⟨by decide +kernel, by decide⟩, by decide +kernel⟩,
      depth, names, ?_⟩
    cases read : SymbolTables.ofFile names with
    | error error =>
        rw [read] at loads
        cases loads
    | ok loaded =>
        rw [read] at loads
        refine ⟨loaded, ⟨by decide +kernel, by decide⟩, rfl, ?_, ?_⟩
        · simpa [Except.toOption] using loads
        · simp [tables, read, Except.toOption]
  have documented := CommandLibrary.worksAsDocumented_plain
  refine ⟨documented, usable, ?_⟩
  rcases command_reports_decoding _ documented tree environment arguments _ _ _ _ usable with
    ⟨parsed, reports⟩
  rcases (reports _ parsed).1 rfl (by decide +kernel) with ⟨listing, report, listed, ran, _, tells⟩
  let method := methodOf arguments [0x28, 1, 0, 0, 6, 0xFE] 3 tables
  let body := "\n.method Main()\n\x7b\n  .locals (\n    [0] int\n  )\n" ++
    "  .maxstack 3\n\n  0000: call A::B $2801000006\n  0005: "
  have stopped : method.disassemble = .error (.outOfBounds 1 6 6) := by decide +kernel
  have withBytes : (arguments.hasFlag .bytes ||
      (Config.ofEnvironment environment).includeRawBytes) = true := by decide +kernel
  have shown : (Listing.ofMethod method true).map (·.text) = .ok (reason ++ body) := by
    decide +kernel
  rw [withBytes] at listed
  rw [listed] at shown
  have told := tells _ stopped
  have same : listing.text = reason ++ body := Except.ok.inj shown
  have message : (DecodeError.outOfBounds 1 6 6).message = .ok reason := by decide +kernel
  rcases told.stderr _ rfl with ⟨log, said, given, ending⟩
  cases message.symm.trans given
  refine ⟨report, ran, told.exitCode, ?_, log, ending⟩
  rw [same] at told
  refine (told.verbatim (by decide +kernel)).trans ?_
  decide +kernel

/--
An offset that can be read but not written in decimal digits makes the input bad, although the
snippet there only lies outside the body.
-/
theorem long_offset_is_bad_input :
    let tree : FileTree := ⟨[(["body.bin"], .file [0x2a])]⟩
    let offset := String.ofList ('0' :: 'x' :: '1' :: List.replicate 3600 '0')
    (∃ number : Nat, Numeral.readSpelled offset = .ok number ∧ 1 < number) ∧
      (run .plain FileTree.fileSystem (fun _ => none) ["body.bin", "--offset", offset]
        tree).1.exitCode = 2 := by
  intro tree offset
  -- The digits are too many to be evaluated one by one, so the text stays a variable at first.
  have refused {text : String} {number : Nat} (read : Numeral.readSpelled text = .ok number)
      (long : ¬ Numeral.isWritable number = true) (outside : 1 < number) :
      (run .plain FileTree.fileSystem (fun _ => none) ["body.bin", "--offset", text]
        tree).1.exitCode = 2 := by
    have usable : Usable tree ⟨[.setting .offset text], ["body.bin"]⟩ "body.bin" [0x2a] 8 none :=
      ⟨rfl, rfl, rfl, rfl, ⟨[0x2a], ⟨by decide +kernel, by decide⟩, rfl⟩, rfl, rfl⟩
    have spelled : Arguments.read ["body.bin", "--offset", text] =
        .ok ⟨[.setting .offset text], ["body.bin"]⟩ := rfl
    have given : CommandLibrary.plain.parse FileTree.fileSystem ["body.bin", "--offset", text]
        tree = (.ok (Arguments.toRequest ⟨[.setting .offset text], ["body.bin"]⟩ "body.bin"),
          tree) :=
      parse_of_read spelled usable.areSound
    have far : ¬ (Numeral.isWritable number = true ∨ 0 ≤ (number : Int) ∧ (number : Int) ≤ 1) := by
      rintro (short | ⟨_, inside⟩)
      · exact long short
      · omega
    rcases run_of_long usable given rfl read far with ⟨report, ran, code, _⟩
    rw [ran]
    exact code
  have far : ∃ number : Nat, Numeral.readSpelled offset = .ok number ∧
      ¬ Numeral.isWritable number = true ∧ 1 < number :=
    ⟨_, Numeral.readSpelled_one_zeros 3600, by decide +kernel, by decide +kernel⟩
  rcases far with ⟨number, read, long, outside⟩
  exact ⟨⟨number, read, outside⟩, refused read long outside⟩

end Command

end CilTrace
