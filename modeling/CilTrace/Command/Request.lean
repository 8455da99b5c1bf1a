import CilTrace.Command.Failure
import CilTrace.Config
import CilTrace.Listing

/-!
The text that a request asks for.
-/

namespace CilTrace

/-- A step of a command: it adds to the lines on standard error, also when it fails. -/
abbrev Logged := ExceptT Failure (StateM String)

namespace Logged

def add (text : String) : Logged Unit :=
  modify fun log => log ++ text

/-- Prints a line. -/
def line {m : Type → Type} (library : CommandLibrary m) (text : String) : Logged Unit :=
  add (library.echoed (text ++ "\n"))

/-- The lines of a part of the program that only a verbose command shows. -/
def debug (part : String) (notes : List String) : Logged Unit :=
  notes.forM fun note => add ("DEBUG: tinyil." ++ part ++ ": " ++ note ++ "\n")

end Logged

/-- The text of a command, and why it stops short if it does. The text may hold surrogates that a
symbol file spells. -/
structure Disassembly where
  text : WideText
  failure : Option DecodeError
deriving DecidableEq, Repr

namespace Request

open Logged

variable {m : Type → Type} (library : CommandLibrary m)

/-- The method that a request is about. -/
def toMethod (request : Request) (body : List UInt8) (tables : Option SymbolTables) : Method :=
  { body := some body.toArray
    maxStack := request.maxStack
    locals := request.locals.mapIdx fun index typeName => ⟨index, some typeName⟩
    initLocals := request.initLocals
    resolver := tables.map SymbolTables.toResolver
    name := request.name }

/-- The text that is laid out with symbol tables. Names with lone surrogates are laid out twice, with
different stand-ins for them. -/
def wideText (tables : Option SymbolTables)
    (layOut : Option SymbolTables → Except Failure String) : Except Failure WideText := do
  match tables with
  | none => return .ofString (← layOut none)
  | some tables =>
      if tables.hasLone then
        return .ofLayouts (← layOut (some (tables.withStandIns WideText.firstStandIn)))
          (← layOut (some (tables.withStandIns WideText.secondStandIn)))
      else return .ofString (← layOut (some tables))

/-- Does something only if the request is verbose. -/
def whenVerbose (request : Request) (step : Logged Unit) : Logged Unit :=
  if request.verbose then step else return ()

/-- The tables of the symbol file. -/
def loadSymbols (request : Request) (path : String) (content : Except FileError (List UInt8)) :
    Logged SymbolTables := do
  let bytes ← content.mapError Failure.ofFileError
  let tables ← (SymbolTables.ofFile bytes).mapError Failure.ofSymbolError
  request.whenVerbose do
    debug "symbols" [tables.sizesNote]
    line library ("Symbols: " ++ path)
  return tables

/-- The text of a snippet, on a line of its own, and the error about the body that it stops at. Other
errors leave no text. -/
def snippetText (request : Request) (body : List UInt8) (withBytes : Bool) (offset : Int)
    (tables : Option SymbolTables) : Except Failure (String × Option DecodeError) :=
  match (request.toMethod body tables).appendSnippet offset withBytes (.ofString "") with
  | (buffer, none) => .ok (buffer.toString ++ "\n", none)
  | (buffer, some error) =>
      if error.isAboutBody then .ok (buffer.toString ++ "\n", some error)
      else .error (.ofDecodeError error)

/-- The snippet at an offset. -/
def snippet (request : Request) (body : List UInt8) (tables : Option SymbolTables)
    (withBytes : Bool) (offset : String) : Logged Disassembly := do
  let offset ← (Numeral.readSpelled offset).mapError Failure.ofNumeralError
  request.whenVerbose (debug "disassembler.operands"
    ((request.toMethod body tables).resolutionNotes offset 2))
  let layOut := request.snippetText body withBytes offset
  let (_, failure) ← layOut tables
  return ⟨← wideText tables fun tables => (layOut tables).map (·.1), failure⟩

/-- A text with a line feed at its end. -/
def endLine (text : String) : String :=
  if text.toList.getLast? = some '\n' then text else text ++ "\n"

/-- The listing of a whole body. -/
def listing (request : Request) (body : List UInt8) (tables : Option SymbolTables)
    (withBytes : Bool) : Logged Disassembly := do
  let layOut (tables : Option SymbolTables) : Except Failure Listing :=
    (Listing.ofMethod (request.toMethod body tables) withBytes).mapError Failure.ofHostFailure
  request.whenVerbose (debug "disassembler.operands"
    ((request.toMethod body tables).resolutionNotes 0 body.length))
  let listing ← layOut tables
  request.whenVerbose do
    debug "disassembler.method" listing.note?.toList
    match listing.count with
    | some count => line library ("Instructions disassembled: " ++ count.repr)
    | none => return ()
  return ⟨← wideText tables fun tables => (layOut tables).map fun listing => endLine listing.text,
    listing.failure⟩

/-- The text of a request, from the contents of its files. -/
def disassemble (request : Request) (config : Config) (input : Except FileError (List UInt8))
    (symbols : Option (Except FileError (List UInt8))) : Logged Disassembly := do
  let content ← input.mapError Failure.ofFileError
  let body ← (BodyFile.read request.inputIsText content).mapError Failure.ofBodyFileError
  request.whenVerbose (line library ("Input file: " ++ request.inputFile ++ " (" ++
    body.length.repr ++ " bytes)"))
  let tables ← match symbols with
    | none => pure none
    | some content => some <$> request.loadSymbols library (request.symbolsFile.getD "") content
  let withBytes := request.withBytes || config.includeRawBytes
  match request.offset with
  | some offset => request.snippet body tables withBytes offset
  | none => request.listing library body tables withBytes

end Request

end CilTrace
