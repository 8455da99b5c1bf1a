import CilTrace.Json
import CilTrace.Resolver
import CilTrace.Symbol.Basic
import CilTrace.Text.HexText
import CilTrace.Text.Lines
import CilTrace.Text.Utf8

/-!
Symbol tables.

There is one table for each kind of token. A token may be spelled in several ways; of several
entries for one token the last one counts. A member is looked up among members, methods, fields and
types, in this order.
-/

namespace CilTrace

/-- Entries by token, each token once, in the order of first appearance. -/
structure Table (α : Type) where
  entries : List (Int × α)

namespace Table

variable {α β : Type}

def empty : Table α := ⟨[]⟩

/-- Replaces the entry of a token, or adds one at the end. -/
def put (token : Int) (value : α) : List (Int × α) → List (Int × α)
  | [] => [(token, value)]
  | (other, old) :: rest =>
      if other = token then (token, value) :: rest else (other, old) :: put token value rest

def insert (table : Table α) (token : Int) (value : α) : Table α :=
  ⟨put token value table.entries⟩

/-- A table of entries of which later ones replace earlier ones of the same token. -/
def ofList (entries : List (Int × α)) : Table α :=
  entries.foldl (fun table entry => table.insert entry.1 entry.2) empty

def find? (table : Table α) (token : Int) : Option α :=
  table.entries.lookup token

def size (table : Table α) : Nat :=
  table.entries.length

def map (table : Table α) (change : α → β) : Table β :=
  ⟨table.entries.map fun (token, value) => (token, change value)⟩

/-- Changes every value, unless one cannot be changed. -/
def mapM {ε : Type} (table : Table α) (change : α → Except ε β) : Except ε (Table β) := do
  let entries ← table.entries.mapM fun (token, value) => do return (token, ← change value)
  return ⟨entries⟩

end Table

/-- A token without a symbol. -/
structure UnresolvedReference where
  kind : String
  token : Int
  reason : String
deriving DecidableEq, Repr

namespace UnresolvedReference

def message (error : UnresolvedReference) : String :=
  "cannot resolve " ++ error.kind ++ " token 0x" ++
    Hex.padded 8 (error.token % 0x100000000).toNat ++
    (if error.reason.isEmpty then "" else ": " ++ error.reason)

/-- The failure to find a token in its table. -/
def notInTable (kind : ReferenceKind) (token : Int) : UnresolvedReference :=
  ⟨kind.name, token, "token not in symbol table"⟩

end UnresolvedReference

/-- Why a token cannot be resolved. -/
inductive ResolveError where
  | unresolved (error : UnresolvedReference)
  /-- The token is in its table, but the text of its symbol cannot be had. -/
  | host (failure : HostFailure)
deriving DecidableEq, Repr

/-- The failure of a resolver that stops for such a reason. -/
def ResolveError.toFailure : ResolveError → HostFailure
  | unresolved error => .told "UnresolvedReferenceError" error.message
  | host failure => failure

structure SymbolTables where
  methods : Table Symbol := .empty
  fields : Table Symbol := .empty
  types : Table Symbol := .empty
  strings : Table Symbol := .empty
  members : Table Symbol := .empty
  signatures : Table (List UInt8) := .empty

namespace SymbolTables

/-- The symbol of a member token. -/
def member? (tables : SymbolTables) (token : Int) : Option Symbol :=
  ((tables.members.find? token).or (tables.methods.find? token)).or
    ((tables.fields.find? token).or (tables.types.find? token))

/-- What a token names: a text, or the blob of a signature. -/
def resolve (tables : SymbolTables) (kind : ReferenceKind) (token : Int) :
    Except ResolveError Value :=
  let answer : Option (Except HostFailure Value) :=
    match kind with
    | .method => (tables.methods.find? token).map fun symbol => symbol.rendering.map .text
    | .field => (tables.fields.find? token).map fun symbol => symbol.rendering.map .text
    | .type => (tables.types.find? token).map fun symbol => symbol.rendering.map .text
    | .string => (tables.strings.find? token).map fun symbol =>
        symbol.rendering.map fun content => .text (Symbol.literalRendering content)
    | .member => (tables.member? token).map fun symbol => symbol.memberRendering.map .text
    | .signature => (tables.signatures.find? token).map fun blob => .ok (.bytes blob)
  match answer with
  | some value => value.mapError .host
  | none => .error (.unresolved (.notInTable kind token))

/-- The tables as a resolver. -/
def toResolver (tables : SymbolTables) : Resolver where
  answer kind token :=
    ((tables.resolve kind token).mapError ResolveError.toFailure).map Value.toAnswer

/-- Whether a name in the tables has a lone surrogate. -/
def hasLone (tables : SymbolTables) : Bool :=
  [tables.methods, tables.fields, tables.types, tables.strings, tables.members].any fun table =>
    table.entries.any fun entry => entry.2.hasLone

/-- The tables with stand-ins for the lone surrogates in names. -/
def withStandIns (tables : SymbolTables) (standIn : Nat → Char) : SymbolTables :=
  { tables with
    methods := tables.methods.map (Symbol.withStandIns standIn)
    fields := tables.fields.map (Symbol.withStandIns standIn)
    types := tables.types.map (Symbol.withStandIns standIn)
    strings := tables.strings.map (Symbol.withStandIns standIn)
    members := tables.members.map (Symbol.withStandIns standIn) }

/-- A log line about the sizes of the tables. -/
def sizesNote (tables : SymbolTables) : String :=
  "Loaded symbol tables: " ++ tables.methods.size.repr ++ " methods, " ++
    tables.fields.size.repr ++ " fields, " ++ tables.types.size.repr ++ " types, " ++
    tables.strings.size.repr ++ " strings, " ++ tables.members.size.repr ++ " members, " ++
    tables.signatures.size.repr ++ " signatures"

end SymbolTables

/-! ## Loading -/

/-- A key under which a symbol is entered: a token, or the spelling of one. -/
inductive TokenKey where
  | number (token : Int)
  | text (spelling : WideText)
deriving DecidableEq, Repr

namespace TokenKey

def read : TokenKey → Except NumeralError Int
  | number token => .ok token
  | text spelling => Numeral.readSpelled spelling

end TokenKey

/-- Why symbol tables cannot be loaded. -/
inductive SymbolError where
  | encoding (error : Utf8Error)
  | json (error : JsonError)
  | token (error : NumeralError)
  | blob (error : HexTextError)
  /-- A value of the wrong kind where an object is needed to look something up. -/
  | noLookup (kind : String)
  /-- A value of the wrong kind where an object is needed to go through its entries. -/
  | noEntries (kind : String)
  /-- A signature that is not a text. -/
  | blobNotText (kind : String)
deriving DecidableEq, Repr

namespace SymbolError

def message : SymbolError → String
  | encoding error => error.message
  | json error => error.message
  | token error => error.message
  | blob error => error.message
  | noLookup kind => "'" ++ kind ++ "' object has no attribute 'get'"
  | noEntries kind => "'" ++ kind ++ "' object has no attribute 'items'"
  | blobNotText kind => "fromhex() argument must be str, not " ++ kind

/-- The name of an error in traces. -/
def typeName : SymbolError → String
  | encoding _ => "UnicodeDecodeError"
  | json (.malformed ..) => "JSONDecodeError"
  | json (.numeral ..) => "ValueError"
  | json (.tooDeep ..) => "RecursionError"
  | token _ => "ValueError"
  | blob _ => "ValueError"
  | noLookup _ => "AttributeError"
  | noEntries _ => "AttributeError"
  | blobNotText _ => "TypeError"

end SymbolError

namespace SymbolTables

/-- The entries under a name of an object; a void value has none. -/
def entriesOf (data : Value) (name : String) : Except SymbolError (List (WideText × Value)) :=
  match data with
  | .object _ =>
      match (data.field? name).getD .null with
      | .object entries => .ok entries
      | value => if value.isVoid then .ok [] else .error (.noEntries value.kindName)
  | value => .error (.noLookup value.kindName)

/-- An entry with its key read as a token. -/
def readEntry (entry : WideText × Value) : Except SymbolError (Int × Value) := do
  return (← (TokenKey.text entry.1).read.mapError .token, entry.2)

/-- The table under a name of an object, with its keys read as tokens. -/
def tableOf (data : Value) (name : String) : Except SymbolError (Table Value) := do
  return Table.ofList (← (← entriesOf data name).mapM readEntry)

/-- The blob of a signature entry. -/
def blobOf : Value → Except SymbolError (List UInt8)
  | .text content => (HexText.read content.chars).mapError .blob
  | .null => .error (.blobNotText "None")
  | value => .error (.blobNotText value.kindName)

/-- A table of names that are already written out. -/
def namesOf (data : Value) (name : String) : Except SymbolError (Table Symbol) := do
  return (← tableOf data name).map .plain

/-- Symbol tables from an object that holds any of the six tables. -/
def ofValue (data : Value) : Except SymbolError SymbolTables := do
  let signatures ← (← tableOf data "signatures").mapM blobOf
  let methods ← namesOf data "methods"
  let fields ← namesOf data "fields"
  let types ← namesOf data "types"
  let strings ← namesOf data "strings"
  let members ← namesOf data "members"
  return { methods, fields, types, strings, members, signatures }

/-- Symbol tables from the bytes of a JSON file. -/
def ofFile (bytes : List UInt8) : Except SymbolError SymbolTables := do
  let chars ← (Utf8.decode bytes).mapError .encoding
  let data ← (Json.read (Text.unifyLineEnds chars)).mapError .json
  ofValue data

end SymbolTables

end CilTrace
