import CilTrace.Value

/-!
Symbols: what metadata tokens name, and how each is written.

Types of the core library have short names; other types carry their assembly in brackets. A method
or field without a declaring type has an empty text. The text of a host's own object, and of a value
that holds a number too long to be written, may not be had.
-/

namespace CilTrace

inductive Symbol where
  /-- A name that is already written out. -/
  | plain (value : Value)
  | type (fullName : String) (assembly : Option String)
  | method (declaringType : Option Symbol) (name : String) (parameters : List Symbol)
  | field (fieldType : Symbol) (declaringType : Option Symbol) (name : String)
  | parameter (type : Symbol) (byRef : Bool) (out : Bool)
  /-- A property, an event or another member that is known by name only. -/
  | named (name : String)
  /-- Any other object of a host, by what asking for its text comes to. -/
  | object (text : Except HostFailure String)

namespace Symbol

/-- The short names of core types. -/
def shortNames : List (String × String) :=
  [("System.Int32", "int"), ("System.UInt32", "uint"), ("System.Int64", "long"),
    ("System.UInt64", "ulong"), ("System.Int16", "short"), ("System.UInt16", "ushort"),
    ("System.SByte", "sbyte"), ("System.Byte", "byte"), ("System.Single", "float"),
    ("System.Double", "double"), ("System.Boolean", "bool"), ("System.String", "string"),
    ("System.Char", "char")]

/-- The text of a type: its short name, or its full name behind its assembly. -/
def typeText (fullName : String) (assembly : Option String) : String :=
  match shortNames.lookup fullName with
  | some short => short
  | none =>
      let assembly := assembly.getD ""
      if assembly.isEmpty then fullName else "[" ++ assembly ++ "]" ++ fullName

mutual

/-- The text of a symbol in an operand. -/
def text : Symbol → Except HostFailure String
  | plain value => value.display.mapError HostFailure.ofNumeralError
  | type fullName assembly => .ok (typeText fullName assembly)
  | method none _ _ => .ok ""
  | method (some owner) name parameters => do
      let listed := String.intercalate ", " (← texts parameters)
      return (← owner.text) ++ "." ++ name ++ "(" ++ listed ++ ")"
  | field _ none _ => .ok ""
  | field fieldType (some owner) name => do
      return (← fieldType.text) ++ " " ++ (← owner.text) ++ "::" ++ name
  | parameter inner byRef out => do
      return (if byRef then "ref " else "") ++ (if out then "out " else "") ++ (← inner.text)
  | named name => .ok name
  | object text => text

def texts : List Symbol → Except HostFailure (List String)
  | [] => .ok []
  | symbol :: symbols => do return (← symbol.text) :: (← texts symbols)

end

/-- The text of a symbol as a member: a type goes by its full name. -/
def memberText : Symbol → Except HostFailure String
  | type fullName _ => .ok fullName
  | symbol => symbol.text

/-- The text of a symbol, with the lone surrogates of a name that is already written out. -/
def rendering : Symbol → Except HostFailure WideText
  | plain value => value.rendering.mapError HostFailure.ofNumeralError
  | symbol => symbol.text.map WideText.ofString

/-- The text of a symbol as a member, likewise. -/
def memberRendering : Symbol → Except HostFailure WideText
  | type fullName _ => .ok fullName
  | symbol => symbol.rendering

/-- Whether a method is a constructor, of instances or of the type. -/
def isConstructor : Symbol → Bool
  | method _ name _ => name == ".ctor" || name == ".cctor"
  | _ => false

/-- A string literal between double quotes. -/
def literalText (content : String) : String :=
  "\"" ++ content ++ "\""

/-- A string literal between double quotes, with its lone surrogates. -/
def literalRendering (content : WideText) : WideText :=
  ⟨.char '"' :: content.points ++ [.char '"']⟩

/-- Whether the text of a name that is already written out has a lone surrogate. -/
def hasLone : Symbol → Bool
  | plain (.text content) => content.hasLone
  | _ => false

/-- A symbol in whose name lone surrogates have stand-ins. -/
def withStandIns (standIn : Nat → Char) : Symbol → Symbol
  | plain (.text content) => plain (.text (content.toStringBy standIn))
  | symbol => symbol

end Symbol

end CilTrace
