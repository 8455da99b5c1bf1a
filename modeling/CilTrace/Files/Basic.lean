import CilTrace.Text.Numeral

/-!
Files by name: what may go wrong with them, how their names are written, and what a program needs of
a file system.
-/

namespace CilTrace

inductive EntryKind where
  | file
  | directory
deriving DecidableEq, Repr

/-- Why a file cannot be read or written. -/
inductive FileFault where
  | denied
  | notFound
  | notDirectory
  | isDirectory
  | nameTooLong
  /-- Any other fault that a system reports. -/
  | other (code : Nat) (reason : String)
deriving DecidableEq, Repr

namespace FileFault

/-- The number of a fault in messages. -/
def code : FileFault → Nat
  | denied => 13
  | notFound => 2
  | notDirectory => 20
  | isDirectory => 21
  | nameTooLong => 36
  | other code _ => code

def reason : FileFault → String
  | denied => "Permission denied"
  | notFound => "No such file or directory"
  | notDirectory => "Not a directory"
  | isDirectory => "Is a directory"
  | nameTooLong => "File name too long"
  | other _ reason => reason

/-- The names that faults have in traces. -/
def typeNames : List (List Nat × String) :=
  [([2], "FileNotFoundError"), ([1, 13], "PermissionError"), ([20], "NotADirectoryError"),
    ([21], "IsADirectoryError"), ([17], "FileExistsError"), ([4], "InterruptedError"),
    ([3], "ProcessLookupError"), ([10], "ChildProcessError"), ([11, 114, 115], "BlockingIOError"),
    ([32, 108], "BrokenPipeError"), ([103], "ConnectionAbortedError"),
    ([104], "ConnectionResetError"), ([111], "ConnectionRefusedError"), ([110], "TimeoutError")]

/-- The name of the fault with a number. -/
def typeName (code : Nat) : String :=
  match typeNames.find? fun entry => entry.1.contains code with
  | some entry => entry.2
  | none => "OSError"

/-- The description of a fault; the last argument is the quoted name of the file. -/
def describe (code reason : String) (quotedPath : Option String) : String :=
  "[Errno " ++ code ++ "] " ++ reason ++
    match quotedPath with
    | none => ""
    | some path => ": " ++ path

end FileFault

structure FileError where
  fault : FileFault
  path : String
deriving DecidableEq, Repr

namespace FileError

def message (error : FileError) : String :=
  FileFault.describe error.fault.code.repr error.fault.reason (some (Text.quoted error.path))

end FileError

namespace Path

/-- The parts of a text between its slashes. -/
def split : List Char → List (List Char)
  | [] => [[]]
  | char :: rest =>
      if char = '/' then [] :: split rest
      else match split rest with
        | [] => [[char]]
        | part :: parts => (char :: part) :: parts

/-- The names on a path; two slashes in a row enclose an empty one. -/
def names (path : String) : List String :=
  (split path.toList).map String.ofList

/-- The slashes that begin an absolute path: two stay two, more become one. -/
def root (path : String) : String :=
  match (path.toList.takeWhile (· == '/')).length with
  | 0 => ""
  | 2 => "//"
  | _ => "/"

/-- A path without needless slashes and dots; the empty path is the current directory. -/
def normal (path : String) : String :=
  let kept := (names path).filter fun name => !name.isEmpty && name != "."
  let text := root path ++ String.intercalate "/" kept
  if text.isEmpty then "." else text

example : normal "./a//b/" = "a/b" := by decide +kernel

end Path

/-- What a program needs of a file system. -/
structure FileSystem (m : Type → Type) where
  /-- What there is under a path. -/
  kindOf : String → m (Option EntryKind)
  readBytes : String → m (Except FileError (List UInt8))
  /-- Puts a text into a file, which is made if there is none. -/
  writeText : String → String → m (Except FileError Unit)

end CilTrace
