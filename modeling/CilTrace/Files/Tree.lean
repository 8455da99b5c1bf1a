import CilTrace.Files.Basic

/-!
A tree of files as a value.

The tree is what can be reached from the current directory. Directories are those that are entered as
such and those that hold something. Of what lies outside, only the directories on the way up, the
standard directories of a system and its null device are known; otherwise they are empty.
-/

namespace CilTrace

inductive FileEntry where
  | file (content : List UInt8)
  | directory
deriving DecidableEq, Repr

namespace FileEntry

def kind : FileEntry → EntryKind
  | file _ => .file
  | directory => .directory

end FileEntry

/-- Entries by the names on the way to them. -/
structure FileTree where
  entries : List (List String × FileEntry)
deriving DecidableEq, Repr

/-- A place in or outside a tree. -/
inductive Place where
  | inside (names : List String)
  /-- A directory on the way up. -/
  | above
  /-- A name in a directory on the way up. -/
  | beside
  /-- The names on the way from the root of the system. -/
  | system (names : List String)
deriving DecidableEq, Repr

namespace FileTree

/-- The longest name that an entry may have, in bytes. -/
def maxNameSize : Nat := 255

/-- The longest path that is followed, in bytes. -/
def maxPathSize : Nat := 4095

/-- The standard directories at the root of a system. -/
def systemDirectories : List String :=
  ["bin", "boot", "dev", "etc", "home", "lib", "media", "mnt", "opt", "proc", "root", "run", "sbin",
    "srv", "sys", "tmp", "usr", "var"]

/-- What there is in a system on the way from its root. The null device reads as an empty file. -/
def systemEntry? : List String → Option FileEntry
  | [] => some .directory
  | [name] => if systemDirectories.contains name then some .directory else none
  | ["dev", "null"] => some (.file [])
  | _ => none

/-- What there is at a place. -/
def entry? (tree : FileTree) : Place → Option FileEntry
  | .above => some .directory
  | .beside => none
  | .system names => systemEntry? names
  | .inside [] => some .directory
  | .inside names =>
      match tree.entries.lookup names with
      | some entry => some entry
      | none =>
          if tree.entries.any fun entry => names.isPrefixOf entry.1 then some .directory else none

/-- One step from a directory. -/
def step (place : Place) (name : String) : Except FileFault Place :=
  if maxNameSize < name.utf8ByteSize then .error .nameTooLong
  else if name.isEmpty || name == "." then .ok place
  else match place with
    | .inside [] => .ok (if name == ".." then .above else .inside [name])
    | .inside names => .ok (.inside (if name == ".." then names.dropLast else names ++ [name]))
    | .above => .ok (if name == ".." then .above else .beside)
    | .beside => .error .notFound
    | .system names => .ok (.system (if name == ".." then names.dropLast else names ++ [name]))

/-- Follows names from a place; every place that is left has to be a directory. -/
def follow (tree : FileTree) : Place → List String → Except FileFault Place
  | place, [] => .ok place
  | place, name :: rest =>
      match tree.entry? place with
      | none => .error .notFound
      | some (.file _) => .error .notDirectory
      | some .directory => do follow tree (← step place name) rest

/-- The place of a path. The empty path has none. -/
def locate (tree : FileTree) (path : String) : Except FileFault Place :=
  if path.isEmpty then .error .notFound
  else if maxPathSize < path.utf8ByteSize then .error .nameTooLong
  else follow tree (if path.toList.head? = some '/' then .system [] else .inside []) (Path.names path)

/-- What there is under a path. -/
def find? (tree : FileTree) (path : String) : Option FileEntry :=
  match tree.locate path with
  | .error _ => none
  | .ok place => tree.entry? place

def read (tree : FileTree) (path : String) : Except FileFault (List UInt8) := do
  match tree.entry? (← tree.locate path) with
  | none => throw .notFound
  | some .directory => throw .isDirectory
  | some (.file content) => return content

/-- Replaces the entry of some names, or adds one at the end. -/
def put (names : List String) (entry : FileEntry) :
    List (List String × FileEntry) → List (List String × FileEntry)
  | [] => [(names, entry)]
  | (others, old) :: rest =>
      if others = names then (names, entry) :: rest else (others, old) :: put names entry rest

/-- The tree with an entry at some names. -/
def insert (tree : FileTree) (names : List String) (entry : FileEntry) : FileTree :=
  ⟨put names entry tree.entries⟩

/-- The tree after a file is written. What is written outside is lost. -/
def write (tree : FileTree) (path : String) (content : List UInt8) :
    Except FileFault FileTree := do
  let place ← tree.locate path
  match place, tree.entry? place with
  | _, some .directory => throw .isDirectory
  | .inside names, _ => return tree.insert names (.file content)
  | _, _ => return tree

/-- A file system whose state is a tree. -/
def fileSystem : FileSystem (StateM FileTree) where
  kindOf path := do return ((← get).find? path).map FileEntry.kind
  readBytes path := do return ((← get).read path).mapError fun fault => ⟨fault, path⟩
  writeText path text := do
    match (← get).write path text.toUTF8.toList with
    | .error fault => return .error ⟨fault, path⟩
    | .ok tree => do
        set tree
        return .ok ()

/-- The names of an entry as a path. -/
def pathOf (names : List String) : String :=
  String.intercalate "/" names

end FileTree

end CilTrace
