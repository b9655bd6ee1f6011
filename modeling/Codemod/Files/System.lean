import Codemod.Files.Tree

/-!
# File systems

A `FileSystem` is everything from the top directory down, and the place of the working directory in
it. A path is looked up segment by segment, from the top when it starts with a slash and from the
working directory otherwise: empty segments and dots stay where they are, two dots go up, though
never above the top, and only directories have segments below them. Names and paths have a greatest
length.
-/
namespace Codemod

/-- The bytes that a name may have. -/
def nameLimit : Nat := 255

/-- The bytes that a path may not reach. -/
def pathLimit : Nat := 4096

namespace Path

/-- Has the path as many bytes as no path may have? -/
def isTooLong (path : Path) : Bool := pathLimit ≤ path.spelling.utf8ByteSize

/-- The segments of a path, where they may be looked up. -/
def lookups (path : Path) : Except Fault (List (List Char)) :=
  let cs := path.spelling.toList
  if cs.contains '\x00' then .error .zeroByte
  else if path.isTooLong then .error .nameTooLong
  else if cs.isEmpty then .error .missing
  else .ok (segments cs)

end Path

/-- The names that segments lead to, from a place on. -/
def Tree.walk (t : Tree) : List String → List (List Char) → Except Fault (List String)
  | names, [] => .ok names
  | names, segment :: rest =>
    match t.get? names with
    | none => .error .missing
    | some (.file _) => .error .notDirectory
    | some (.dir entries) =>
      let name := String.ofList segment
      if name == "" || name == "." then walk t names rest
      else if name == ".." then walk t names.dropLast rest
      else if nameLimit < name.utf8ByteSize then .error .nameTooLong
      else if (entries.lookup name).isSome then walk t (names ++ [name]) rest
      else .error .missing

structure FileSystem where
  tree : Tree
  /-- The names from the top down to the working directory. -/
  here : List String

namespace FileSystem

/-- Where the look-up of a path starts. -/
def start (fs : FileSystem) (path : Path) : List String :=
  if path.isAbsolute then [] else fs.here

/-- Where a path leads. -/
def locate (fs : FileSystem) (path : Path) : Except Fault (List String) := do
  fs.tree.walk (fs.start path) (← path.lookups)

/-- What a path leads to. -/
def resolve (fs : FileSystem) (path : Path) : Except Fault Tree := do
  match fs.tree.get? (← fs.locate path) with
  | some found => .ok found
  | none => .error .missing

def exists? (fs : FileSystem) (path : Path) : Bool :=
  match fs.resolve path with
  | .ok _ => true
  | .error _ => false

def isFile (fs : FileSystem) (path : Path) : Bool :=
  match fs.resolve path with
  | .ok (.file _) => true
  | _ => false

/-- The same files seen from the working directory and from each directory above it, the nearest
first. -/
def upwards (fs : FileSystem) : List FileSystem :=
  (List.range (fs.here.length + 1)).reverse.map fun n => { fs with here := fs.here.take n }

def readBytes (fs : FileSystem) (path : Path) : Except Fault ByteArray := do
  match ← fs.resolve path with
  | .file content => content
  | .dir _ => .error .isDirectory

def readText (fs : FileSystem) (path : Path) : Except Fault String := do
  match Utf8.decode (← fs.readBytes path).toList with
  | .ok text => .ok text
  | .error _ => .error .notText

/-- Writes a file, whose directory has to exist. A file that cannot be read cannot be written
either. -/
def write (fs : FileSystem) (path : Path) (text : String) : Except Fault FileSystem := do
  let segments ← path.lookups
  let names ← fs.tree.walk (fs.start path) segments.dropLast
  match fs.tree.get? names, segments.getLast? with
  | some (.dir entries), some segment =>
    let name := String.ofList segment
    if name == "" || name == "." || name == ".." then throw .isDirectory
    if nameLimit < name.utf8ByteSize then throw .nameTooLong
    match entries.lookup name with
    | some (.dir _) => throw .isDirectory
    | some (.file (.error fault)) => throw fault
    | _ => return { fs with tree := Tree.put (.file (.ok text.toUTF8)) (names ++ [name]) fs.tree }
  | some (.file _), _ => throw .notDirectory
  | _, _ => throw .missing

end FileSystem

end Codemod
