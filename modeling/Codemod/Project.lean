import Codemod.Class
import Codemod.Config
import Codemod.Files.Glob

/-!
# Projects

A project is a list of documents, no two of which have the same path, and the files that could not
be read as documents.
-/
namespace Codemod

structure Project where
  documents : List Document
  /-- The files left out, with the reason. -/
  skipped : List (Path × Error)

namespace Document

def read (fs : FileSystem) (path : Path) (options : ParseOptions) : Except Error Document :=
  match fs.readText path with
  | .ok text => parse path text options
  | .error fault => .error fault.error

/-- Writes a document to its path: the files after it, and the document without the comments that it
has printed. -/
def write (fs : FileSystem) (d : Document) : Except Error FileSystem × Document :=
  let (text, d) := d.emit
  (match fs.write d.path text with
    | .ok fs => .ok fs
    | .error fault => .error fault.error, d)

end Document

namespace Project

def empty : Project := ⟨[], []⟩

/-! ## Loading -/

/-- Directories that no project file lies in. -/
def hiddenDirs : List String := [".angular", ".git", ".nx", "node_modules"]

def hasExtension (path : Path) (extensions : List String) : Bool :=
  path.extension.any extensions.contains

/-- The patterns of paths that are left out. -/
def excludes (config : ProjectConfig) : Except Error (List (List Glob.Token)) :=
  config.exclude.mapM fun pattern =>
    match Glob.parse pattern with
    | .ok tokens => .ok tokens
    | .error fault => .error (.config s!"Invalid exclude pattern '{pattern}': {fault.message}")

def isWanted (config : ProjectConfig) (patterns : List (List Glob.Token)) (file : Tree.Found) :
    Bool :=
  hasExtension file.path config.extensions &&
    !patterns.any (Glob.matchesText · (String.intercalate "/" file.names))

/-- Adds a file that has been found, to the documents or to what is left out. -/
def addFound (fs : FileSystem) (options : ParseOptions) (p : Project) (file : Tree.Found) :
    Project :=
  match Document.read fs file.path options with
  | .ok document => { p with documents := p.documents ++ [document] }
  | .error e => { p with skipped := p.skipped ++ [(file.path, e)] }

def walkError (dir : Path) (fault : Fault) : Error :=
  .access s!"IO error for operation on {dir.spelling}: {fault.text}" (some fault.text)

/-- Goes on with what the walk has come to. A directory is listed by its path; a file is found even
where its path is too long to read it. -/
def visit (fs : FileSystem) (config : ProjectConfig) (patterns : List (List Glob.Token))
    (options : ParseOptions) (p : Project) (found : Tree.Found) : Except Error Project :=
  if found.tree.isDir then
    if found.path.isTooLong then .error (walkError found.path .nameTooLong) else .ok p
  else if isWanted config patterns found then .ok (addFound fs options p found)
  else .ok p

/-- All files of a project below its directory, or the one file that the path leads to. -/
def load (fs : FileSystem) (root : Path) (config : ProjectConfig) (options : ParseOptions) :
    Except Error Project := do
  let patterns ← excludes config
  match fs.resolve root with
  | .error fault => .error (walkError root fault)
  | .ok found =>
    (found.visits hiddenDirs root []).foldlM (visit fs config patterns options) empty

/-! ## Documents by path -/

def get? (path : Path) (p : Project) : Option Document :=
  p.documents.find? (·.path.same path)

/-- Puts a document in the place of the first one with its path, or at the end. -/
def insert (d : Document) : List Document → List Document
  | [] => [d]
  | e :: rest => if e.path.same d.path then d :: rest else e :: insert d rest

def add (d : Document) (p : Project) : Project := { p with documents := insert d p.documents }

/-- Takes the first document of a path out: the document, if there is one, and the project without
it. -/
def take (path : Path) (p : Project) : Option Document × Project :=
  match p.documents.findIdx? (·.path.same path) with
  | some i => (p.documents[i]?, { p with documents := p.documents.eraseIdx i })
  | none => (none, p)

def remove (path : Path) (p : Project) : Project := (p.take path).2

/-- Changes the first document of a path. -/
def modify (path : Path) (change : Document → Document) (p : Project) : Project :=
  { p with documents := go p.documents }
where
  go : List Document → List Document
    | [] => []
    | d :: rest => if d.path.same path then change d :: rest else d :: go rest

def classes (p : Project) : List ClassRef := p.documents.flatMap ClassRef.ofDocument

end Project

end Codemod
