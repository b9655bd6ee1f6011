import Codemod.Error
import Codemod.Path

/-!
# File trees

A `Tree` is a file or a directory with all below it. A file has its bytes, or the reason why they
cannot be read. Names are texts: a name whose bytes are no text has no place in a tree. There are no
links, and every directory can be listed.
-/
namespace Codemod

/-- Why a path leads nowhere, or to nothing that can be read. -/
inductive Fault
  | missing
  | denied
  | notDirectory
  | isDirectory
  | notText
  /-- A zero byte in the path. -/
  | zeroByte
  | nameTooLong
deriving DecidableEq, Repr

namespace Fault

def text : Fault → String
  | .missing => "No such file or directory (os error 2)"
  | .denied => "Permission denied (os error 13)"
  | .notDirectory => "Not a directory (os error 20)"
  | .isDirectory => "Is a directory (os error 21)"
  | .notText => "stream did not contain valid UTF-8"
  | .zeroByte => "file name contained an unexpected NUL byte"
  | .nameTooLong => "File name too long (os error 36)"

def error (f : Fault) : Error := .access f.text none

end Fault

inductive Tree
  | file (content : Except Fault ByteArray)
  | dir (entries : List (String × Tree))

namespace Tree

def isDir : Tree → Bool
  | .dir _ => true
  | .file _ => false

def child? (name : String) : Tree → Option Tree
  | .dir entries => entries.lookup name
  | .file _ => none

/-- What stands at a list of names, from the top down. -/
def get? : List String → Tree → Option Tree
  | [], t => some t
  | name :: names, t => (t.child? name).bind (get? names)

/-- Sets the entry of a name, at the end when it is new. -/
def setEntry (name : String) (new : Tree) : List (String × Tree) → List (String × Tree)
  | [] => [(name, new)]
  | (n, t) :: rest => if n == name then (n, new) :: rest else (n, t) :: setEntry name new rest

/-- Puts something at a list of names, making the directories on the way. -/
def put (new : Tree) : List String → Tree → Tree
  | [], _ => new
  | name :: names, .dir entries =>
    .dir (setEntry name (put new names ((entries.lookup name).getD (.dir []))) entries)
  | name :: names, .file _ => .dir [(name, put new names (.dir []))]

/-! ## Listings -/

/-- What a walk has come to. -/
structure Found where
  path : Path
  /-- The names from the start of the walk down. -/
  names : List String
  tree : Tree

mutual

/-- All that a walk comes to, depth first and by name in each directory, which comes before what it
holds. Directories of the `hidden` names are left out below the top. -/
def visits (hidden : List String) (path : Path) (names : List String) : Tree → List Found
  | .file content => [⟨path, names, .file content⟩]
  | .dir entries =>
    ⟨path, names, .dir entries⟩ ::
      ((visitsIn hidden path names entries).mergeSort fun a b => !(b.1 < a.1)).flatMap (·.2)

/-- What a walk comes to in each entry, with the entry's name. -/
def visitsIn (hidden : List String) (path : Path) (names : List String) :
    List (String × Tree) → List (String × List Found)
  | [] => []
  | (name, t) :: rest =>
    if t.isDir && hidden.contains name then visitsIn hidden path names rest
    else
      (name, visits hidden (path.child name) (names ++ [name]) t) :: visitsIn hidden path names rest

end

/-- The files that are new or have other bytes than before, with their names and bytes. -/
def changed (before after : Tree) : List (List String × ByteArray) :=
  (after.visits [] ⟨""⟩ []).filterMap fun found =>
    match found.tree, before.get? found.names with
    | .file (.ok new), some (.file (.ok old)) =>
      if new == old then none else some (found.names, new)
    | .file (.ok new), _ => some (found.names, new)
    | _, _ => none

end Tree

end Codemod
