/-!
# Paths

A path is its spelling; two spellings are the same path when they have the same components. Repeated
and trailing slashes and inner dots are no components, a dot at the very start is one.
-/
namespace Codemod

structure Path where
  spelling : String
deriving DecidableEq, Repr, Inhabited

namespace Path

inductive Component
  | root
  | current
  | parent
  | name (text : String)
deriving DecidableEq, Repr

/-- The parts of a spelling between slashes. -/
def segments : List Char → List (List Char)
  | [] => [[]]
  | '/' :: r => [] :: segments r
  | c :: r =>
    match segments r with
    | first :: others => (c :: first) :: others
    | [] => [[c]]

def component? (segment : List Char) : Option Component :=
  if segment == [] || segment == ['.'] then none
  else if segment == ['.', '.'] then some .parent
  else some (.name (String.ofList segment))

def components (p : Path) : List Component :=
  match segments p.spelling.toList with
  | ['.'] :: others => .current :: others.filterMap component?
  | [] :: first :: others => .root :: (first :: others).filterMap component?
  | segments => segments.filterMap component?

/-- Are two paths the same, component by component? -/
def same (p q : Path) : Bool := p.components == q.components

def endsWith (p q : Path) : Bool := q.components.isSuffixOf p.components

/-- Does the path start at the top directory? -/
def isAbsolute (p : Path) : Bool := p.spelling.toList.head? == some '/'

/-- The last component, when it is a name. -/
def fileName (p : Path) : Option String :=
  match p.components.getLast? with
  | some (.name text) => some text
  | _ => none

/-- The part of a name after its last dot; a dot at the start does not count. -/
def nameExtension (name : String) : Option String :=
  let (after, before) := name.toList.reverse.span (· != '.')
  match before with
  | '.' :: _ :: _ => some (String.ofList after.reverse)
  | _ => none

/-- The extension of a path's last component. -/
def extension (p : Path) : Option String := p.fileName.bind nameExtension

/-- The path of a name below a directory. -/
def child (p : Path) (name : String) : Path :=
  if p.spelling.isEmpty || p.spelling.endsWith "/" then ⟨p.spelling ++ name⟩
  else ⟨p.spelling ++ "/" ++ name⟩

end Path

end Codemod
