import Codemod.Source.Comment

/-!
# Import clauses

The parts of an import declaration up to its module specifier; attributes may follow, which are
syntax of their own. What comes from a source text carries its span and its
spelling; what an edit makes carries neither.
-/
namespace Codemod

/-- A string literal: the text it stands for, and how the source wrote it. -/
structure Literal where
  value : String
  raw : Option String
  span : Option Span
deriving DecidableEq, Repr

/-- An identifier that a clause binds or mentions. -/
structure Name where
  text : String
  span : Option Span
deriving DecidableEq, Repr

/-- The name under which another module exports something. -/
inductive ExternalName
  | ident (name : Name)
  | string (literal : Literal)
deriving DecidableEq, Repr

def ExternalName.text : ExternalName → String
  | .ident name => name.text
  | .string literal => literal.value

/-- One entry between the braces: `imported as binding`, or `binding` alone. -/
structure NamedSpecifier where
  span : Option Span
  imported : Option ExternalName
  binding : Name
  typeOnly : Bool
deriving DecidableEq, Repr

/-- The exported name that the entry asks for. -/
def NamedSpecifier.importedText (s : NamedSpecifier) : String :=
  match s.imported with
  | some name => name.text
  | none => s.binding.text

inductive ImportSpecifier
  | named (specifier : NamedSpecifier)
  | default (binding : Name)
  | star (binding : Name)
deriving DecidableEq, Repr

namespace ImportSpecifier

/-- The local name that the specifier binds. -/
def binding : ImportSpecifier → Name
  | .named s => s.binding
  | .default b => b
  | .star b => b

def named? : ImportSpecifier → Option NamedSpecifier
  | .named s => some s
  | _ => none

end ImportSpecifier

/-- When an imported module runs. -/
inductive ImportPhase
  | evaluation
  | source
  | defer
deriving DecidableEq, Repr

/-- An import declaration up to its module specifier. -/
structure ImportClause where
  span : Option Span
  typeOnly : Bool
  phase : ImportPhase
  specifiers : List ImportSpecifier
  source : Literal
deriving DecidableEq, Repr

namespace ImportClause

def module (d : ImportClause) : String := d.source.value

/-- The entries between the braces, in order. -/
def named (d : ImportClause) : List NamedSpecifier := d.specifiers.filterMap ImportSpecifier.named?

end ImportClause

end Codemod
