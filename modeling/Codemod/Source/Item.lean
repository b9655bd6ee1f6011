import Codemod.Source.Node

/-!
# Items of a module

The body of a module is a list of items: import declarations, which edits look into and change, and
all other code, which edits only move past.
-/
namespace Codemod

/-- An import declaration: its clause, and the object after `with` if there is one. -/
structure ImportDecl extends ImportClause where
  attributes : Option Node

/-- One item of a module's body. -/
inductive Item
  | importing (decl : ImportDecl)
  | code (node : Node)
deriving Inhabited

namespace Item

def import? : Item → Option ImportDecl
  | .importing decl => some decl
  | .code _ => none

/-- The code that an item is, when it is no import declaration. -/
def code? : Item → Option Node
  | .importing _ => none
  | .code node => some node

def isImport (item : Item) : Bool := item.import?.isSome

end Item

end Codemod
