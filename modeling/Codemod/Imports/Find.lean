import Codemod.Error
import Codemod.Source.Item

/-!
# Finding imports

An import declaration is found by the text of its module specifier. Of several declarations of one
module only the first is ever meant: `find?` gives it and `index?` tells where it stands.
-/
namespace Codemod.Imports

def declarations (items : List Item) : List ImportDecl := items.filterMap Item.import?

def imports (module : String) (item : Item) : Bool :=
  match item with
  | .importing decl => decl.module == module
  | .code _ => false

/-- The first import declaration of a module. -/
def find? (module : String) (items : List Item) : Option ImportDecl :=
  (declarations items).find? (·.module == module)

/-- Where the first import declaration of a module stands. -/
def index? (module : String) (items : List Item) : Option Nat := items.findIdx? (imports module)

/-- The first import declaration of a module, which has to exist. -/
def get (module : String) (items : List Item) : Except Error ImportDecl :=
  match find? module items with
  | some decl => .ok decl
  | none => .error (.moduleNotFound module)

end Codemod.Imports

namespace Codemod.ImportDecl

/-- The names that a declaration asks for between its braces, in order. -/
def names (d : ImportDecl) : List String := d.named.map (·.importedText)

end Codemod.ImportDecl
