import Codemod.Decorator
import Codemod.Document

/-!
# Classes

The classes at the top level of a module: plain, exported and exported by default, in the order of
their declarations.
-/
namespace Codemod

/-- A class at the top level of a module. -/
structure ClassRef where
  /-- The document it was found in, when known. -/
  path : Option Path
  /-- Its name; a class exported by default may have none. -/
  name : Option String
  decorators : List Node
  exported : Bool

namespace ClassRef

def kinds (c : ClassRef) : List DecoratorKind := Decorator.kinds c.decorators

def isKind (kind : DecoratorKind) (c : ClassRef) : Bool := Decorator.isKind kind c.decorators

def ofClass? (exported : Bool) : Node → Option ClassRef
  | .classLike _ _ decorators name _ _ _ _ _ =>
    some ⟨none, name.bind Node.identifier?, decorators, exported⟩
  | _ => none

def ofItem? : Item → Option ClassRef
  | .importing _ => none
  | .code (.exportDecl _ decl) => ofClass? true decl
  | .code (.exportDefault _ decl) => ofClass? true decl
  | .code node => ofClass? false node

/-- The classes of a module's body. -/
def ofItems (items : List Item) : List ClassRef := items.filterMap ofItem?

/-- The classes of a document, which know their path. -/
def ofDocument (d : Document) : List ClassRef :=
  (ofItems d.items).map fun c => { c with path := some d.path }

/-- The first class of a name. -/
def find? (name : String) (classes : List ClassRef) : Option ClassRef :=
  classes.find? (·.name == some name)

/-- The first class of a name, which has to exist. -/
def get (name : String) (classes : List ClassRef) : Except Error ClassRef :=
  match find? name classes with
  | some c => .ok c
  | none => .error (.classNotFound name)

def ofKind (kind : DecoratorKind) (classes : List ClassRef) : List ClassRef :=
  classes.filter (·.isKind kind)

def ofKindWhere (kind : DecoratorKind) (test : ClassRef → Bool) (classes : List ClassRef) :
    List ClassRef :=
  classes.filter fun c => c.isKind kind && test c

end ClassRef

end Codemod
