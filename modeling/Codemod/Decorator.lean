import Codemod.Error
import Codemod.Source.Node

/-!
# Decorators

A class is of a kind when one of its decorators bears the kind's name. Only the name counts, never
the arguments, and of several decorators of one kind the first is meant.
-/
namespace Codemod

inductive DecoratorKind
  | component
  | directive
  | injectable
  | ngModule
  | pipe
deriving DecidableEq, Repr

namespace DecoratorKind

def all : List DecoratorKind := [.component, .directive, .injectable, .ngModule, .pipe]

def name : DecoratorKind → String
  | .component => "Component"
  | .directive => "Directive"
  | .injectable => "Injectable"
  | .ngModule => "NgModule"
  | .pipe => "Pipe"

/-- The kind of a decorator's name, letter by letter. -/
def ofName? (name : String) : Option DecoratorKind := all.find? (·.name == name)

/-- The text with the letters from `A` to `Z` in lower case. -/
def lower (s : String) : String := s.map Char.toLower

/-- The kind that a user names; case does not matter, and `module` is a short form. -/
def parse (text : String) : Except Error DecoratorKind :=
  match all.find? fun kind => lower kind.name == lower text with
  | some kind => .ok kind
  | none =>
    if lower text == "module" then .ok .ngModule
    else .error (.invalidInput (s!"Unknown decorator kind '{text}', expected one of: " ++
      "component, directive, injectable, ngmodule, pipe"))

end DecoratorKind

namespace Decorator

/-- The name at the head of a decorator's expression, under calls and parentheses: an identifier, or
the plain property of a member access. A property of `super` is no member of a value. -/
def headName? : Node → Option String
  | .ident _ text => some text
  | .call _ .plain callee _ _ => headName? callee
  | .member _ .plain (.atom _ "super") _ => none
  | .member _ .plain _ (.word _ text) => some text
  | .paren _ expr => headName? expr
  | _ => none

def name? : Node → Option String
  | .decorator _ expr => headName? expr
  | _ => none

/-- The first of some decorators that is of a kind. -/
def find? (kind : DecoratorKind) (decorators : List Node) : Option Node :=
  decorators.find? (name? · == some kind.name)

/-- Where the first decorator of a kind stands. -/
def index? (kind : DecoratorKind) (decorators : List Node) : Option Nat :=
  decorators.findIdx? (name? · == some kind.name)

/-- Where the first decorator of a kind stands; there has to be one. -/
def index (kind : DecoratorKind) (decorators : List Node) : Except Error Nat :=
  match index? kind decorators with
  | some i => .ok i
  | none => .error (.decoratorNotFound kind.name)

def isKind (kind : DecoratorKind) (decorators : List Node) : Bool := (find? kind decorators).isSome

/-- The kinds of some decorators in their order, each once. -/
def kinds (decorators : List Node) : List DecoratorKind :=
  (decorators.filterMap fun d => (name? d).bind DecoratorKind.ofName?).eraseDups

end Decorator

end Codemod
