import Codemod.Imports.Find
import Codemod.Source.Below

/-!
# Editing imports

Edits of a module's body. Each one is for a module specifier and looks at the first declaration of
that module only; all other items stay as they are and in order.

* `ensure` makes names available: into the declaration if it can hold them, else into a new one.
* `remove` takes names out, and with the last name the declaration.
* `removeDeclaration` takes out the declaration.
* `prune` takes out the names that nothing refers to, and a declaration that this leaves empty.
-/
namespace Codemod.Imports

/-! ## Requests -/

/-- Names wanted from a module. -/
structure Request where
  names : List String
  module : String
deriving DecidableEq, Repr

/-- The names that are not there yet, each once, in order. -/
def missing (present : List String) : List String → List String
  | [] => []
  | x :: xs => if present.contains x then missing present xs else x :: missing (x :: present) xs

/-- A specifier for a name, without alias. -/
def specifierOf (name : String) : ImportSpecifier := .named ⟨none, none, ⟨name, none⟩, false⟩

def declarationOf (module : String) (names : List String) : ImportDecl :=
  ⟨⟨none, false, .evaluation, names.map specifierOf, ⟨module, none, none⟩⟩, none⟩

/-- Can names of values stand in the declaration? Not beside a namespace binding, and not beside the
default binding of a declaration for types. -/
def acceptsNames (d : ImportDecl) : Bool :=
  d.specifiers.all fun
    | .named _ => true
    | .default _ => !d.typeOnly
    | .star _ => false

/-- A specifier with a `type` of its own, if it is a named one. -/
def markType : ImportSpecifier → ImportSpecifier
  | .named s => .named { s with typeOnly := true }
  | s => s

/-- The declaration with its `type`, if it has one, moved onto its specifiers. -/
def spreadType (d : ImportDecl) : ImportDecl :=
  if d.typeOnly then { d with typeOnly := false, specifiers := d.specifiers.map markType } else d

/-- The declaration with more names at its end. -/
def append (names : List String) (d : ImportDecl) : ImportDecl :=
  let d := spreadType d
  { d with specifiers := d.specifiers ++ names.map specifierOf }

/-! ## Places -/

/-- Puts items in the place of the first declaration of a module. -/
def replaceFirst (module : String) (new : ImportDecl → List Item) : List Item → List Item
  | [] => []
  | .importing decl :: rest =>
    if decl.module == module then new decl ++ rest
    else .importing decl :: replaceFirst module new rest
  | .code node :: rest => .code node :: replaceFirst module new rest

/-- Puts a declaration right after the last import declaration, or in front when there is none. -/
def insertLast (decl : ImportDecl) : List Item → List Item
  | [] => [.importing decl]
  | item :: rest =>
    if (item :: rest).any Item.isImport then item :: insertLast decl rest
    else .importing decl :: item :: rest

/-! ## Edits -/

structure Ensured where
  items : List Item
  /-- The declaration that holds the names now. -/
  decl : Option ImportDecl
  added : Nat

/-- Makes names available from a module. -/
def ensure (request : Request) (items : List Item) : Ensured :=
  match find? request.module items with
  | none =>
    if request.names.isEmpty then ⟨items, none, 0⟩
    else
      let names := missing [] request.names
      let decl := declarationOf request.module names
      ⟨insertLast decl items, some decl, names.length⟩
  | some decl =>
    let names := missing decl.names request.names
    if names.isEmpty then ⟨items, some decl, 0⟩
    else if acceptsNames decl then
      let extended := append names decl
      ⟨replaceFirst request.module (fun _ => [.importing extended]) items, some extended,
        names.length⟩
    else
      let new := declarationOf request.module names
      ⟨replaceFirst request.module (fun decl => [.importing new, .importing decl]) items, some new,
        names.length⟩

/-- `ensure` with the number of names that it has added. -/
def apply (request : Request) (items : List Item) : List Item × Nat :=
  let done := ensure request items
  (done.items, done.added)

/-- Several requests in order, and how many names they have added together. -/
def applyAll : List Request → List Item → List Item × Nat
  | [], items => (items, 0)
  | request :: requests, items =>
    let (items, added) := apply request items
    let (items, more) := applyAll requests items
    (items, added + more)

/-- Keeps the default and namespace bindings and the named specifiers that pass the test. -/
def keepNamed (test : NamedSpecifier → Bool) (d : ImportDecl) : ImportDecl :=
  { d with
    specifiers := d.specifiers.filter fun
      | .named s => test s
      | _ => true }

/-- How many specifiers the second declaration has less than the first. -/
def dropped (before after : ImportDecl) : Nat := before.specifiers.length - after.specifiers.length

/-- Takes names of a module out. The declaration goes too when no named specifier is left. -/
def remove (module : String) (names : List String) (items : List Item) : List Item × Nat :=
  match find? module items with
  | none => (items, 0)
  | some decl =>
    let left := keepNamed (fun s => !names.contains s.importedText) decl
    (replaceFirst module (fun _ => if left.named.isEmpty then [] else [.importing left]) items,
      dropped decl left)

/-- Takes the first declaration of a module out. -/
def removeDeclaration (module : String) (items : List Item) : List Item × Bool :=
  (replaceFirst module (fun _ => []) items, (find? module items).isSome)

/-- Takes all specifiers out of the first declaration of a module; their number, if it exists. -/
def clear (module : String) (items : List Item) : List Item × Option Nat :=
  (replaceFirst module (fun decl => [.importing { decl with specifiers := [] }]) items,
    (find? module items).map (·.specifiers.length))

/-! ## References -/

/-- Does code outside import declarations have an identifier of this text? -/
def isReferenced (items : List Item) (name : String) : Bool :=
  items.any fun
    | .code node => node.identifiers.contains name
    | .importing _ => false

/-- The names of a module's first declaration whose bindings nothing refers to. -/
def unused (module : String) (items : List Item) : List String :=
  match find? module items with
  | none => []
  | some decl =>
    (decl.named.filter fun s => !isReferenced items s.binding.text).map (·.importedText)

/-- Takes out the names of a module that nothing refers to. The declaration goes too when this has
left it without any binding. -/
def prune (module : String) (items : List Item) : List Item × Nat :=
  match find? module items with
  | none => (items, 0)
  | some decl =>
    let left := keepNamed (fun s => isReferenced items s.binding.text) decl
    let removed := dropped decl left
    let gone := removed > 0 && left.specifiers.isEmpty
    (replaceFirst module (fun _ => if gone then [] else [.importing left]) items, removed)

end Codemod.Imports
