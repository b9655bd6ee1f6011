import Codemod.Grammar.Subscript

/-!
# Grammar of functions

Parameters, results and bodies, as functions, methods and arrows share them.
-/
namespace Codemod.Grammar

open Codemod.Parser

/-- A parameter; words about access before it are dropped. -/
def parameter (r : Recur) : Parser Node := do
  let lo ← start
  let decorators ← decorators r
  let start ← start
  let pattern ← typedPattern r
  let pattern ← withDefault r start pattern
  return .parameter (← spanFrom lo) decorators [] pattern

/-- Is the pattern one name, perhaps with a default? -/
def isNamed : Node → Bool
  | .bindingIdent .. => true
  | .defaulted .. => true
  | _ => false

/-- A parameter of a constructor, which words before it make a field of the class. -/
def constructorParameter (r : Recur) : Parser Node := do
  let lo ← start
  let decorators ← decorators r
  let start ← start
  let access ← modifierOf ["public", "protected", "private"] isModified
  let overriding ← modifierOf ["override"] isModified
  let fixed ← modifierOf ["readonly"] isModified
  let modifiers := access.toList ++ overriding.toList ++ fixed.toList
  let pattern ← typedPattern r
  let pattern ← withDefault r start pattern
  check (modifiers.isEmpty || isNamed pattern)
  return .parameter (← spanFrom lo) decorators modifiers pattern

def parameters (r : Recur) (item : Parser Node) : Parser (List Node) := do
  expect "("
  bracketed (listUntil ")" item r.fuel)

/-- What functions and methods share. -/
structure Signature where
  typeParams : Option Node
  params : List Node
  result : Option Node

/-- The signature of a function whose parameters a rule reads. -/
def signatureOf (r : Recur) (item : Parser Node) : Parser Signature := do
  let typeParams ← typeParameters? r
  let params ← parameters r item
  let result ← resultAnnotation r
  return ⟨typeParams, params, result⟩

def signature (r : Recur) : Parser Signature := signatureOf r (parameter r)

/-- A body, or the end of a declaration without one. -/
def functionBody? (r : Recur) : Parser (Option Node) := do
  if ← atPunct "\x7b" then return some (← r.parse .block)
  semicolon
  return none

/-- A signature and a body, with what `await` and `yield` mean in them. -/
def signatureAndBody (r : Recur) (isAsync isGenerator : Bool) :
    Parser (Signature × Option Node) :=
  inFunction isAsync isGenerator do
    let s ← signature r
    let body ← functionBody? r
    return (s, body)

/-- A function from its keyword on; `lo` is where its first modifier stands. -/
def functionRest (r : Recur) (lo : Nat) (modifiers : Modifiers) (named : Bool) : Parser Node := do
  expectWord "function"
  let generator ← eat "*"
  let name ←
    if named || (← atReference) || (← atWord "this") then pure (some (← identName)) else pure none
  let (s, body) ← signatureAndBody r (modifiers.contains "async") generator
  return .function (← spanFrom lo) modifiers generator name s.typeParams s.params s.result body

/-- The sign and the body of an arrow, which is a block or an expression. -/
def arrowRest (r : Recur) (isAsync : Bool) : Parser Node := do
  expect "=>"
  inFunction isAsync false do
    if ← atPunct "\x7b" then r.parse .block else assignment r

end Codemod.Grammar
