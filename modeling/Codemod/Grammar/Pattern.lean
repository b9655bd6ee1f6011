import Codemod.Grammar.Basic

/-!
# Grammar of keys and binding patterns

Property keys, the patterns that bind names, and the step from an expression to the pattern it turns
out to be when an arrow or an assignment follows it (`Node.toPattern?`).
-/
namespace Codemod.Grammar

open Codemod.Parser

/-- An expression without a top-level comma. -/
def assignment (r : Recur) : Parser Node := r.parse .assignment

def typeNode (r : Recur) : Parser Node := r.parse .type

/-- An expression with commas at its top level. -/
def expression (r : Recur) : Parser Node := do
  let lo ← start
  let exprs ← sepBy1 "," (assignment r) r.fuel
  match exprs with
  | [expr] => return expr
  | exprs => return .sequence (← spanFrom lo) exprs

def computedKey (r : Recur) : Parser (Key Node) := do
  let lo ← start
  expect "["
  let expr ← bracketed (expression r)
  expect "]"
  return .computed (← spanFrom lo) expr

def propertyKey (r : Recur) : Parser (Key Node) := do
  let c ← get
  let sp : Span := ⟨c.lo, c.hi⟩
  match c.token with
  | .word text _ => advance; return .word sp text
  | .string _ raw => advance; return .stringLiteral sp raw
  | .number raw => advance; return .numberLiteral sp raw
  | .punct "[" => computedKey r
  | _ => failure

/-- The key of a member, which may be private. -/
def memberKey (r : Recur) : Parser (Key Node) := do
  let c ← get
  match c.token with
  | .privateName text => advance; return .privateName ⟨c.lo, c.hi⟩ text
  | _ => propertyKey r

def typeAnnotation (r : Recur) : Parser (Option Node) := do
  let lo ← start
  if ← eat ":" then
    let type ← typeNode r
    return some (.ascribed (← spanFrom lo) type)
  return none

/-- A pattern with a value for when nothing is given. -/
def withDefault (r : Recur) (lo : Nat) (pattern : Node) : Parser Node := do
  if ← eat "=" then
    let value ← assignment r
    return .defaulted (← spanFrom lo) pattern value
  return pattern

/-- A pattern as an element of another one. -/
def patternElement (r : Recur) : Parser Node := do
  let lo ← start
  if ← eat "..." then
    let pattern ← r.parse .pattern
    return .restPattern (← spanFrom lo) pattern none
  let pattern ← r.parse .pattern
  withDefault r lo pattern

/-- Elements in square brackets after the opening one; a missing element is a hole. -/
def arrayElements (element : Parser Node) : Nat → Parser (List Node)
  | 0 => failure
  | fuel + 1 => do
    if ← eat "]" then return []
    if ← eat "," then return .hole :: (← arrayElements element fuel)
    let node ← element
    if ← eat "," then return node :: (← arrayElements element fuel)
    expect "]"
    return [node]

def patternProperty (r : Recur) : Parser Node := do
  let c ← get
  if ← eat "..." then
    let pattern ← r.parse .pattern
    return .restPattern (← spanFrom c.lo) pattern none
  let key ← propertyKey r
  if ← eat ":" then
    let value ← patternElement r
    return .keyValue (← spanFrom c.lo) key value
  match key with
  | .word sp text =>
    let name := Node.bindingIdent sp text false none
    if ← eat "=" then
      let value ← assignment r
      return .shorthand (← spanFrom c.lo) true name value
    return name
  | _ => failure

/-- A binding pattern, without type and default. -/
def pattern (r : Recur) : Parser Node := do
  let c ← get
  match c.token with
  | .punct "[" =>
    advance
    let elements ← bracketed (arrayElements (patternElement r) r.fuel)
    return .arrayPattern (← spanFrom c.lo) elements false none
  | .punct "\x7b" =>
    advance
    let properties ← bracketed (listUntil "\x7d" (patternProperty r) r.fuel)
    return .objectPattern (← spanFrom c.lo) properties false none
  | _ =>
    let (sp, text) ← identifier
    return .bindingIdent sp text false none

/-- A span that goes on to the end of a type. -/
def through (sp : Span) (type : Option Node) : Span :=
  match type with
  | some type => ⟨sp.lo, type.span.hi⟩
  | none => sp

def annotate (optional : Bool) (type : Option Node) : Node → Node
  | .bindingIdent sp text _ _ => .bindingIdent (through sp type) text optional type
  | .arrayPattern sp elements _ _ => .arrayPattern (through sp type) elements optional type
  | .objectPattern sp properties _ _ => .objectPattern (through sp type) properties optional type
  | .restPattern sp pattern _ => .restPattern (through sp type) pattern type
  | node => node

/-- Attaches a type to a variable; only a name counts it as a part of itself. -/
def annotateVariable (type : Option Node) : Node → Node
  | .arrayPattern sp elements _ _ => .arrayPattern sp elements false type
  | .objectPattern sp properties _ _ => .objectPattern sp properties false type
  | node => annotate false type node

def restParameter (r : Recur) : Parser Node := do
  let lo ← start
  expect "..."
  let start ← start
  let pattern ← r.parse .pattern
  let pattern ← withDefault r start pattern
  let sp ← spanFrom lo
  let node := annotate false (← typeAnnotation r) (.restPattern sp pattern none)
  let _ ← eat "?"
  return node

/-- May the token follow a word that modifies a member or a type parameter? -/
def isModified : Token → Bool
  | .word _ _ => true
  | .string _ _ => true
  | .number _ => true
  | .privateName _ => true
  | .punct p => ["[", "\x7b", "*", "...", "#"].contains p
  | _ => false

/-- May the token follow a word that modifies a parameter? -/
def isParameterStart : Token → Bool
  | .word _ _ => true
  | .punct p => p == "\x7b" || p == "["
  | _ => false

/-- Moves past one word of `words`, if what it would modify follows it. -/
def modifierOf (words : List String) (follows : Token → Bool) : Parser (Option String) := do
  let c ← get
  match c.token with
  | .word text false =>
    if words.contains text && follows c.next.token then
      advance
      return some text
    return none
  | _ => return none

/-- A word about access before a parameter, which means nothing outside constructors. -/
def dropModifier : Parser Unit := do
  let _ ← modifierOf ["public", "protected", "private", "readonly"] isParameterStart

/-- A pattern as a parameter, with its mark and type. -/
def typedPattern (r : Recur) : Parser Node := do
  if ← atPunct "..." then return ← restParameter r
  dropModifier
  let pattern ← r.parse .pattern
  let optional ← eat "?"
  return annotate optional (← typeAnnotation r) pattern

end Codemod.Grammar

namespace Codemod.Node

/-- What stands for a pattern that was meant to be one and is none. -/
def invalid (sp : Span) : Node := .atom sp "<invalid>"

/-- May a value be given to the expression? -/
def isTarget : Node → Bool
  | .ident .. => true
  | .member .. => true
  | .index .. => true
  | .call _ link _ _ _ => link != .plain
  | .paren .. => true
  | .nonNull .. => true
  | .cast _ _ _ (.atom _ "const") => false
  | .cast .. => true
  | .assertion .. => true
  | .instantiation .. => true
  | _ => false

/-- Expressions that stay what they are as elements of a pattern that assigns. -/
def isElementTarget : Node → Bool
  | .member _ link _ _ => link == .plain
  | .index _ link _ _ => link == .plain
  | .call _ link _ _ _ => link == .plain
  | .construct .. => true
  | .numberLiteral .. => true
  | .stringLiteral .. => true
  | .templateLiteral .. => true
  | .atom _ text => !(["this", "new.target", "import.meta"].contains text)
  | .function .. => true
  | .classLike .. => true
  | .paren .. => true
  | .nonNull .. => true
  | .cast _ _ _ (.atom _ "const") => false
  | .cast _ operator _ _ => operator == "as"
  | _ => false

def dropHoles (nodes : List Node) : List Node :=
  let isHole : Node → Bool
    | .hole => true
    | _ => false
  (nodes.reverse.dropWhile isHole).reverse

mutual

/-- The pattern that an expression stands for, as a parameter when it `binds` and as an element of a
pattern that assigns otherwise. -/
def toPattern? (binds : Bool) : Node → Option Node
  | .ident sp text => some (.bindingIdent sp text false none)
  | .arrayLiteral sp elements => do
    return .arrayPattern sp (dropHoles (← toElements? binds elements)) false none
  | .objectLiteral sp properties => do
    return .objectPattern sp (← toProperties? binds properties) false none
  | .assign sp "=" target value => some (.defaulted sp target value)
  | node => some (if !binds && isElementTarget node then node else invalid node.span)

/-- The elements of an array as patterns. What is spread anywhere but at the end is left out. -/
def toElements? (binds : Bool) : List Node → Option (List Node)
  | [] => some []
  | [.spread _ argument] => do
    return [.restPattern argument.span (← toPattern? binds argument) none]
  | .spread .. :: rest => toElements? binds rest
  | .hole :: rest => do return .hole :: (← toElements? binds rest)
  | node :: rest => do return (← toPattern? binds node) :: (← toElements? binds rest)

/-- The properties of an object as patterns, which a method is not. -/
def toProperties? (binds : Bool) : List Node → Option (List Node)
  | [] => some []
  | .ident sp text :: rest => do
    return .bindingIdent sp text false none :: (← toProperties? binds rest)
  | .keyValue sp key value :: rest => do
    return .keyValue sp key (← toPattern? binds value) :: (← toProperties? binds rest)
  | .shorthand sp _ (.ident nameSpan text) value :: rest => do
    let name := .bindingIdent nameSpan text false none
    return .shorthand sp true name value :: (← toProperties? binds rest)
  | .spread sp argument :: rest => do
    let pattern ← match binds, argument with
      | true, .ident nameSpan text => some (.bindingIdent nameSpan text false none)
      | true, _ => some (invalid sp)
      | false, _ => toPattern? false argument
    return .restPattern sp pattern none :: (← toProperties? binds rest)
  | _ :: _ => none

end

/-- The pattern before the sign of a plain assignment. -/
def assigned? : Node → Option Node
  | .arrayLiteral sp elements => toPattern? false (.arrayLiteral sp elements)
  | .objectLiteral sp properties => toPattern? false (.objectLiteral sp properties)
  | .ident sp text => some (.bindingIdent sp text false none)
  | node => if node.isTarget then some node else none

/-- The pattern before `of` or `in`. -/
def ranged? : Node → Option Node
  | .arrayLiteral sp elements => toPattern? false (.arrayLiteral sp elements)
  | .objectLiteral sp properties => toPattern? false (.objectLiteral sp properties)
  | .ident sp text => some (.bindingIdent sp text false none)
  | node => some node

/-- What an assignment with an operator changes. -/
def updated? : Node → Option Node
  | .ident sp text => some (.bindingIdent sp text false none)
  | node => if node.isTarget then some node else none

end Codemod.Node
