import Codemod.Grammar.Import
import Codemod.Grammar.Pattern

/-!
# Grammar of types

Types, from conditional types down to names and literals, and the members of interfaces and type
literals.
-/
namespace Codemod.Grammar

open Codemod.Parser

/-- Type arguments in angle brackets; the first may itself begin with one. -/
def typeArguments (r : Recur) : Parser Node := do
  let lo ← start
  if ← atPunct "<<" then modify fun c => { c with token := .punct "<", lo := c.lo + 1 }
  else expect "<"
  let args ← listUntil ">" (typeNode r) r.fuel
  return .typeArguments (← spanFrom lo) args

/-- Type arguments on the same line, if there are any. -/
def typeArguments? (r : Recur) : Parser (Option Node) := do
  let c ← get
  if c.token == .punct "<" && !c.newline then return some (← typeArguments r)
  return none

/-- Words of a list before what they modify. -/
def modifiersOf (words : List String) : Nat → Parser (List String)
  | 0 => failure
  | fuel + 1 => do
    match ← modifierOf words isModified with
    | some word => return word :: (← modifiersOf words fuel)
    | none => return []

/-- Words that may stand before a type parameter; those that mean something come first. -/
def typeParameterWords : List String :=
  ["const", "in", "out", "public", "private", "protected", "readonly", "abstract", "override"]

def typeParameter (r : Recur) : Parser Node := do
  let lo ← start
  let words ← modifiersOf typeParameterWords r.fuel
  let modifiers := inOrder ["const", "in", "out"] words
  let name ← anyName
  let bound ← if ← eatWord "extends" then pure (some (← typeNode r)) else pure none
  let initial ← if ← eat "=" then pure (some (← typeNode r)) else pure none
  return .typeParameter (← spanFrom lo) modifiers name bound initial

/-- Type parameters in angle brackets, if there are any. -/
def typeParameters? (r : Recur) : Parser (Option Node) := do
  let lo ← start
  if ← eat "<" then
    let params ← listUntil ">" (typeParameter r) r.fuel
    return some (.typeParameters (← spanFrom lo) params)
  return none

/-! ## Predicates and function types -/

/-- The type of a result: a predicate on a parameter, or a type. -/
def resultType (r : Recur) : Parser Node := do
  let c ← get
  let asserts := c.token == .word "asserts" false && isReference c.next.token
  if asserts then advance
  let here ← get
  let tests := isReference here.token && here.next.token == .word "is" false && !here.next.newline
  if !asserts && !tests then return ← typeNode r
  let subject ← anyName
  let type ← if tests then do
      advance
      pure (some (← typeNode r))
    else pure none
  return .typePredicate (← spanFrom c.lo) asserts subject type

/-- A predicate on the object itself, from `this` on. -/
def selfPredicate (r : Recur) (lo : Nat) (asserts : Bool) : Parser Node := do
  let c ← get
  expectWord "this"
  let type ← if ← eatWord "is" then pure (some (← typeNode r)) else pure none
  return .typePredicate (← spanFrom lo) asserts (.atom ⟨c.lo, c.hi⟩ "this") type

/-- The type of a result after a colon, if there is one. -/
def resultAnnotation (r : Recur) : Parser (Option Node) := do
  let lo ← start
  if ← eat ":" then
    let type ← resultType r
    return some (.ascribed (← spanFrom lo) type)
  return none

/-- Parameters of a type in parentheses. -/
def typeParams (r : Recur) : Parser (List Node) := do
  expect "("
  listUntil ")" (typedPattern r) r.fuel

def functionType (r : Recur) (lo : Nat) (constructs abstracts : Bool) : Parser Node := do
  let parameters ← typeParameters? r
  let params ← typeParams r
  let start ← start
  expect "=>"
  let type ← resultType r
  let result := Node.ascribed (← spanFrom start) type
  return .functionType (← spanFrom lo) constructs abstracts parameters params result

/-! ## Members of interfaces and type literals -/

/-- An index signature stands here: a bracket, a name and a colon. -/
def atIndexSignature : Parser Bool := do
  let c ← get
  if c.token != .punct "[" then return false
  let second := c.next
  let third := second.next.token
  return isReference second.token && (third == .punct ":" || third == .punct ",")

/-- An index signature with its one parameter; a comma is taken for the colon of its type. -/
def indexSignature (r : Recur) (lo : Nat) (modifiers : Modifiers) : Parser Node := do
  expect "["
  let (sp, text) ← anyWord
  let sign ← start
  if !(← eat ",") then expect ":"
  let keyType ← typeNode r
  let keyType := Node.ascribed (← spanFrom sign) keyType
  let param := annotate false (some keyType) (.bindingIdent sp text false none)
  expect "]"
  let type ← typeAnnotation r
  return .indexSignature (← spanFrom lo) modifiers [param] type

/-- The key of a signature, in which a word is an identifier. -/
def signatureKey (r : Recur) : Parser Node := do
  match ← memberKey r with
  | .word sp text => return .identName sp text
  | .privateName sp text => return .privateName sp text
  | .stringLiteral sp raw => return .stringLiteral sp raw
  | .numberLiteral sp raw => return .numberLiteral sp raw
  | .computed sp expr => return .computedKey sp expr

/-- The rest of a property or method signature, from its key on. -/
def keyedSignature (r : Recur) (lo : Nat) (modifiers : Modifiers) : Parser Node := do
  let key ← signatureKey r
  let optional ← eat "?"
  let c ← get
  if c.token == .punct "(" || c.token == .punct "<" then
    check modifiers.isEmpty
    let parameters ← typeParameters? r
    let params ← typeParams r
    let type ← resultAnnotation r
    return .methodSignature (← spanFrom lo) .method key optional parameters params type
  let type ← typeAnnotation r
  return .propertySignature (← spanFrom lo) modifiers key optional type

/-- The signature of a getter or a setter, from its first word on. -/
def accessorSignature (r : Recur) : Parser Node := do
  let lo ← start
  if ← eatWord "get" then
    let key ← signatureKey r
    expect "("
    expect ")"
    let type ← typeAnnotation r
    return .methodSignature (← spanFrom lo) .getter key false none [] type
  expectWord "set"
  let key ← signatureKey r
  match ← typeParams r with
  | param :: _ => return .methodSignature (← spanFrom lo) .setter key false none [param] none
  | [] => failure

def typeMember (r : Recur) : Parser Node := do
  let c ← get
  let opensCall (t : Token) := t == .punct "(" || t == .punct "<"
  if opensCall c.token || (c.token == .word "new" false && opensCall c.next.token) then
    let constructs ← eatWord "new"
    let parameters ← typeParameters? r
    let params ← typeParams r
    let type ← resultAnnotation r
    return .callSignature (← spanFrom c.lo) constructs parameters params type
  let modifiers := (← modifierOf ["readonly"] isModified).toList
  if ← atIndexSignature then return ← indexSignature r c.lo modifiers
  if modifiers.isEmpty then
    if let some node ← attempt (accessorSignature r) then return node
  keyedSignature r c.lo modifiers

/-- The end of a member: a comma, a semicolon or a place where one may be left out. -/
def memberEnd : Parser Unit := do
  if !(← eat ",") then semicolon

/-- Members in braces, each ended by a semicolon, a comma or the line. -/
def typeMembers (r : Recur) : Parser (List Node) := do
  expect "\x7b"
  let member : Parser Node := do
    let node ← typeMember r
    memberEnd
    return node
  let members ← whileTrue (do return !(← atPunct "\x7d")) member r.fuel
  expect "\x7d"
  return members

/-! ## Types -/

/-- A `+` or `-` before a word or mark of a mapped type. -/
def sign : Parser String := do
  if ← eat "+" then return "+"
  if ← eat "-" then return "-"
  return ""

/-- A mapped type stands here: a brace and a bracket with `in` after its name. -/
def atMappedType : Parser Bool := lookahead do
  expect "\x7b"
  if (← sign) != "" then return ← atWord "readonly"
  let _ ← eatWord "readonly"
  expect "["
  let c ← get
  return isReference c.token && c.next.token == .word "in" false

def mappedType (r : Recur) : Parser Node := do
  let lo ← start
  expect "\x7b"
  let before ← sign
  let readonlyMark ← if ← eatWord "readonly" then pure (before ++ "readonly") else do
    check (before == "")
    pure ""
  expect "["
  let key ← anyName
  expectWord "in"
  let bound ← typeNode r
  let renamed ← if ← eatWord "as" then pure (some (← typeNode r)) else pure none
  expect "]"
  let after ← sign
  let optionalMark ← if ← eat "?" then pure (after ++ "?") else do
    check (after == "")
    pure ""
  let type ← if ← eat ":" then pure (some (← typeNode r)) else pure none
  semicolon
  expect "\x7d"
  return .mappedType (← spanFrom lo) readonlyMark key bound renamed optionalMark type

def typeLiteral (r : Recur) : Parser Node := do
  let lo ← start
  let members ← typeMembers r
  return .typeLiteral (← spanFrom lo) members

/-- The label of an element: a word, perhaps with dots before it or a mark after it, and a colon. -/
def tupleLabel : Parser Node := do
  let lo ← start
  let isRest ← eat "..."
  let (sp, text) ← anyWord
  let optional ← eat "?"
  let label := Node.bindingIdent ⟨sp.lo, (← get).lastHi⟩ text optional none
  expect ":"
  if isRest then return .restPattern (← spanFrom lo) label none
  return label

def tupleElement (r : Recur) : Parser Node := do
  let lo ← start
  let label ← attempt tupleLabel
  let start ← start
  let type ←
    if ← eat "..." then do
      let type ← typeNode r
      pure (Node.restType (← spanFrom start) type)
    else do
      let type ← typeNode r
      if ← eat "?" then pure (Node.optionalType (← spanFrom start) type) else pure type
  match label with
  | some label => return .tupleElement (← spanFrom lo) label type
  | none => return type

/-- May the elements stand in this order? After an optional one, all but rests are optional. -/
def isTupleOrder : Bool → List Node → Bool
  | _, [] => true
  | afterOptional, node :: rest =>
    let type := match node with
      | .tupleElement _ _ type => type
      | type => type
    match type with
    | .restType .. => isTupleOrder afterOptional rest
    | .optionalType .. => isTupleOrder true rest
    | _ => !afterOptional && isTupleOrder afterOptional rest

def keywordTypes : List String :=
  ["any", "unknown", "number", "object", "boolean", "bigint", "string", "symbol", "void",
   "undefined", "null", "never", "intrinsic", "true", "false"]

/-- Words that may name a type, for one that is none by itself. -/
def isTypeName (text : String) : Bool :=
  (!Text.isReserved text && text != "let") ||
    ["await", "break", "enum", "null", "void", "yield"].contains text

def typeReference (r : Recur) : Parser Node := do
  let lo ← start
  dropModifier
  let left ← anyName
  let name ← entityName r.fuel lo left
  let args ← typeArguments? r
  return .typeRef (← spanFrom lo) name args

/-- What follows the module of an import type: an object with the one key `with`. -/
def importOptions (r : Recur) : Parser Node := do
  let lo ← start
  expect "\x7b"
  let c ← get
  expectWord "with"
  expect ":"
  let object ← r.parse .object
  let property := Node.keyValue (← spanFrom c.lo) (.word ⟨c.lo, c.hi⟩ "with") object
  let _ ← eat ","
  expect "\x7d"
  return .objectLiteral (← spanFrom lo) [property]

def importType (r : Recur) : Parser Node := do
  let lo ← start
  expectWord "import"
  expect "("
  let argument ← stringNode
  let attributes ← if ← eat "," then pure (some (← importOptions r)) else pure none
  expect ")"
  let qualifier ← if ← eat "." then do
      let start ← start
      let left ← anyName
      pure (some (← entityName r.fuel start left))
    else pure none
  let args ← if ← atPunct "<" then pure (some (← typeArguments r)) else pure none
  return .importType (← spanFrom lo) argument attributes qualifier args

def typeQuery (r : Recur) : Parser Node := do
  let lo ← start
  expectWord "typeof"
  let c ← get
  let name ←
    if c.token == .word "import" false then importType r
    else do
      if ← eatWord "this" then entityName r.fuel c.lo (.atom ⟨c.lo, c.hi⟩ "this")
      else
        let left ← anyName
        entityName r.fuel c.lo left
  let args ← typeArguments? r
  return .typeQuery (← spanFrom lo) name args

/-- A type without operators around it. -/
def primaryType (r : Recur) : Parser Node := do
  let c ← get
  let sp : Span := ⟨c.lo, c.hi⟩
  match c.token with
  | .string _ raw => advance; return .stringLiteral sp raw
  | .number raw => advance; return .numberLiteral sp raw
  | .punct "-" =>
    advance
    let number ← get
    match number.token with
    | .number raw =>
      advance
      let literal := Node.numberLiteral ⟨number.lo, number.hi⟩ ("-" ++ raw)
      return .ascribed (← spanFrom c.lo) literal
    | _ => failure
  | .punct "`" => template r.fuel false (typeNode r)
  | .punct "(" =>
    advance
    let type ← typeNode r
    expect ")"
    return .parenType (← spanFrom c.lo) type
  | .punct "[" =>
    advance
    let elements ← listUntil "]" (tupleElement r) r.fuel
    check (isTupleOrder false elements)
    return .tupleType (← spanFrom c.lo) elements
  | .punct "\x7b" =>
    if ← atMappedType then mappedType r else typeLiteral r
  | .word "typeof" false => typeQuery r
  | .word "import" false => importType r
  | .word "this" false =>
    if c.next.token == .word "is" false && !c.next.newline then
      return ← selfPredicate r c.lo false
    advance
    return .atom sp "this"
  | .word text false =>
    if text == "asserts" && c.next.token == .word "this" false then
      advance
      return ← selfPredicate r c.lo true
    if keywordTypes.contains text && c.next.token != .punct "." then
      advance
      return .atom sp text
    check (isTypeName text)
    typeReference r
  | .word _ true => typeReference r
  | _ => failure

/-- Brackets after a type: an array of it, or one of its members. -/
def arrayTypes (r : Recur) : Nat → Nat → Node → Parser Node
  | 0, _, _ => failure
  | fuel + 1, lo, type => do
    let c ← get
    if c.token != .punct "[" || c.newline then return type
    advance
    if ← eat "]" then arrayTypes r fuel lo (.arrayType (← spanFrom lo) type)
    else
      let key ← typeNode r
      expect "]"
      arrayTypes r fuel lo (.indexedType (← spanFrom lo) type key)

/-- The name and bound that `infer` introduces. Where a conditional type may begin, a bound is one
only if no `?` follows it. -/
def inferredParameter (r : Recur) (bounding : Bool) : Parser Node := do
  let lo ← start
  let name ← anyName
  let bounded : Parser Node := do
    expectWord "extends"
    let type ← r.parse (.plainType bounding)
    check (bounding || !(← atPunct "?"))
    return type
  let type ← attempt bounded
  return .typeParameter (← spanFrom lo) [] name type none

def operatorType (r : Recur) (bounding : Bool) : Nat → Parser Node
  | 0 => failure
  | fuel + 1 => do
    let c ← get
    match c.token with
    | .word text false =>
      if ["keyof", "readonly", "unique"].contains text then
        advance
        let type ← operatorType r bounding fuel
        return .typeOperator (← spanFrom c.lo) text type
      if text == "infer" then
        advance
        let param ← inferredParameter r bounding
        return .inferType (← spanFrom c.lo) param
      let type ← primaryType r
      arrayTypes r r.fuel c.lo type
    | _ =>
      let type ← primaryType r
      arrayTypes r r.fuel c.lo type

/-- Types joined by one operator, which may also stand before the first. -/
def joinedType (operator : String) (item : Parser Node) (fuel : Nat) : Parser Node := do
  let lo ← start
  let _ ← eat operator
  let types ← sepBy1 operator item fuel
  match types with
  | [type] => return type
  | types => return .joinedType (← spanFrom lo) operator types

def unionType (r : Recur) (bounding : Bool) : Parser Node :=
  joinedType "|" (joinedType "&" (operatorType r bounding r.fuel) r.fuel) r.fuel

/-- A function type stands here, from its parameters on. -/
def atFunctionType (r : Recur) : Parser Bool := lookahead do
  expect "("
  if (← atPunct ")") || (← atPunct "...") then return true
  dropModifier
  let c ← get
  if isReference c.token || c.token == .word "this" false then advance
  else
    check (c.token == .punct "\x7b" || c.token == .punct "[")
    let _ ← r.parse .pattern
  let c ← get
  if [":", ",", "?", "="].any fun p => c.token == .punct p then return true
  return (← eat ")") && (← atPunct "=>")

/-- A type that is not conditional. -/
def plainType (r : Recur) (bounding : Bool) : Parser Node := do
  let c ← get
  let next := c.next
  if c.token == .punct "<" then return ← functionType r c.lo false false
  if c.token == .word "new" false then
    advance
    return ← functionType r c.lo true false
  if c.token == .word "abstract" false && next.token == .word "new" false then
    advance
    advance
    return ← functionType r c.lo true true
  if ← atFunctionType r then return ← functionType r c.lo false false
  unionType r bounding

def type (r : Recur) : Parser Node := do
  let lo ← start
  let check ← plainType r false
  let c ← get
  if c.token == .word "extends" false && !c.newline then
    advance
    let bound ← plainType r true
    expect "?"
    let yes ← typeNode r
    expect ":"
    let no ← typeNode r
    return .conditionalType (← spanFrom lo) check bound yes no
  return check

end Codemod.Grammar
