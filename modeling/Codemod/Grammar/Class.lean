import Codemod.Grammar.Function

/-!
# Grammar of classes

Classes with their heritage and members. A word such as `static` or `readonly` is a modifier only
before another word or a key; otherwise it is itself the key of a member.
-/
namespace Codemod.Grammar

open Codemod.Parser

/-- A base of an interface, or an interface that a class implements. -/
def heritage (r : Recur) : Parser Node := do
  let lo ← start
  let (sp, text) ← anyWord
  match ← subscripts r true true lo r.fuel (.ident sp text) with
  | .instantiation sp expr args => return .heritage sp expr (some args)
  | expr =>
    let args ← if ← atPunct "<" then pure (some (← typeArguments r)) else pure none
    return .heritage (← spanFrom lo) expr args

/-- Does something else than an interface follow the names of interfaces? -/
def atHeritageEnd : Parser Bool := do
  return (← atPunct "\x7b") || (← atWord "implements") || (← atWord "extends")

/-- Interfaces with commas between them. -/
def heritages (r : Recur) : Nat → Parser (List Node)
  | 0 => failure
  | fuel + 1 => do
    if ← atHeritageEnd then return []
    let node ← heritage r
    if ← eat "," then return node :: (← heritages r fuel)
    check (← atHeritageEnd)
    return [node]

/-- The interfaces after a keyword, if it stands here. -/
def heritageAfter (r : Recur) (keyword : String) : Parser (List Node) := do
  if ← eatWord keyword then heritages r r.fuel else return []

/-- Keywords before a field, in the order in which they are printed. -/
def fieldModifierWords : List String :=
  ["declare", "public", "protected", "private", "static", "abstract", "override", "readonly",
   "accessor"]

/-- Keywords before a method, in the order in which they are printed. -/
def methodModifierWords : List String :=
  ["public", "protected", "private", "static", "abstract", "override", "async"]

def isConstructorKey : Key Node → Bool
  | .word _ text => text == "constructor"
  | .stringLiteral _ raw => raw == "'constructor'" || raw == "\"constructor\""
  | _ => false

/-- What has been read of a member before its key. -/
structure MemberHead where
  lo : Nat
  decorators : List Node
  words : List String

def atMethod : Parser Bool := do return (← atPunct "(") || (← atPunct "<")

/-- Does the rest of a field follow? The end of the line ends one if `byLine`. -/
def atField (byLine : Bool) : Parser Bool := do
  let c ← get
  let isSign := ["!", ":", "=", ";", "\x7d"].any fun p => c.token == .punct p
  return isSign || (byLine && (c.newline || c.token == .eof))

def methodRest (r : Recur) (head : MemberHead) (kind : MethodKind) (generator : Bool)
    (key : Key Node) (optional : Bool) : Parser Node := do
  let (s, body) ← signatureAndBody r (head.words.contains "async") generator
  let modifiers := inOrder methodModifierWords head.words
  return .classMethod (← spanFrom head.lo) head.decorators modifiers kind generator key optional
    s.typeParams s.params s.result body

def constructorRest (r : Recur) (head : MemberHead) : Parser Node :=
  inFunction false false do
    let s ← signatureOf r (constructorParameter r)
    let body ← functionBody? r
    let modifiers := inOrder ["public", "protected", "private"] head.words
    return .classConstructor (← spanFrom head.lo) modifiers s.params body

/-- The rest of a field, after its key. The semicolon after it may be missing. -/
def fieldRest (r : Recur) (head : MemberHead) (key : Key Node) (optional : Bool) :
    Parser Node := do
  check !(isConstructorKey key)
  let mark ← if optional then pure "?" else do
    if ← eat "!" then pure "!" else pure ""
  let type ← typeAnnotation r
  let value ← if ← eat "=" then pure (some (← assignment r)) else pure none
  let _ ← eat ";"
  let modifiers := inOrder fieldModifierWords head.words
  return .classField (← spanFrom head.lo) head.decorators modifiers key mark type value

/-- A member whose key is a word that modifies members elsewhere, if what follows makes it one. -/
def memberNamed? (r : Recur) (head : MemberHead) (sp : Span) (word : String) (byLine : Bool) :
    Parser (Option Node) := do
  let key := Key.word sp word
  if ← atMethod then return some (← methodRest r head .method false key false)
  if (← atField byLine) || (← atPunct "?") then
    let optional ← eat "?"
    return some (← fieldRest r head key optional)
  return none

def keyedMember (r : Recur) (head : MemberHead) : Parser Node := do
  if ← eat "*" then
    let key ← memberKey r
    return ← methodRest r head .method true key false
  let key ← memberKey r
  let optional ← eat "?"
  if ← atMethod then
    if isConstructorKey key then return ← constructorRest r head
    return ← methodRest r head .method false key optional
  let c ← get
  let isAccessor := match key with
    | .word _ text => text == "get" || text == "set"
    | _ => false
  let accesses := isAccessor && !(← atField false) && !(c.newline && c.token == .punct "*")
  if !accesses && (← atField true) then return ← fieldRest r head key optional
  match key with
  | .word _ "async" =>
    check !c.newline
    let overriding ← modifierOf ["override"] isModified
    let generator ← eat "*"
    let name ← memberKey r
    let mark ← eat "?"
    let head := { head with words := "async" :: overriding.toList ++ head.words }
    methodRest r head .method generator name (optional || mark)
  | .word _ "get" => methodRest r head .getter false (← memberKey r) false
  | .word _ "set" => methodRest r head .setter false (← memberKey r) false
  | _ => failure

def staticBlock (r : Recur) (lo : Nat) : Parser Node := do
  let body ← r.parse .block
  return .staticBlock (← spanFrom lo) body

/-- A member after `declare`, access, `static` and `accessor`. -/
def modifiedMember (r : Recur) (head : MemberHead) : Parser Node := do
  let isBlock : Parser Bool := do
    let c ← get
    return c.token == .word "static" false && c.next.token == .punct "\x7b"
  let more : Parser (Option String) := do
    if ← isBlock then return none
    modifierOf ["abstract", "readonly", "override", "static"] isModified
  let found ← wordsOf more r.fuel
  let isStatic := head.words.contains "static" || found.contains "static"
  let accessor := (← modifierOf ["accessor"] isModified).toList
  if ← isBlock then
    advance
    return ← staticBlock r head.lo
  if isStatic && (← atPunct "\x7b") then return ← staticBlock r head.lo
  let plain := !(head.words ++ found).any
    fun w => ["public", "protected", "private", "abstract", "override"].contains w
  if plain && (← atIndexSignature) then
    let words := inOrder fieldModifierWords (head.words ++ found)
    let node ← indexSignature r head.lo words
    memberEnd
    return node
  keyedMember r { head with words := head.words ++ found ++ accessor }
where
  /-- Words as long as there is one. -/
  wordsOf (word : Parser (Option String)) : Nat → Parser (List String)
    | 0 => failure
    | fuel + 1 => do
      match ← word with
      | some text => return text :: (← wordsOf word fuel)
      | none => return []

/-- A member of a class. Its words come in a fixed order; each is the key of the member instead when
parameters or the rest of a field follow it. -/
def classMember (r : Recur) : Parser Node := do
  let lo ← start
  let decorators ← decorators r
  let early ← eatWord "declare"
  let access := (← modifierOf ["public", "protected", "private"] isModified).toList
  let declares ← if early then pure true else eatWord "declare"
  if declares then
    let head := ⟨lo, decorators, access⟩
    if let some node ← memberNamed? r head (← spanFrom lo) "declare" true then return node
  let words := access ++ (if declares then ["declare"] else [])
  let c ← get
  let isStatic ← eatWord "static"
  if isStatic && !(← atPunct "\x7b") then
    let head := ⟨lo, decorators, words⟩
    if let some node ← memberNamed? r head ⟨c.lo, c.hi⟩ "static" false then return node
  let words := if isStatic then words ++ ["static"] else words
  let c ← get
  let accesses ← eatWord "accessor"
  if accesses then
    let head := ⟨lo, decorators, words⟩
    if let some node ← memberNamed? r head ⟨c.lo, c.hi⟩ "accessor" true then return node
  modifiedMember r ⟨lo, decorators, if accesses then words ++ ["accessor"] else words⟩

/-- Members in braces; a semicolon alone is an empty one. -/
def classMembers (r : Recur) : Parser (List Node) := do
  expect "\x7b"
  let member : Parser Node := do
    let c ← get
    if ← eat ";" then return .emptyStmt ⟨c.lo, c.hi⟩
    classMember r
  let members ← bracketed (whileTrue (do return !(← atPunct "\x7d")) member r.fuel)
  expect "\x7d"
  return members

/-- An operand as a base class, with its type arguments. -/
def baseClass (r : Recur) : Parser (Node × Option Node) := do
  match ← r.parse .operand with
  | .instantiation _ expr typeArgs => return (expr, some typeArgs)
  | expr => return (expr, ← typeArguments? r)

structure Heritage where
  base : Option Node
  baseArgs : Option Node
  implemented : List Node

/-- The clauses before the body of a class. A clause that is there twice is read and dropped, and a
base may also follow the interfaces. -/
def classHeritage (r : Recur) : Parser Heritage := do
  let first ← if ← eatWord "extends" then pure (some (← baseClass r)) else pure none
  if first.isSome then
    if ← eat "," then
      let _ ← heritages r r.fuel
  if ← eatWord "extends" then
    let _ ← r.parse .operand
  let implemented ← heritageAfter r "implements"
  let _ ← heritageAfter r "implements"
  let last ← if ← eatWord "extends" then pure (some (← baseClass r)) else pure none
  match first <|> last with
  | some (base, args) => return ⟨some base, args, implemented⟩
  | none => return ⟨none, none, implemented⟩

/-- A class from its keyword on; `lo` is where the class starts. -/
def classRest (r : Recur) (lo : Nat) (modifiers : Modifiers) (decorators : List Node)
    (named : Bool) : Parser Node := do
  expectWord "class"
  let name ←
    if named || (← atReference) || (← atWord "this") then do
      check !(← atWord "let")
      pure (some (← identName))
    else pure none
  let typeParams ← typeParameters? r
  let h ← classHeritage r
  let members ← classMembers r
  return .classLike (← spanFrom lo) modifiers decorators name typeParams h.base h.baseArgs
    h.implemented members

end Codemod.Grammar
