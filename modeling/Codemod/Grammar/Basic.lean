import Codemod.Source.Cursor
import Codemod.Source.Node

/-!
# Reading the grammar

A `Parser` moves a cursor and may fail, in which case nothing has moved. The grammar is recursive
through a few `Goal`s; the rules of one goal get the parser for all goals at a smaller depth
(`Recur`), so that each rule is an ordinary function and the recursion is on the depth alone.
-/
namespace Codemod

abbrev Parser := StateT Cursor Option

/-- Where a statement stands. -/
inductive Place
  /-- In a module or a namespace, which hold imports and exports. -/
  | module
  /-- In a block. -/
  | nested
  /-- As the body of another statement, where `let` and `const` declare nothing. -/
  | body
deriving DecidableEq

/-- The points through which the grammar refers to itself. -/
inductive Goal
  /-- An expression without a top-level comma. -/
  | assignment
  /-- An operand with its subscripts. -/
  | operand
  /-- An object literal, with its braces. -/
  | object
  | statement (place : Place)
  | type
  /-- A type that is not conditional; `bounding` when it is what a conditional type compares with.
  -/
  | plainType (bounding : Bool)
  | pattern
  | block
  /-- An element or a fragment, after its `<`; ends on the `>` that closes it. -/
  | markup

/-- The parser for all goals, and a bound for the length of any list. -/
structure Recur where
  fuel : Nat
  parse : Goal → Parser Node

/-- The words of `order` that occur, in that order. -/
def inOrder (order : List String) (words : List String) : Modifiers :=
  order.filter words.contains

namespace Parser

/-- Runs a parser, or stays where it is. -/
def attempt (p : Parser α) : Parser (Option α) := fun c =>
  match p c with
  | some (a, c) => some (some a, c)
  | none => some (none, c)

def advance : Parser Unit := modify Cursor.next

/-- What a parser finds, without moving. -/
def lookahead (p : Parser Bool) : Parser Bool := fun c =>
  match p c with
  | some (b, _) => some (b, c)
  | none => some (false, c)

def within (change : Scope → Scope) (p : Parser α) : Parser α := do
  let outer := (← get).scope
  modify fun c => { c with scope := change outer }
  let a ← p
  modify fun c => { c with scope := outer }
  return a

/-- Runs a parser inside brackets, where no colon of a conditional expression is due and `in` is an
operator. -/
def bracketed (p : Parser α) : Parser α :=
  within (fun s => { s with colonAhead := false, noIn := false }) p

def inFunction (isAsync isGenerator : Bool) (p : Parser α) : Parser α :=
  within (fun s => { s with isAsync, isGenerator }) p

def atPunct (p : String) : Parser Bool := do return (← get).token == .punct p

def atWord (w : String) : Parser Bool := do return (← get).token == .word w false

def eat (p : String) : Parser Bool := do
  if ← atPunct p then advance; return true else return false

def eatWord (w : String) : Parser Bool := do
  if ← atWord w then advance; return true else return false

def expect (p : String) : Parser Unit := do
  if ← eat p then return else failure

def expectWord (w : String) : Parser Unit := do
  if ← eatWord w then return else failure

/-- Fails unless the condition holds. -/
def check (b : Bool) : Parser Unit := if b then return else failure

def start : Parser Nat := do return (← get).lo

/-- The span from `lo` to the end of the last token. -/
def spanFrom (lo : Nat) : Parser Span := do return ⟨lo, (← get).lastHi⟩

/-- The end of a statement: a semicolon, or a place where one may be left out. -/
def semicolon : Parser Unit := do
  if ← eat ";" then return
  let c ← get
  check (c.newline || c.token == .punct "\x7d" || c.token == .eof)

/-- Is a semicolon here, or a place where one may be left out? -/
def atStatementEnd : Parser Bool := do
  let c ← get
  return c.newline || [.punct ";", .punct "\x7d", .eof].contains c.token

/-- A word that an expression may refer to. -/
def isReference : Token → Bool
  | .word text escaped => escaped || !Text.isUnreferable text
  | _ => false

def atReference : Parser Bool := do return isReference (← get).token

/-- A word that is read as the name of a binding. -/
def isBinding : Token → Bool
  | .word text escaped => escaped || Text.isBindable text
  | _ => false

/-- The name of a binding: its text and span. -/
def identifier : Parser (Span × String) := do
  let c ← get
  match c.token with
  | .word text escaped =>
    check (escaped || Text.isBindable text || (text == "await" && c.scope.isAmbient))
    advance
    return (⟨c.lo, c.hi⟩, text)
  | _ => failure

/-- Any word, keywords included: its text and span. -/
def anyWord : Parser (Span × String) := do
  let c ← get
  match c.token with
  | .word text _ =>
    advance
    return (⟨c.lo, c.hi⟩, text)
  | _ => failure

def isWordToken : Token → Bool
  | .word _ _ => true
  | _ => false

/-- Items as long as the test holds before them. -/
def whileTrue (test : Parser Bool) (item : Parser α) : Nat → Parser (List α)
  | 0 => failure
  | fuel + 1 => do
    if ← test then
      let a ← item
      return a :: (← whileTrue test item fuel)
    else return []

/-- Items with commas between them, up to and with the closing punctuator. -/
def listUntil (close : String) (item : Parser α) : Nat → Parser (List α)
  | 0 => failure
  | fuel + 1 => do
    if ← eat close then return []
    let a ← item
    if ← eat "," then return a :: (← listUntil close item fuel)
    expect close
    return [a]

/-- One item or more, with a separator between two. -/
def sepBy1 (separator : String) (item : Parser α) : Nat → Parser (List α)
  | 0 => failure
  | fuel + 1 => do
    let a ← item
    if ← eat separator then return a :: (← sepBy1 separator item fuel)
    return [a]

def stringNode : Parser Node := do
  let c ← get
  match c.token with
  | .string _ raw =>
    advance
    return .stringLiteral ⟨c.lo, c.hi⟩ raw
  | _ => failure

def identName : Parser Node := do
  let (sp, text) ← identifier
  return .identName sp text

/-- Any word as the name of something declared or referred to outside expressions. -/
def anyName : Parser Node := do
  let (sp, text) ← anyWord
  return .identName sp text

/-- Any word as a name that refers to no binding. -/
def propertyWord : Parser Word := do
  let (sp, text) ← anyWord
  return ⟨sp, text⟩

end Parser

/-! ## Texts with embedded parts -/

/-- The raw text of a template up to its next part or its end; whether it ends there, and what is
left. -/
def templateText : List Char → Option (List Char × Bool × List Char)
  | [] => none
  | '\x60' :: r => some ([], true, r)
  | '$' :: '\x7b' :: r => some ([], false, r)
  | '\\' :: c :: r => do
    let (text, ends, rest) ← templateText r
    return ('\\' :: c :: text, ends, rest)
  | c :: r => do
    let (text, ends, rest) ← templateText r
    return (c :: text, ends, rest)

namespace Parser

/-- The texts and parts of a template from the raw text at `pos` on. Only a template with a tag may
have escapes in it that stand for nothing. -/
def templateParts (tagged : Bool) (part : Parser Node) :
    Nat → Nat → List Char → Parser (List String × List Node)
  | 0, _, _ => failure
  | fuel + 1, pos, cs => do
    let (text, ends, rest) ← templateText cs
    check (tagged || Text.StringLiteral.isTemplateText text)
    let c ← get
    if ends then
      set (c.resume (.punct "`") (pos + text.length + 1) rest)
      return ([String.ofList text], [])
    set (c.resume (.punct "\x7b") (pos + text.length + 2) rest)
    let node ← part
    check (← atPunct "\x7d")
    let c ← get
    let (texts, parts) ← templateParts tagged part fuel c.hi c.rest
    return (String.ofList text :: texts, node :: parts)

def template (fuel : Nat) (tagged : Bool) (part : Parser Node) : Parser Node := do
  check (← atPunct "`")
  let c ← get
  let (texts, parts) ← templateParts tagged (bracketed part) fuel c.hi c.rest
  return .templateLiteral (← spanFrom c.lo) texts parts

end Parser

end Codemod
