import Codemod.Grammar.Type

/-!
# Grammar of subscripts

What may follow an operand: members, indices, calls, type arguments, `!` and templates. Decorators
are built from the same parts, without indices.
-/
namespace Codemod.Grammar

open Codemod.Parser

def argument (r : Recur) : Parser Node := do
  let lo ← start
  if ← eat "..." then
    let expr ← assignment r
    return .spread (← spanFrom lo) expr
  assignment r

def arguments (r : Recur) : Parser (List Node) := do
  expect "("
  bracketed (listUntil ")" (argument r) r.fuel)

/-- Is the expression part of a chain that `?.` opened? -/
def inChain : Node → Bool
  | .member _ link _ _ => link != .plain
  | .index _ link _ _ => link != .plain
  | .call _ link _ _ _ => link != .plain
  | _ => false

/-- The link of a subscript without `?.` on this expression. -/
def linkTo (expr : Node) : Link := if inChain expr then .chained else .plain

def isExpressionStart : Token → Bool
  | .word text _ => !(["in", "instanceof", "as", "satisfies"].contains text)
  | .number _ => true
  | .string _ _ => true
  | .privateName _ => true
  | .punct p =>
    ["(", "[", "\x7b", "`", "/", "/=", "+", "-", "!", "~", "++", "--", "<", "@", "#"].contains p
  | _ => false

/-- May type arguments end before this token when no call follows them? -/
def endsTypeArguments (c : Cursor) : Bool :=
  match c.token with
  | .punct "<" => false
  | .punct ">" => false
  | .punct "+" => false
  | .punct "-" => false
  | t => c.newline || t.isBinaryOperator || !isExpressionStart t

def memberName : Parser PropertyName := do
  let c ← get
  match c.token with
  | .word text _ => advance; return .word ⟨c.lo, c.hi⟩ text
  | .privateName text => advance; return .privateName ⟨c.lo, c.hi⟩ text
  | _ => failure

/-- What follows `?.`. -/
def optionalSubscript (r : Recur) (lo : Nat) (expr : Node) : Parser Node := do
  let c ← get
  match c.token with
  | .punct "(" =>
    let args ← arguments r
    return .call (← spanFrom lo) .optional expr none args
  | .punct "<" =>
    let typeArgs ← typeArguments r
    let args ← arguments r
    return .call (← spanFrom lo) .optional expr (some typeArgs) args
  | .punct "[" =>
    advance
    let key ← bracketed (expression r)
    expect "]"
    return .index (← spanFrom lo) .optional expr key
  | _ =>
    let property ← memberName
    return .member (← spanFrom lo) .optional expr property

/-- Does an equals sign stand right after the last token, which is then a part of an operator? -/
def joinsEquals (c : Cursor) : Bool :=
  c.lo == c.lastHi && ["=", "==", "===", "=>"].any fun p => c.token == .punct p

/-- Type arguments on an expression, with the call or template they belong to. -/
def typeArgumentSubscript (r : Recur) (noCall : Bool) (lo : Nat) (expr : Node) : Parser Node := do
  let typeArgs ← typeArguments r
  let c ← get
  check !(joinsEquals c)
  if c.token == .punct "(" then
    if noCall then return .instantiation (← spanFrom lo) expr typeArgs
    let args ← arguments r
    return .call (← spanFrom lo) (linkTo expr) expr (some typeArgs) args
  if c.token == .punct "`" then
    let quasi ← template r.fuel true (expression r)
    return .tagged (← spanFrom lo) expr (some typeArgs) quasi
  check (endsTypeArguments c)
  return .instantiation (← spanFrom lo) expr typeArgs

/-- One subscript on the expression that starts at `lo`; `none` where no subscript follows. -/
def subscript (r : Recur) (noCall noIndex : Bool) (lo : Nat) (expr : Node) :
    Parser (Option Node) := do
  let c ← get
  match c.token with
  | .punct "." =>
    advance
    let property ← memberName
    return some (.member (← spanFrom lo) (linkTo expr) expr property)
  | .punct "?." =>
    advance
    return some (← optionalSubscript r lo expr)
  | .punct "[" =>
    if noIndex then return none
    advance
    let key ← bracketed (expression r)
    expect "]"
    return some (.index (← spanFrom lo) (linkTo expr) expr key)
  | .punct "(" =>
    if noCall then return none
    let args ← arguments r
    return some (.call (← spanFrom lo) (linkTo expr) expr none args)
  | .punct "!" =>
    if c.newline then return none
    advance
    return some (.nonNull (← spanFrom lo) expr)
  | .punct "`" =>
    let quasi ← template r.fuel true (expression r)
    return some (.tagged (← spanFrom lo) expr none quasi)
  | .punct "<" => attempt (typeArgumentSubscript r noCall lo expr)
  | .punct "<<" => attempt (typeArgumentSubscript r noCall lo expr)
  | _ => return none

/-- All subscripts on the expression that starts at `lo`. -/
def subscripts (r : Recur) (noCall noIndex : Bool) (lo : Nat) : Nat → Node → Parser Node
  | 0, _ => failure
  | fuel + 1, expr => do
    match ← subscript r noCall noIndex lo expr with
    | some expr => subscripts r noCall noIndex lo fuel expr
    | none => return expr

/-! ## Decorators -/

/-- A decorator: a dotted name with calls, or any expression in parentheses, which are not kept. Nor
are type arguments of a call on these. -/
def decorator (r : Recur) : Parser Node := do
  let lo ← start
  check (← get).dialect.decorators
  expect "@"
  let c ← get
  let head ←
    if ← eat "(" then do
      let expr ← expression r
      expect ")"
      pure expr
    else do
      let (sp, text) ← identifier
      check (text != "yield")
      subscripts r false true c.lo r.fuel (.ident sp text)
  let typed := (← typeArguments? r).isSome
  let expr ←
    if typed || (← atPunct "(") then do
      let args ← arguments r
      pure (Node.call (← spanFrom head.span.lo) (linkTo head) head none args)
    else pure head
  return .decorator (← spanFrom lo) expr

def decorators (r : Recur) : Parser (List Node) :=
  whileTrue (atPunct "@") (decorator r) r.fuel

end Codemod.Grammar
