import Codemod.Grammar.Class
import Codemod.Grammar.Markup

/-!
# Grammar of expressions

From primary expressions through operators to assignments. What stands in parentheses is read once,
as items that serve an expression and the parameters of an arrow alike, and becomes the one or the
other when it is known what follows. Type arguments and a comparison are told apart by trying the
longer reading first.
-/
namespace Codemod.Grammar

open Codemod.Parser

/-! ## Literals -/

/-- The body of a regular expression up to its closing mark; `inClass` inside square brackets. -/
def regexBody : Bool → List Char → Option (List Char × List Char)
  | _, [] => none
  | inClass, '\\' :: c :: r =>
    if Text.isLineEnd c then none
    else do
      let (body, rest) ← regexBody inClass r
      return ('\\' :: c :: body, rest)
  | inClass, c :: r =>
    if Text.isLineEnd c then none
    else if c == '/' && !inClass then some ([], r)
    else do
      let (body, rest) ← regexBody (c == '[' || (inClass && c != ']')) r
      return (c :: body, rest)

/-- The flags after a regular expression, which are a word or nothing: their text, their width and
the text after them. -/
def regexFlags (cs : List Char) : Option (String × Nat × List Char) :=
  if cs.head?.any Text.isIdentStart then
    match Token.scanWord cs with
    | ⟨.word text _, width, rest⟩ => some (text, width, rest)
    | _ => none
  else some ("", 0, cs)

/-- A regular expression, where the tokens here begin with a slash. -/
def regex : Parser Node := do
  let c ← get
  let cs := if c.token == .punct "/=" then '=' :: c.rest else c.rest
  let (body, rest) ← regexBody false cs
  let (flags, width, rest) ← regexFlags rest
  let text := String.ofList ('/' :: body ++ ['/']) ++ flags
  let hi := c.lo + body.length + width + 2
  set (c.resume (.string text text) hi rest)
  return .atom ⟨c.lo, hi⟩ text

def patternOf : Node → Node
  | .parameter _ _ _ pattern => pattern
  | node => node

/-- What a setter keeps of its parameters: the last of the first two, and what is before it. -/
def setterParams (lo : Nat) (params : List Node) : List Node :=
  if params.isEmpty then [.invalid ⟨lo, lo⟩] else (params.take 2).map patternOf

/-- The rest of a method in an object, after its key. A getter keeps the type of its result only,
and a setter its parameter. -/
def objectMethod (r : Recur) (lo : Nat) (modifiers : Modifiers) (kind : MethodKind)
    (generator : Bool) (key : Key Node) : Parser Node := do
  let (s, body) ← signatureAndBody r (modifiers.contains "async") generator
  let sp ← spanFrom lo
  match kind with
  | .method =>
    return .objectMethod sp modifiers kind generator key s.typeParams s.params s.result body
  | .getter => return .objectMethod sp modifiers kind generator key none [] s.result body
  | .setter =>
    return .objectMethod sp modifiers kind generator key none (setterParams lo s.params) none body

/-- A property whose key is a word and no method: a name, perhaps with a default, or the word before
the key of a method. -/
def shorthandProperty (r : Recur) (lo : Nat) (sp : Span) (text : String) : Parser Node := do
  let _ ← eat "?"
  if ← eat "=" then
    let value ← assignment r
    return .shorthand (← spanFrom lo) false (.ident sp text) value
  if (← atPunct ",") || (← atPunct "\x7d") then return .ident sp text
  check (["get", "set", "async"].contains text)
  let generator ← if text == "async" then eat "*" else pure false
  let key ← propertyKey r
  match text with
  | "get" => objectMethod r lo [] .getter false key
  | "set" => objectMethod r lo [] .setter false key
  | _ => objectMethod r lo ["async"] .method generator key

def objectProperty (r : Recur) : Parser Node := do
  let lo ← start
  if ← eat "..." then
    let expr ← assignment r
    return .spread (← spanFrom lo) expr
  if ← eat "*" then
    let key ← propertyKey r
    return ← objectMethod r lo [] .method true key
  dropModifier
  let key ← propertyKey r
  if ← eat ":" then
    let value ← assignment r
    return .keyValue (← spanFrom lo) key value
  if ← atMethod then return ← objectMethod r lo [] .method false key
  match key with
  | .word sp text => shorthandProperty r lo sp text
  | key =>
    check (← atPunct "\x7d")
    let sp ← spanFrom lo
    return .keyValue sp key (.invalid sp)

def objectLiteral (r : Recur) : Parser Node := do
  let lo ← start
  expect "\x7b"
  let properties ← bracketed (listUntil "\x7d" (objectProperty r) r.fuel)
  return .objectLiteral (← spanFrom lo) properties

/-- May the expression be constructed? A chain may not end in what opens it, and `import` and
`super` are no expressions by themselves. -/
def isConstructible : Node → Bool
  | .atom _ text => text != "import" && text != "super"
  | .member _ link _ _ => link != .optional
  | .index _ link _ _ => link != .optional
  | .call _ link _ _ _ => link != .optional
  | _ => true

/-- A `new` expression; `callee` reads what is constructed, without calls. -/
def construction (r : Recur) (callee : Parser Node) : Parser Node := do
  let lo ← start
  expectWord "new"
  if ← eat "." then
    expectWord "target"
    return .atom (← spanFrom lo) "new.target"
  let start ← start
  let head ← callee
  let head ← subscripts r true false start r.fuel head
  check (isConstructible head)
  let (head, typeArgs) := match head with
    | .instantiation _ expr typeArgs => (expr, some typeArgs)
    | head => (head, none)
  if ← atPunct "(" then
    let args ← arguments r
    return .construct (← spanFrom lo) head typeArgs true args
  return .construct (← spanFrom lo) head typeArgs false []

/-- `import` in an expression: a call, or the properties of the module. -/
def importExpr : Parser Node := do
  let c ← get
  expectWord "import"
  if ← eat "." then
    let (_, text) ← anyWord
    check (text == "meta" || (["defer", "source"].contains text && (← atPunct "(")))
    return .atom (← spanFrom c.lo) ("import." ++ text)
  check (← atPunct "(")
  return .atom ⟨c.lo, c.hi⟩ "import"

/-! ## Parentheses and arrows -/

def isArrow : Node → Bool
  | .arrow .. => true
  | _ => false

/-- What stands in parentheses before it is known whether an arrow follows them. -/
structure ParenItem where
  node : Node
  /-- Is it written as only a parameter may be? -/
  isPattern : Bool

def ParenItem.param? : ParenItem → Option Node
  | ⟨node, true⟩ => some node
  | ⟨.spread _ argument, false⟩ => do
    return .restPattern argument.span (← argument.toPattern? true) none
  | ⟨node, false⟩ => node.toPattern? true

/-- The item as a part of a parenthesized expression. -/
def ParenItem.expr? : ParenItem → Option Node
  | ⟨.spread .., _⟩ => none
  | ⟨node, isPattern⟩ => if isPattern then none else some node

/-- May a type be given to the pattern? -/
def isTyped : Node → Bool
  | .bindingIdent .. => true
  | .arrayPattern .. => true
  | .objectPattern .. => true
  | .restPattern .. => true
  | _ => false

/-- An item in parentheses. `operation` reads one that begins with a name, up to a question mark,
and `alternatives` the two branches after that mark. -/
def parenItem (r : Recur) (operation : Parser Node) (alternatives : Nat → Node → Parser Node) :
    Parser ParenItem := do
  dropModifier
  let lo ← start
  let spreads ← eat "..."
  let named ← atReference
  let expr ← if named then operation else assignment r
  let c ← get
  let marked := named && c.token == .punct "?"
  let optional := marked &&
    [",", "=", ")", ":"].any fun p => c.next.token == .punct p
  if optional then
    check (expr matches .ident ..)
    advance
  let expr ← if marked && !optional && !spreads then do
      advance
      alternatives lo expr
    else pure expr
  if optional || (← atPunct ":") then
    let pattern ← expr.toPattern? true
    let pattern := annotate optional none pattern
    let sp ← spanFrom lo
    let pattern := if spreads then .restPattern sp pattern none else pattern
    let pattern ← if isTyped pattern then do
        let type ← typeAnnotation r
        pure (annotate optional type pattern)
      else pure pattern
    return ⟨← withDefault r lo pattern, true⟩
  let sp ← spanFrom lo
  return ⟨if spreads then .spread sp expr else expr, false⟩

/-- Does the item stand for all parameters that are left? -/
def ParenItem.isRest : ParenItem → Bool
  | ⟨.spread .., _⟩ => true
  | ⟨.restPattern .., _⟩ => true
  | _ => false

/-- Items as the parameters of an arrow. One for all that are left is dropped before others. -/
def paramsOf? : List ParenItem → Option (List Node)
  | [] => some []
  | [item] => do return [← item.param?]
  | item :: items =>
    if item.isRest then paramsOf? items
    else do return (← item.param?) :: (← paramsOf? items)

/-- An arrow after the items in its parentheses and the type of its result. -/
def arrowOf (r : Recur) (lo : Nat) (isAsync : Bool) (items : List ParenItem)
    (result : Option Node) : Parser Node := do
  let params ← paramsOf? items
  let body ← arrowRest r isAsync
  return .arrow (← spanFrom lo) (if isAsync then ["async"] else []) none params result body

/-- The type after a colon, where an arrow follows it. -/
def resultOfArrow (r : Recur) : Parser (Option Node) := do
  let c ← get
  if c.scope.colonAhead then return none
  let result : Parser (Option Node) := do
    let type ← resultAnnotation r
    check (← atPunct "=>")
    return type
  return (← attempt result).join

/-- What items in parentheses are, by what follows: the parameters of an arrow, arguments of a
function called `async`, or an expression. In a branch of a conditional expression a colon begins
the type of a result only if the arrow leaves the colon that is still due. -/
def parenRest (r : Recur) (lo : Nat) (isAsync : Option Span) (canArrow : Bool)
    (items : List ParenItem) : Parser Node := do
  let c ← get
  if c.scope.inConditional && c.token == .punct ":" then
    let branch : Parser Node := do
      let result ← resultAnnotation r
      let node ← arrowOf r lo isAsync.isSome items result
      check (!c.scope.colonAhead || (← atPunct ":"))
      return node
    if let some node ← attempt branch then return node
  let result ← resultOfArrow r
  if items.any (·.isPattern) || result.isSome || (← atPunct "=>") then
    check (canArrow && !(← get).newline)
    return ← arrowOf r lo isAsync.isSome items result
  match isAsync with
  | some sp =>
    check !(items.any (·.isPattern))
    return .call (← spanFrom lo) .plain (.ident sp "async") none (items.map (·.node))
  | none =>
    let sp ← spanFrom lo
    match ← (items.mapM ParenItem.expr? : Option (List Node)) with
    | [] => failure
    | [expr] => return .paren sp expr
    | exprs@(first :: _) =>
      let hi := (exprs.getLast?.map (·.span.hi)).getD sp.hi
      return .paren sp (.sequence ⟨first.span.lo, hi⟩ exprs)

/-- An asynchronous arrow with type parameters, after its first word. -/
def genericAsyncArrow (r : Recur) (lo : Nat) : Parser Node := do
  check (← atPunct "<")
  let s ← inFunction true false (signature r)
  let body ← arrowRest r true
  return .arrow (← spanFrom lo) ["async"] s.typeParams s.params s.result body

def arrowOfName (r : Recur) (lo : Nat) (isAsync : Bool) (name : Span × String) : Parser Node := do
  let param := Node.bindingIdent name.1 name.2 false none
  let body ← arrowRest r isAsync
  return .arrow (← spanFrom lo) (if isAsync then ["async"] else []) none [param] none body

/-- A name after the word `async`, on its line: the parameter of an arrow, or a type it is cast to.
-/
def asyncName (r : Recur) (async : Span) : Parser Node := do
  let (sp, text) ← identifier
  if text == "as" && !(← atPunct "=>") then
    let type ← typeNode r
    return .cast (← spanFrom async.lo) "as" (.ident async "async") type
  arrowOfName r async.lo true (sp, text)

def nameOrArrow (r : Recur) (canArrow : Bool) : Parser Node := do
  let c ← get
  match c.token with
  | .word text _ =>
    check (isReference c.token || text == "let")
    advance
    let sp : Span := ⟨c.lo, c.hi⟩
    let after ← get
    if canArrow && text != "let" && !after.newline then
      let ranges := c.scope.noIn && after.token == .word "of" false &&
        after.next.token != .punct "=>"
      if text == "async" && isReference after.token && !ranges then return ← asyncName r sp
      if after.token == .punct "=>" then return ← arrowOfName r c.lo false (sp, text)
    return .ident sp text
  | _ => failure

/-! ## Primary expressions -/

def keywordExprs : List String := ["this", "super", "null", "true", "false"]

/-- A primary expression; `item` reads what stands in parentheses. -/
def primary (r : Recur) (item : Parser ParenItem) : Nat → Parser Node
  | 0 => failure
  | fuel + 1 => do
    let c ← get
    let sp : Span := ⟨c.lo, c.hi⟩
    let canArrow := c.scope.arrowStart == some c.lo
    let parenthesized (isAsync : Option Span) : Parser Node := do
      expect "("
      let items ← bracketed (listUntil ")" item r.fuel)
      parenRest r c.lo isAsync canArrow items
    match c.token with
    | .number raw => advance; return .numberLiteral sp raw
    | .string _ raw => advance; return .stringLiteral sp raw
    | .privateName text => advance; return .privateName sp text
    | .punct "#" =>
      advance
      let (_, text) ← anyWord
      return .privateName (← spanFrom c.lo) text
    | .punct "`" => template r.fuel false (expression r)
    | .punct "(" => parenthesized none
    | .punct "[" =>
      advance
      let elements ← bracketed (arrayElements (argument r) r.fuel)
      return .arrayLiteral (← spanFrom c.lo) elements
    | .punct "\x7b" => objectLiteral r
    | .punct "/" => regex
    | .punct "/=" => regex
    | .punct "@" =>
      let decorators ← decorators r
      classRest r c.lo [] decorators false
    | .punct "<" =>
      check c.dialect.tsx
      advance
      let node ← r.parse .markup
      advance
      return node
    | .word text false =>
      let next := c.next
      if keywordExprs.contains text then
        check (text != "super" || ["(", ".", "["].any fun p => next.token == .punct p)
        advance
        return .atom sp text
      match text with
      | "function" => functionRest r c.lo [] false
      | "class" => classRest r c.lo [] [] false
      | "new" => construction r (primary r item fuel)
      | "import" => importExpr
      | "async" =>
        if next.token == .word "function" false && !next.newline then
          advance
          return ← functionRest r c.lo ["async"] false
        if canArrow && next.token == .punct "<" then
          if let some node ← attempt (do advance; genericAsyncArrow r c.lo) then return node
        if canArrow && next.token == .punct "(" && !next.newline then
          advance
          return ← parenthesized (some sp)
        nameOrArrow r canArrow
      | _ => nameOrArrow r canArrow
    | _ => nameOrArrow r canArrow

/-! ## Operators -/

def unaryPunctuators : List String := ["!", "~", "+", "-"]

def unaryWords : List String := ["typeof", "void", "delete"]

/-- Is there nothing that an operator could be applied to? -/
def lacksOperand (c : Cursor) : Bool :=
  match c.token with
  | .eof => true
  | .punct p => !(isExpressionStart c.token) && p != "..."
  | _ => false

/-- The operator that `>` begins, with the characters right after it. -/
def angleOperator : List Char → String
  | '>' :: '>' :: '=' :: _ => ">>>="
  | '>' :: '>' :: _ => ">>>"
  | '>' :: '=' :: _ => ">>="
  | '>' :: _ => ">>"
  | '=' :: _ => ">="
  | _ => ">"

/-- Binary operators by how tightly they bind. -/
def precedence? (operator : String) : Option Nat :=
  [("??", 1), ("||", 2), ("&&", 3), ("|", 4), ("^", 5), ("&", 6), ("==", 7), ("!=", 7), ("===", 7),
   ("!==", 7), ("<", 8), (">", 8), ("<=", 8), (">=", 8), ("instanceof", 8), ("in", 8), ("<<", 9),
   (">>", 9), (">>>", 9), ("+", 10), ("-", 10), ("*", 11), ("/", 11), ("%", 11),
   ("**", 12)].lookup operator

/-- How tightly `as` and `satisfies` bind. -/
def castPrecedence : Nat := 8

def operatorText (c : Cursor) : String :=
  match c.token with
  | .punct ">" => angleOperator c.rest
  | .punct p => p
  | .word "in" false => "in"
  | .word "instanceof" false => "instanceof"
  | _ => ""

/-- Moves past an operator, which may be longer than its token. -/
def advanceOperator (operator : String) : Parser Unit := do
  match (← get).token with
  | .punct p => modify fun c => c.nextAfter (operator.length - p.length)
  | _ => advance

def assignmentOperators : List String :=
  ["=", "+=", "-=", "*=", "/=", "%=", "**=", "<<=", ">>=", ">>>=", "&=", "|=", "^=", "&&=", "||=",
   "??="]

/-- Expressions that a power may not have as its base. -/
def isUnary : Node → Bool
  | .unary .. => true
  | .awaitExpr .. => true
  | _ => false

/-- Expressions that nothing is assigned to, so that they end before the sign of an assignment. -/
def isOperation : Node → Bool
  | .arrow .. => true
  | .conditional .. => true
  | .binary .. => true
  | .unary .. => true
  | .update .. => true
  | _ => false

/-- An assignment to an expression, if its sign follows. -/
def assignmentRest (r : Recur) (lo : Nat) (left : Node) : Parser Node := do
  let operator := operatorText (← get)
  if isOperation left || !assignmentOperators.contains operator then return left
  let target ← if operator == "=" then left.assigned? else left.updated?
  advanceOperator operator
  let value ← assignment r
  return .assign (← spanFrom lo) operator target value

/-- The branches of a conditional expression, after its question mark. -/
def branches (r : Recur) (lo : Nat) (test : Node) : Parser Node := do
  let yes ← within
    (fun s => { s with inConditional := true, colonAhead := true, noIn := false }) (assignment r)
  expect ":"
  let no ← within (fun s => { s with inConditional := true, colonAhead := false }) (assignment r)
  return .conditional (← spanFrom lo) test yes no

/-- The word `await` where it is a name: outside asynchronous functions, before what ends an
expression. -/
def awaitsNothing (c : Cursor) : Parser Bool := do
  return !c.scope.isAsync && ((← atPunct ")") || (← atPunct "]") || (← atStatementEnd))

/-- A type in angle brackets before an expression, from the bracket on; `operand` reads the
expression. -/
def typeAssertion (r : Recur) (operand : Parser Node) : Parser Node := do
  let lo ← start
  expect "<"
  let c ← get
  if ← eatWord "const" then
    expect ">"
    let expr ← operand
    return .cast (← spanFrom lo) "as" expr (.atom ⟨c.lo, c.hi⟩ "const")
  let type ← typeNode r
  expect ">"
  let expr ← operand
  return .assertion (← spanFrom lo) type expr

/-- The rules of operands: a primary expression with its subscripts. -/
def operandOf (r : Recur) (item : Parser ParenItem) : Parser Node := do
  let lo ← start
  let expr ← primary r item r.fuel
  if isArrow expr then return expr
  subscripts r false false lo r.fuel expr

/-- An operand with an increment after it, if there is one on the line. -/
def incremented (r : Recur) (item : Parser ParenItem) : Parser Node := do
  let lo ← start
  let expr ← operandOf r item
  let c ← get
  match c.token with
  | .punct p =>
    if (p == "++" || p == "--") && !c.newline && !isArrow expr then
      advance
      return .update (← spanFrom lo) false p expr
    return expr
  | _ => return expr

/-- The operand of an operator before it, or a mark where there is none. -/
def operandAfter (operand : Parser Node) : Parser Node := do
  let c ← get
  if lacksOperand c then return .invalid ⟨c.lo, c.lo⟩ else operand

def unary (r : Recur) (item : Parser ParenItem) : Nat → Parser Node
  | 0 => failure
  | fuel + 1 => do
    let c ← get
    match c.token with
    | .punct p =>
      if unaryPunctuators.contains p then
        advance
        let expr ← operandAfter (unary r item fuel)
        return .unary (← spanFrom c.lo) p expr
      if p == "++" || p == "--" then
        advance
        let expr ← unary r item fuel
        return .update (← spanFrom c.lo) true p expr
      if p == "<" && !c.dialect.tsx then return ← typeAssertion r (unary r item fuel)
      incremented r item
    | .word text false =>
      if unaryWords.contains text then
        advance
        let expr ← operandAfter (unary r item fuel)
        return .unary (← spanFrom c.lo) text expr
      if text == "await" then
        advance
        check !(← atPunct "*")
        if ← awaitsNothing c then return .ident ⟨c.lo, c.hi⟩ text
        let expr ← unary r item fuel
        return .awaitExpr (← spanFrom c.lo) expr
      incremented r item
    | _ => incremented r item

/-- Operators on the left operand, as far as they bind tighter than `least`. -/
def binaryRest (r : Recur) (item : Parser ParenItem) : Nat → Nat → Nat → Node → Parser Node
  | 0, _, _, _ => failure
  | fuel + 1, least, lo, left => do
    let c ← get
    let isCast := c.token == .word "as" false || c.token == .word "satisfies" false
    if isCast && !c.newline && least < castPrecedence then
      let (_, keyword) ← anyWord
      let here ← get
      let type ←
        if keyword == "as" && here.token == .word "const" false then do
          advance
          pure (Node.atom ⟨here.lo, here.hi⟩ "const")
        else typeNode r
      return ← binaryRest r item fuel least lo (.cast (← spanFrom lo) keyword left type)
    let operator := operatorText c
    match precedence? operator with
    | none => return left
    | some level =>
      if level ≤ least || (c.scope.noIn && operator == "in") then return left
      check (operator != "**" || !isUnary left)
      advanceOperator operator
      let start ← start
      let right ← unary r item r.fuel
      let right ← binaryRest r item fuel (if operator == "**" then level - 1 else level) start right
      binaryRest r item fuel least lo (.binary (← spanFrom lo) operator left right)

/-- Does an operator between two operands stand here, where no operand can? -/
def lacksLeft (c : Cursor) : Bool :=
  match c.token with
  | .punct p => !(isExpressionStart c.token) && (precedence? (operatorText c)).isSome && p != "<<"
  | .word "in" false => !c.scope.noIn
  | .word "instanceof" false => true
  | _ => false

/-- Is it an arrow with a block, whose parameters are in parentheses that open at the cursor? -/
def isBlockArrow (c : Cursor) : Node → Bool
  | .arrow _ _ none _ _ (.blockStmt ..) =>
    c.token == .punct "(" || (c.token == .word "async" false && c.next.token == .punct "(")
  | _ => false

/-- Operands with operators between them. A mark stands for a left operand that is missing, and an
arrow with a block may be one. -/
def binaryOf (r : Recur) (item : Parser ParenItem) : Parser Node := do
  let c ← get
  let left ← if lacksLeft c then pure (.invalid ⟨c.lo, c.hi⟩) else unary r item r.fuel
  if isArrow left && !(isBlockArrow c left && (← get).token.isBinaryOperator) then return left
  binaryRest r item r.fuel 0 c.lo left

/-- Items in parentheses, to a depth: an item that begins with a name is read as operators on
operands, of which any may again be in parentheses. -/
def itemAt (r : Recur) : Nat → Parser ParenItem
  | 0 => failure
  | fuel + 1 => do
    let operation : Parser Node := do
      let lo ← start
      let left ← within (fun s => { s with arrowStart := some lo }) (binaryOf r (itemAt r fuel))
      assignmentRest r lo left
    parenItem r operation (branches r)

def operand (r : Recur) : Parser Node := operandOf r (itemAt r r.fuel)

def conditional (r : Recur) : Parser Node := do
  let lo ← start
  let test ← binaryOf r (itemAt r r.fuel)
  if isArrow test then return test
  if ← eat "?" then branches r lo test else return test

/-! ## Assignments -/

/-- A conditional expression or an arrow, or an assignment to it. -/
def plainAssignment (r : Recur) : Parser Node := do
  let lo ← start
  let left ← within (fun s => { s with arrowStart := some lo }) (conditional r)
  assignmentRest r lo left

def yieldExpr (r : Recur) : Parser Node := do
  let lo ← start
  expectWord "yield"
  let c ← get
  if ← atStatementEnd then return .yieldExpr (← spanFrom lo) false none
  if c.token == .punct "*" then
    advance
    let expr ← assignment r
    return .yieldExpr (← spanFrom lo) true (some expr)
  if !isExpressionStart c.token then return .yieldExpr (← spanFrom lo) false none
  let expr ← assignment r
  return .yieldExpr (← spanFrom lo) false (some expr)

/-- An arrow with type parameters before it. -/
def genericArrow (r : Recur) : Parser Node := within (fun s => { s with colonAhead := false }) do
  let lo ← start
  match ← typeParameters? r, ← plainAssignment r with
  | some typeParams, .arrow sp modifiers none params result body =>
    return .arrow ⟨lo, sp.hi⟩ modifiers (some typeParams) params result body
  | _, _ => failure

/-- The rules of assignments. Where elements stand in angle brackets, an arrow with type parameters
is what cannot be read as an element. -/
def assignmentExpr (r : Recur) : Parser Node := do
  let c ← get
  if c.scope.isGenerator && c.token == .word "yield" false then return ← yieldExpr r
  if c.token != .punct "<" then return ← plainAssignment r
  let first := if c.dialect.tsx then plainAssignment r else genericArrow r
  match ← attempt first with
  | some node => return node
  | none => if c.dialect.tsx then genericArrow r else plainAssignment r

end Codemod.Grammar
