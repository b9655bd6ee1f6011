import Codemod.Grammar.Expr

/-!
# Grammar of statements and declarations

Statements, declarations and exports. Words such as `type`, `namespace` or `declare` begin a
declaration only when what follows them fits one; otherwise they are identifiers, and most of them
are read as an expression first.
-/
namespace Codemod.Grammar

open Codemod.Parser

/-! ## Variables -/

def isName : Node → Bool
  | .bindingIdent .. => true
  | _ => false

/-- One variable or pattern, its type and its value. After `let` and `const` no variable is called
`let`, and a pattern needs a value unless it is of constants, of what exists elsewhere, or of a loop
over a range (`inLoop`). -/
def declarator (r : Recur) (keyword : String) (inLoop : Bool) : Parser Node := do
  let lo ← start
  check !((keyword == "let" || keyword == "const") && (← atWord "let"))
  let pattern ← r.parse .pattern
  if isName pattern then
    let _ ← eat "!"
  let pattern := annotateVariable (← typeAnnotation r) pattern
  let value ← if ← eat "=" then pure (some (← assignment r)) else do
    let isRange := inLoop && ((← atWord "of") || (← atWord "in"))
    check (isName pattern || keyword == "const" || isRange || (← get).scope.isAmbient)
    pure none
  return .declarator (← spanFrom lo) pattern value

/-- Declarators with commas between them; before a semicolon one may be left out. -/
def declarators (item : Parser Node) : Nat → Parser (List Node)
  | 0 => failure
  | fuel + 1 => do
    if ← atPunct ";" then return []
    let node ← item
    if ← eat "," then return node :: (← declarators item fuel)
    return [node]

/-- Moves past tokens up to and with the end of a statement. -/
def skipStatement : Nat → Parser Unit
  | 0 => failure
  | fuel + 1 => do
    if (← attempt semicolon).isSome then return
    check ((← get).token != .invalid)
    advance
    skipStatement fuel

/-- A variable declaration as a statement. What stands between its last value and the end of the
statement is dropped. -/
def variableStatement (r : Recur) (lo : Nat) (modifiers : Modifiers) : Parser Node := do
  let (_, keyword) ← anyWord
  let nodes ← declarators (declarator r keyword false) r.fuel
  let node := Node.variableDecl (← spanFrom lo) modifiers keyword nodes
  if (← attempt semicolon).isNone then
    let _ ← attempt (expression r)
    skipStatement r.fuel
  return .terminated (← spanFrom lo) node

/-- Does a loop over a range follow the keyword of a declaration, with no variable between them? -/
def lacksVariable (r : Recur) : Parser Bool := lookahead do
  if !(← eatWord "of") then expectWord "in"
  let _ ← assignment r
  atPunct ")"

def loopVariables (r : Recur) : Parser Node := do
  let lo ← start
  let (_, keyword) ← anyWord
  let nodes ←
    if ← lacksVariable r then pure []
    else
      let item := declarator r keyword true
      let item := if keyword == "var" then within (fun s => { s with noIn := true }) item else item
      declarators item r.fuel
  return .variableDecl (← spanFrom lo) [] keyword nodes

/-- May the token after `let` make it a keyword? -/
def followsLet : Token → Bool
  | .word text _ => !Text.isReserved text || ["await", "enum", "yield"].contains text
  | .punct p => p == "[" || p == "\x7b"
  | _ => false

/-- Do variables follow the keyword at the cursor? -/
def atVariables : Parser Bool := do
  let c ← get
  match c.token with
  | .word "var" false => return true
  | .word "const" false => return true
  | .word "let" false => return followsLet c.next.token
  | _ => return false

/-- A declaration of values to be disposed of, from the word `using` on. It does not take the
semicolon after it. -/
def usingRest (r : Recur) (lo : Nat) (modifiers : Modifiers) : Parser Node := do
  expectWord "using"
  let nodes ← declarators (declarator r "using" false) r.fuel
  let sp ← spanFrom lo
  return .terminated sp (.variableDecl sp modifiers "using" nodes)

/-- Is the word `using` here, with a name after it on its line? -/
def opensUsing (c : Cursor) : Bool :=
  c.token == .word "using" false && isReference c.next.token && !c.next.newline

/-! ## Declarations -/

/-- The name of a member by its key. In brackets a literal stands for its text, and anything else
for no name. -/
def memberOf : Key Node → Node
  | .computed _ (.stringLiteral sp raw) => .stringLiteral sp raw
  | .computed _ (.templateLiteral sp [text] []) =>
    let value := (Text.StringLiteral.decode text.toList).getD text
    .stringLiteral sp (Text.StringLiteral.encode value)
  | .computed sp _ => .identName sp ""
  | .numberLiteral sp raw => .stringLiteral sp ("\"" ++ raw ++ "\"")
  | .stringLiteral sp raw => .stringLiteral sp raw
  | .word sp text => .identName sp text
  | .privateName sp text => .privateName sp text

/-- Is it a number with the mark of a big integer, which names nothing? -/
def isBigNumber : Key Node → Bool
  | .numberLiteral _ raw => raw.endsWith "n"
  | _ => false

/-- A member of an enumeration. Only after a value may the comma be missing. -/
def enumMember (r : Recur) : Parser Node := do
  let lo ← start
  let key ← propertyKey r
  check !(isBigNumber key)
  let value ← if ← eat "=" then pure (some (← assignment r)) else do
    check ((← atPunct ",") || (← atPunct "\x7d"))
    pure none
  let node := Node.enumMember (← spanFrom lo) (memberOf key) value
  let _ ← eat ","
  return node

def enumRest (r : Recur) (lo : Nat) (modifiers : Modifiers) : Parser Node := do
  let name ← anyName
  expect "\x7b"
  let members ← whileTrue (do return !(← atPunct "\x7d")) (enumMember r) r.fuel
  expect "\x7d"
  return .enumDecl (← spanFrom lo) modifiers name members

/-- Moves to the next opening brace. -/
def skipToBrace : Nat → Parser Unit
  | 0 => failure
  | fuel + 1 => do
    let c ← get
    if c.token == .punct "\x7b" then return
    check (c.token != .eof && c.token != .invalid)
    advance
    skipToBrace fuel

/-- An interface from its name on. A second list of bases is dropped. -/
def interfaceRest (r : Recur) (lo : Nat) (modifiers : Modifiers) : Parser Node := do
  let name ← anyName
  let typeParams ← typeParameters? r
  let bases ← heritageAfter r "extends"
  if ← atWord "extends" then skipToBrace r.fuel
  let start ← start
  let members ← typeMembers r
  let bodySpan ← spanFrom start
  return .interfaceDecl (← spanFrom lo) modifiers name typeParams bases bodySpan members

def typeAliasRest (r : Recur) (lo : Nat) (modifiers : Modifiers) : Parser Node := do
  let name ← anyName
  let typeParams ← typeParameters? r
  expect "="
  let type ← typeNode r
  semicolon
  return .typeAlias (← spanFrom lo) modifiers name typeParams type

/-- Statements in braces, imports and exports included. -/
def moduleBlock (r : Recur) : Parser Node := do
  let lo ← start
  expect "\x7b"
  let body ← whileTrue (do return !(← atPunct "\x7d")) (r.parse (.statement .module)) r.fuel
  expect "\x7d"
  return .moduleBlock (← spanFrom lo) body

/-- A block of a module, or the end of a statement. -/
def moduleBlock? (r : Recur) : Parser (Option Node) := do
  if ← atPunct "\x7b" then return some (← moduleBlock r)
  semicolon
  return none

def namespaceRest (r : Recur) (lo : Nat) (modifiers : Modifiers) : Parser Node := do
  let names ← sepBy1 "." anyName r.fuel
  let body ← moduleBlock r
  return .namespaceDecl (← spanFrom lo) modifiers "namespace" names (some body)

/-- A module of other code from its name on, which is a string. -/
def ambientModuleRest (r : Recur) (lo : Nat) (modifiers : Modifiers) : Parser Node := do
  let name ← stringNode
  let body ← moduleBlock? r
  return .namespaceDecl (← spanFrom lo) modifiers "module" [name] body

def isStringToken : Token → Bool
  | .string _ _ => true
  | _ => false

/-- A declaration after the word that it begins with. After `declare` or `export` the word is one
whatever follows (`forced`); otherwise what follows decides. -/
def wordDeclaration? (r : Recur) (lo : Nat) (decorators : List Node) (modifiers : Modifiers)
    (forced : Bool) (word : String) : Parser (Option Node) := do
  let c ← get
  let named := forced || isReference c.token
  match word with
  | "abstract" =>
    if forced || (c.token == .word "class" false && !c.newline) then
      return some (← classRest r lo (modifiers ++ ["abstract"]) decorators true)
    return none
  | "enum" => if named then return some (← enumRest r lo modifiers) else return none
  | "interface" => if named then return some (← interfaceRest r lo modifiers) else return none
  | "namespace" => if named then return some (← namespaceRest r lo modifiers) else return none
  | "module" =>
    if !forced && c.newline then return none
    if isStringToken c.token then return some (← ambientModuleRest r lo modifiers)
    if named then return some (← namespaceRest r lo modifiers) else return none
  | "type" =>
    if forced || (named && !c.newline) then return some (← typeAliasRest r lo modifiers)
    return none
  | _ => return none

/-- A declaration that begins with the word at the cursor, whatever follows it. -/
def forcedDeclaration? (r : Recur) (lo : Nat) (decorators : List Node) (modifiers : Modifiers) :
    Parser (Option Node) := do
  let c ← get
  match c.token with
  | .word text false =>
    if text == "module" && c.newline then return none
    let declared : Parser Node := do
      advance
      match ← wordDeclaration? r lo decorators modifiers true text with
      | some node => return node
      | none => failure
    if ["abstract", "enum", "interface", "namespace", "module", "type"].contains text then
      return some (← declared)
    return none
  | _ => return none

/-- What follows `declare`, if it makes a declaration. -/
def ambientDeclaration? (r : Recur) (lo : Nat) (decorators : List Node) : Parser (Option Node) :=
    within (fun s => { s with isAmbient := true }) do
  let c ← get
  match c.token with
  | .word "function" false => return some (← functionRest r lo ["declare"] true)
  | .word "class" false => return some (← classRest r lo ["declare"] decorators true)
  | .word "const" false =>
    if c.next.token == .word "enum" false then
      advance
      advance
      return some (← enumRest r lo ["declare", "const"])
    return some (← variableStatement r lo ["declare"])
  | .word "var" false => return some (← variableStatement r lo ["declare"])
  | .word "let" false => return some (← variableStatement r lo ["declare"])
  | .word "global" false =>
    let name ← anyName
    let body ← moduleBlock? r
    return some (.namespaceDecl (← spanFrom lo) ["declare"] "global" [name] body)
  | _ => forcedDeclaration? r lo decorators ["declare"]

/-! ## Exports -/

/-- The name of something exported: a word or a string. -/
def exportName : Parser Node := do
  match (← get).token with
  | .string _ _ => stringNode
  | _ =>
    let (sp, text) ← anyWord
    return .identName sp text

/-- The new name after `as`, if there is one. -/
def exportedName : Parser (Option Node) := do
  if ← eatWord "as" then return some (← exportName)
  return none

/-- One entry between the braces of an export. -/
def exportSpecifier : Parser Node := do
  let c ← get
  let next := c.next
  let isModifier := c.token == .word "type" false && isWordToken next.token &&
    (next.token != .word "as" false || !isWordToken next.next.token ||
      (next.next.token == .word "as" false && isWordToken next.next.next.token))
  if isModifier then advance
  let name ← exportName
  let exported ← exportedName
  return .exportSpecifier (← spanFrom c.lo) (if isModifier then ["type"] else []) name exported

/-- An export with a star, from the star on; `start` is where what is exported begins. -/
def exportStar (r : Recur) (lo start : Nat) (modifiers : Modifiers) : Parser Node := do
  expect "*"
  let star ← if ← eatWord "as" then do
      let name ← exportName
      pure (some (.exportSpecifier (← spanFrom start) [] name none))
    else pure none
  expectWord "from"
  let source ← stringNode
  let attributes ← importAttributes r
  semicolon
  let sp ← spanFrom lo
  match star with
  | some name => return .exportNamed sp modifiers (some name) [] (some source) attributes
  | none => return .exportAll sp modifiers source attributes

/-- An export of names in braces, from the brace on. Without a module it needs no semicolon. -/
def exportNamed (r : Recur) (lo : Nat) (modifiers : Modifiers) : Parser Node := do
  expect "\x7b"
  let specifiers ← listUntil "\x7d" exportSpecifier r.fuel
  let source ← if ← eatWord "from" then pure (some (← stringNode)) else pure none
  let attributes ← if source.isSome then importAttributes r else pure none
  if source.isSome then semicolon else
    let _ ← eat ";"
  return .exportNamed (← spanFrom lo) modifiers none specifiers source attributes

def exportDefault (r : Recur) (lo : Nat) (before : List Node) : Parser Node := do
  let after ← decorators r
  check (before.isEmpty || after.isEmpty)
  let c ← get
  let next := c.next
  let declared (node : Node) : Parser Node := do return .exportDefault (← spanFrom lo) node
  let isAbstract := c.token == .word "abstract" false
  if isAbstract && next.token == .word "class" false && !next.newline then
    advance
    return ← declared (← classRest r c.lo ["abstract"] (before ++ after) false)
  if isAbstract && next.token == .word "interface" false then advance
  let start ← start
  if ← eatWord "interface" then return ← declared (← interfaceRest r start [])
  if c.token == .word "class" false then
    return ← declared (← classRest r c.lo [] (before ++ after) false)
  if c.token == .word "function" false then
    return ← declared (← functionRest r c.lo [] false)
  if c.token == .word "async" false && next.token == .word "function" false && !next.newline then
    advance
    return ← declared (← functionRest r c.lo ["async"] false)
  let expr ← assignment r
  semicolon
  return .exportDefaultExpr (← spanFrom lo) expr

/-- A declaration of the plain language, if one stands after `export`. -/
def exportedDeclaration? (r : Recur) (decorators : List Node) : Parser (Option Node) := do
  let c ← get
  let next := c.next
  match c.token with
  | .word "class" false => return some (← classRest r c.lo [] decorators true)
  | .word "function" false => return some (← functionRest r c.lo [] true)
  | .word "async" false =>
    if next.token == .word "function" false && !next.newline then
      advance
      return some (← functionRest r c.lo ["async"] true)
    return none
  | .word "const" false =>
    if next.token == .word "enum" false then
      advance
      advance
      return some (← enumRest r c.lo ["const"])
    return some (← variableStatement r c.lo [])
  | _ => if ← atVariables then return some (← variableStatement r c.lo []) else return none

/-- The forms of exports that begin with a word or sign of their own. -/
def exportMark? (r : Recur) (lo : Nat) : Parser (Option Node) := do
  if ← eatWord "import" then
    let c ← get
    let typeOnly := c.token == .word "type" false && isReference c.next.token
    if typeOnly then advance
    let name ← wordName
    expect "="
    let modifiers := ["export"] ++ (if typeOnly then ["type"] else [])
    return some (← importEquals r.fuel lo modifiers name)
  if ← eat "=" then
    let expr ← expression r
    semicolon
    return some (.exportAssign (← spanFrom lo) expr)
  if ← eatWord "as" then
    expectWord "namespace"
    let name ← identName
    semicolon
    return some (.exportAsNamespace (← spanFrom lo) name)
  return none

/-- An export, with the decorators before it, which only a class keeps. -/
def exportForm (r : Recur) (before : List Node) : Parser Node := do
  let lo ← start
  expectWord "export"
  let c ← get
  let exported (node : Node) : Parser Node := do return .exportDecl (← spanFrom lo) node
  if ← eatWord "declare" then
    if let some node ← ambientDeclaration? r c.lo before then return ← exported node
  let start ← start
  if let some node := (← attempt (forcedDeclaration? r start before [])).join then
    return ← exported node
  if let some node ← exportMark? r lo then return node
  let here ← get
  let typeOnly ← eatWord "type"
  if !typeOnly then
    if ← eatWord "default" then return ← exportDefault r lo before
  let after ← decorators r
  check (before.isEmpty || after.isEmpty)
  if !typeOnly then
    if let some node ← exportedDeclaration? r (before ++ after) then return ← exported node
  let modifiers := if typeOnly then ["type"] else []
  if ← atPunct "*" then exportStar r lo here.lo modifiers else exportNamed r lo modifiers

/-! ## Statements -/

def block (r : Recur) : Parser Node := do
  let lo ← start
  expect "\x7b"
  let body ← whileTrue (do return !(← atPunct "\x7d")) (r.parse (.statement .nested)) r.fuel
  expect "\x7d"
  return .blockStmt (← spanFrom lo) body

def bodyStatement (r : Recur) : Parser Node := r.parse (.statement .body)

def condition (r : Recur) : Parser Node := do
  expect "("
  let expr ← expression r
  expect ")"
  return expr

def ifStatement (r : Recur) : Parser Node := do
  let lo ← start
  expectWord "if"
  let test ← condition r
  let yes ← bodyStatement r
  let no ← if ← eatWord "else" then pure (some (← bodyStatement r)) else pure none
  return .ifStmt (← spanFrom lo) test yes no

/-- An expression, unless the punctuator stands here already. -/
def expressionBefore (r : Recur) (close : String) : Parser (Option Node) := do
  if ← atPunct close then return none
  return some (← expression r)

/-- The head of a loop over a range, after its first part. -/
def forEach? (r : Recur) (lo : Nat) (awaits : Bool) (left : Node) : Parser (Option Node) := do
  if ← eatWord "of" then
    let right ← assignment r
    expect ")"
    let body ← bodyStatement r
    return some (.forOfStmt (← spanFrom lo) awaits left right body)
  if ← eatWord "in" then
    let right ← expression r
    expect ")"
    check !awaits
    let body ← bodyStatement r
    return some (.forInStmt (← spanFrom lo) left right body)
  return none

/-- A counting loop, after its first part. -/
def forRest (r : Recur) (lo : Nat) (first : Option Node) : Parser Node := do
  expect ";"
  let test ← expressionBefore r ";"
  expect ";"
  let step ← expressionBefore r ")"
  expect ")"
  let body ← bodyStatement r
  return .forStmt (← spanFrom lo) first test step body

/-- A value to be disposed of at the head of a loop: its name, after the word `using` that was read
as an expression. -/
def loopUsing? (lo : Nat) (first : Node) : Parser (Option Node) := do
  let modifiers? : Option Modifiers := match first with
    | .ident _ "using" => some []
    | .awaitExpr _ (.ident _ "using") => some ["await"]
    | _ => none
  let c ← get
  let next := c.next.token
  let ranges := next == .word "of" false || next == .word "in" false
  match modifiers? with
  | some modifiers =>
    if c.token == .word "of" false || !ranges then return none
    let (sp, text) ← identifier
    let pattern := Node.bindingIdent sp text false none
    let sp ← spanFrom lo
    return some (.variableDecl sp modifiers "using" [.declarator sp pattern none])
  | none => return none

/-- The head of a loop that begins with an expression. -/
def forExpression (r : Recur) (lo : Nat) (awaits : Bool) : Parser Node := do
  let start ← start
  let first ← within (fun s => { s with noIn := true }) (expression r)
  let left? ← loopUsing? start first
  let ranges := left?.isSome || (← atWord "of") || (← atWord "in")
  if ranges then
    check (left?.isNone || (← atWord "of"))
    let left ← if left?.isSome then left? else first.ranged?
    match ← forEach? r lo awaits left with
    | some node => return node
    | none => failure
  check !awaits
  forRest r lo (some first)

def forStatement (r : Recur) : Parser Node := do
  let lo ← start
  expectWord "for"
  let awaits ← eatWord "await"
  expect "("
  if ← atPunct ";" then
    check !awaits
    return ← forRest r lo none
  if !(← atVariables) then return ← forExpression r lo awaits
  let first ← loopVariables r
  match ← forEach? r lo awaits first with
  | some node => return node
  | none =>
    check !awaits
    forRest r lo (some first)

def caseClause (r : Recur) : Parser Node := do
  let lo ← start
  let test ← if ← eatWord "case" then pure (some (← expression r)) else do
    expectWord "default"
    pure none
  expect ":"
  let more : Parser Bool := do
    return !((← atWord "case") || (← atWord "default") || (← atPunct "\x7d"))
  let body ← whileTrue more (r.parse (.statement .nested)) r.fuel
  return .caseClause (← spanFrom lo) test body

/-- Is the clause the one for all other values? -/
def isDefault : Node → Bool
  | .caseClause _ test _ => test.isNone
  | _ => false

def switchStatement (r : Recur) : Parser Node := do
  let lo ← start
  expectWord "switch"
  let value ← condition r
  expect "\x7b"
  let cases ← whileTrue (do return !(← atPunct "\x7d")) (caseClause r) r.fuel
  expect "\x7d"
  check ((cases.filter isDefault).length ≤ 1)
  return .switchStmt (← spanFrom lo) value cases

def catchClause (r : Recur) : Parser Node := do
  let lo ← start
  expectWord "catch"
  let param ← if ← eat "(" then do
      let pattern ← r.parse .pattern
      let pattern := annotateVariable (← typeAnnotation r) pattern
      expect ")"
      pure (some pattern)
    else pure none
  let body ← r.parse .block
  return .catchClause (← spanFrom lo) param body

def finallyClause? (r : Recur) : Parser (Option Node) := do
  if ← eatWord "finally" then return some (← r.parse .block)
  return none

/-- A guarded block; both clauses after it may be missing. -/
def tryStatement (r : Recur) : Parser Node := do
  let lo ← start
  expectWord "try"
  let body ← r.parse .block
  let handler ← if ← atWord "catch" then pure (some (← catchClause r)) else pure none
  let finalizer ← finallyClause? r
  return .tryStmt (← spanFrom lo) body handler finalizer

/-- A clause without the block it guards, of which only a mark is kept. -/
def strayClause (r : Recur) : Parser Node := do
  let c ← get
  if ← atWord "catch" then
    let _ ← catchClause r
  let _ ← finallyClause? r
  let sp : Span := ⟨c.lo, c.hi⟩
  return .terminated sp (.invalid sp)

/-- `break` and `continue` with their label, and `debugger`. -/
def jumpStatement : Parser Node := do
  let lo ← start
  let (_, keyword) ← anyWord
  let c ← get
  let label ← if keyword != "debugger" && !c.newline && isBinding c.token then
      pure (some (← identName))
    else pure none
  semicolon
  return .jumpStmt (← spanFrom lo) keyword label

def returnStatement (r : Recur) : Parser Node := do
  let lo ← start
  expectWord "return"
  let argument ← if ← atStatementEnd then pure none else pure (some (← expression r))
  semicolon
  return .returnStmt (← spanFrom lo) argument

def throwStatement (r : Recur) : Parser Node := do
  let lo ← start
  expectWord "throw"
  check (!(← get).newline)
  let argument ← expression r
  semicolon
  return .throwStmt (← spanFrom lo) argument

def doWhileStatement (r : Recur) : Parser Node := do
  let lo ← start
  expectWord "do"
  let body ← bodyStatement r
  expectWord "while"
  let test ← condition r
  let _ ← eat ";"
  return .doWhileStmt (← spanFrom lo) body test

/-- A loop or a `with`: a keyword, a condition and a body. -/
def headedStatement (r : Recur) (node : Span → Node → Node → Node) : Parser Node := do
  let lo ← start
  advance
  let head ← condition r
  let body ← bodyStatement r
  return node (← spanFrom lo) head body

/-- An import where a statement stands; `import(…)` and `import.meta` are expressions, and need no
semicolon after them. -/
def importStatement (r : Recur) (place : Place) : Parser Node := do
  let c ← get
  let next := c.next.token
  if next == .punct "(" || next == .punct "." then
    let expr ← expression r
    let _ ← eat ";"
    return .terminated (← spanFrom c.lo) expr
  check (place == .module)
  advance
  match ← importForm r c.lo with
  | .declaration decl => return .ambientImport decl.toImportClause decl.attributes
  | .other node => return node

/-- The declaration that a name at the start of a statement turns out to begin. -/
def namedDeclaration? (r : Recur) (lo : Nat) (decorators : List Node) (name : String) :
    Parser (Option Node) := do
  match name with
  | "declare" => ambientDeclaration? r lo decorators
  | "global" =>
    if !(← atPunct "\x7b") then return none
    let body ← moduleBlock r
    let sp : Span := ⟨lo, lo + name.length⟩
    return some (.namespaceDecl (← spanFrom lo) [] "global" [.identName sp name] (some body))
  | _ =>
    if ["static", "abstract"].contains name then
      if ← eatWord "interface" then return some (← interfaceRest r lo [])
    wordDeclaration? r lo decorators [] false name

/-- A statement that begins with an expression: a label, a declaration that begins with a name, or
the expression itself. An operator may follow an arrow that ends in a block. -/
def expressionStatement (r : Recur) (lo : Nat) (decorators : List Node) : Parser Node := do
  let start ← start
  let expr ← expression r
  if let .ident sp text := expr then
    if ← eat ":" then
      let body ←
        if ← atWord "function" then functionRest r (← get).lo [] true else bodyStatement r
      return .labeledStmt (← spanFrom lo) (.identName sp text) body
    if let some node ← namedDeclaration? r start decorators text then return node
  if (← attempt semicolon).isSome then return .terminated (← spanFrom lo) expr
  check ((← get).token.isBinaryOperator)
  let expr ← binaryRest r (itemAt r r.fuel) r.fuel 0 start expr
  return .terminated (← spanFrom lo) expr

/-- The words that begin a declaration when another word follows them on the line. -/
def quickDeclaration? (r : Recur) : Parser (Option Node) := do
  let c ← get
  let next := c.next
  if !isWordToken next.token || next.newline then return none
  match c.token with
  | .word "interface" false => advance; return some (← interfaceRest r c.lo [])
  | .word "type" false => advance; return some (← typeAliasRest r c.lo [])
  | .word "enum" false => advance; return some (← enumRest r c.lo [])
  | _ => return none

/-- A declaration that `const`, `let`, `using` or `await using` begins, where one may stand. -/
def valueDeclaration? (r : Recur) (place : Place) : Parser (Option Node) := do
  let c ← get
  if c.token == .word "const" false && c.next.token == .word "enum" false then
    advance
    advance
    return some (← enumRest r c.lo ["const"])
  if c.token == .word "var" false then return some (← variableStatement r c.lo [])
  if place == .body then return none
  if ← atVariables then return some (← variableStatement r c.lo [])
  if opensUsing c then return some (← usingRest r c.lo [])
  if c.token == .word "await" false && opensUsing c.next then
    advance
    return some (← usingRest r c.lo ["await"])
  return none

/-- A statement that no keyword of its own begins. -/
def plainStatement (r : Recur) (place : Place) (lo : Nat) (decorators : List Node) :
    Parser Node := do
  if let some node ← valueDeclaration? r place then return node
  if let some node ← quickDeclaration? r then return node
  let c ← get
  if c.token == .word "async" false && c.next.token == .word "function" false &&
      !c.next.newline then
    advance
    return ← functionRest r c.lo ["async"] true
  expressionStatement r lo decorators

/-- A statement, after the decorators that begin at `lo`. Only a class keeps them. -/
def statementAfter (r : Recur) (place : Place) (lo : Nat) (decorators : List Node) :
    Parser Node := do
  let c ← get
  match c.token with
  | .punct "\x7b" => block r
  | .punct ";" => advance; return .emptyStmt ⟨c.lo, c.hi⟩
  | .word text false =>
    match text with
    | "if" => ifStatement r
    | "for" => forStatement r
    | "while" => headedStatement r .whileStmt
    | "with" => headedStatement r .withStmt
    | "do" => doWhileStatement r
    | "switch" => switchStatement r
    | "try" => tryStatement r
    | "catch" => strayClause r
    | "finally" => strayClause r
    | "return" => returnStatement r
    | "throw" => throwStatement r
    | "break" => jumpStatement
    | "continue" => jumpStatement
    | "debugger" => jumpStatement
    | "function" => functionRest r c.lo [] true
    | "class" => classRest r lo [] decorators true
    | "import" => importStatement r place
    | "export" =>
      check (place == .module)
      exportForm r decorators
    | _ => plainStatement r place lo decorators
  | _ => plainStatement r place lo decorators

def statement (r : Recur) (place : Place) : Parser Node := bracketed do
  let lo ← start
  let decorators ← decorators r
  statementAfter r place lo decorators

end Codemod.Grammar
