import Codemod.Grammar.Basic
import Codemod.Source.Item

/-!
# Grammar of imports

Import declarations and `import name = …` forms, from after the keyword `import`. The words `type`,
`as`, `from`, `source` and `defer` are ordinary identifiers here, and which part they play is
decided by the word after them: `type as` modifies the name `as`, and `type as as` renames `type`.

Only the object of attributes goes through a `Goal`: nothing else here holds other syntax.
-/
namespace Codemod.Grammar

open Codemod.Parser

/-- An import declaration, or another form that starts with `import`. -/
inductive ImportForm
  | declaration (decl : ImportDecl)
  | other (node : Node)

def bindingName : Parser Name := do
  let (sp, text) ← identifier
  return ⟨text, some sp⟩

def wordName : Parser Name := do
  let (sp, text) ← anyWord
  return ⟨text, some sp⟩

def literal : Parser Literal := do
  let c ← get
  match c.token with
  | .string value raw =>
    advance
    return ⟨value, some raw, some ⟨c.lo, c.hi⟩⟩
  | _ => failure

/-- An entry between the braces whose first name is read: perhaps renamed. -/
def renamedSpecifier (lo : Nat) (imported : Name) (typeOnly : Bool) : Parser NamedSpecifier := do
  if ← eatWord "as" then
    let binding ← bindingName
    return ⟨some (← spanFrom lo), some (.ident imported), binding, typeOnly⟩
  check (!Text.isUnreferable imported.text)
  return ⟨some (← spanFrom lo), none, imported, typeOnly⟩

/-- An entry that begins with the word `type` and another word. -/
def typeSpecifier (lo : Nat) (type : Name) : Parser NamedSpecifier := do
  let second ← wordName
  if second.text != "as" then return ← renamedSpecifier lo second true
  if !isWordToken (← get).token then return ⟨some (← spanFrom lo), none, second, true⟩
  let third ← bindingName
  if third.text == "as" && isWordToken (← get).token then
    let binding ← bindingName
    return ⟨some (← spanFrom lo), some (.ident second), binding, true⟩
  return ⟨some (← spanFrom lo), some (.ident type), third, false⟩

/-- One entry between the braces. -/
def namedSpecifier : Parser NamedSpecifier := do
  let c ← get
  match c.token with
  | .string _ _ =>
    let imported ← literal
    expectWord "as"
    let binding ← bindingName
    return ⟨some (← spanFrom c.lo), some (.string imported), binding, false⟩
  | _ =>
    let first ← wordName
    if first.text == "type" && isWordToken (← get).token then typeSpecifier c.lo first
    else renamedSpecifier c.lo first false

/-- The object after `with`, or after the older `assert`, on the line of the module. -/
def importAttributes (r : Recur) : Parser (Option Node) := do
  let c ← get
  if (c.token == .word "with" false || c.token == .word "assert" false) && !c.newline then
    advance
    return some (← r.parse .object)
  return none

/-- From the module specifier to the end of the declaration. -/
def importSource (r : Recur) (lo : Nat) (typeOnly : Bool) (phase : ImportPhase)
    (specifiers : List ImportSpecifier) : Parser ImportForm := do
  let source ← literal
  let attributes ← importAttributes r
  semicolon
  return .declaration ⟨⟨some (← spanFrom lo), typeOnly, phase, specifiers, source⟩, attributes⟩

/-- A namespace binding or names in braces, which may be missing after a default binding and its
comma. -/
def importBindings (r : Recur) (lo : Nat) (typeOnly : Bool) (phase : ImportPhase)
    (before : List ImportSpecifier) : Parser ImportForm := do
  let specifiers ←
    if ← eat "*" then do
      expectWord "as"
      pure [ImportSpecifier.star (← bindingName)]
    else do
      if ← eat "\x7b" then
        pure ((← listUntil "\x7d" namedSpecifier r.fuel).map ImportSpecifier.named)
      else
        check !before.isEmpty
        pure []
  expectWord "from"
  importSource r lo typeOnly phase (before ++ specifiers)

/-- A dotted name. -/
def entityName : Nat → Nat → Node → Parser Node
  | 0, _, _ => failure
  | fuel + 1, lo, left => do
    if ← eat "." then
      let right ← propertyWord
      entityName fuel lo (.qualified (← spanFrom lo) left right)
    else return left

/-- The right side of `import name = …`, after the equals sign. -/
def importEquals (fuel lo : Nat) (modifiers : Modifiers) (name : Name) : Parser Node := do
  let c ← get
  let reference ←
    if c.token == .word "require" false && c.next.token == .punct "(" then do
      advance
      advance
      let source ← stringNode
      expect ")"
      pure (Node.externalReference (← spanFrom c.lo) source)
    else do
      let left ← anyName
      entityName fuel c.lo left
  semicolon
  let node := Node.identName (name.span.getD default) name.text
  return .importEquals (← spanFrom lo) modifiers node reference

/-- After the first name of the clause, which the declaration binds. -/
def importDefault (r : Recur) (lo : Nat) (typeOnly : Bool) (phase : ImportPhase) (name : Name) :
    Parser ImportForm := do
  if ← eat "=" then
    return .other (← importEquals r.fuel lo (if typeOnly then ["type"] else []) name)
  if ← eat "," then importBindings r lo typeOnly phase [.default name]
  else
    expectWord "from"
    importSource r lo typeOnly phase [.default name]

/-- Does a second name follow a modifier? The word `from` is one only before another `from`. -/
def secondName : Parser Bool := do
  let c ← get
  return isReference c.token &&
    (c.token != .word "from" false || c.next.token == .word "from" false)

/-- Everything after the keyword `import`, which stands at `lo`. -/
def importForm (r : Recur) (lo : Nat) : Parser ImportForm := do
  let c ← get
  match c.token with
  | .string _ _ => importSource r lo false .evaluation []
  | _ =>
    if !(← atReference) then return ← importBindings r lo false .evaluation []
    let first ← bindingName
    if first.text == "type" then
      if (← atPunct "\x7b") || (← atPunct "*") then
        return ← importBindings r lo true .evaluation []
      if ← secondName then return ← importDefault r lo true .evaluation (← bindingName)
    if first.text == "defer" && (← atPunct "*") then
      return ← importBindings r lo false .defer []
    if first.text == "source" && (← secondName) then
      return ← importDefault r lo false .source (← bindingName)
    importDefault r lo false .evaluation first

end Codemod.Grammar
