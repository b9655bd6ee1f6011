import Codemod.Grammar.Subscript

/-!
# Grammar of markup

Elements and fragments in angle brackets. Between tags the text is raw: it is read character by
character up to the next brace or angle bracket, and only inside braces and tags are there tokens.
-/
namespace Codemod.Grammar

open Codemod.Parser

/-- A character of a tag or attribute name after the first. -/
def isMarkupNamePart (c : Char) : Bool := Text.isIdentPart c || c == '-'

/-- A name that may have hyphens in it: its span and text. -/
def markupWord : Parser (Span × String) := do
  let c ← get
  match c.token with
  | .word text _ =>
    let (more, rest) := c.rest.span isMarkupNamePart
    set (c.resume c.token (c.hi + more.length) rest)
    return (⟨c.lo, c.hi + more.length⟩, text ++ String.ofList more)
  | _ => failure

/-- Dotted parts after the first name of a tag. -/
def markupMembers : Nat → Nat → Node → Parser Node
  | 0, _, _ => failure
  | fuel + 1, lo, object => do
    if ← eat "." then
      let (sp, text) ← markupWord
      markupMembers fuel lo (.member (← spanFrom lo) .plain object (.word sp text))
    else return object

/-- The name of a tag: a name, a dotted name, or a name in a name space. -/
def tagName (fuel : Nat) : Parser Node := do
  let lo ← start
  let (sp, text) ← markupWord
  if ← eat ":" then
    let (_, second) ← markupWord
    return .word (← spanFrom lo) (text ++ ":" ++ second)
  markupMembers fuel lo (.identName sp text)

/-- How a tag name is written, for comparing the two tags of an element. -/
def tagText : Node → String
  | .member _ _ object (.word _ text) => tagText object ++ "." ++ text
  | .identName _ text => text
  | .word _ text => text
  | _ => ""

/-- The brace that ends the container of an expression; stays on it. -/
def containerEnd (lo : Nat) (expr : Node) : Parser Node := do
  let c ← get
  check (c.token == .punct "\x7d")
  return .markupContainer ⟨lo, c.hi⟩ (some expr)

/-- A list to spread in braces, from its dots on; ends on the closing brace. -/
def spreadBody (r : Recur) (lo : Nat) : Parser Node := do
  let start ← start
  expect "..."
  let argument ← bracketed (assignment r)
  containerEnd lo (.spread (← spanFrom start) argument)

/-- What stands in braces between two tags, after the opening one; ends on the closing one. -/
def containerBody (r : Recur) (lo : Nat) : Parser Node := do
  let c ← get
  if c.token == .punct "\x7d" then return .markupContainer ⟨lo, c.hi⟩ none
  if c.token == .punct "..." then return ← spreadBody r lo
  containerEnd lo (← bracketed (expression r))

/-- An attribute value in quotes, if one follows: its raw text, and the place after it. -/
def quotedValue (pos : Nat) (cs : List Char) : Option (String × Span × List Char) :=
  let (blanks, cs) := cs.span Text.isBlank
  let lo := pos + blanks.length
  match cs with
  | q :: r =>
    if q == '"' || q == '\'' then
      let (body, rest) := r.span (· != q)
      match rest with
      | _ :: rest =>
        some (String.ofList (q :: body ++ [q]), ⟨lo, lo + body.length + 2⟩, rest)
      | [] => none
    else none
  | [] => none

def attributeValue (r : Recur) : Parser Node := do
  let c ← get
  check (c.token == .punct "=")
  match quotedValue c.hi c.rest with
  | some (raw, sp, rest) =>
    set (c.resume (.string raw raw) sp.hi rest)
    return .stringLiteral sp raw
  | none =>
    advance
    let c ← get
    match c.token with
    | .punct "\x7b" =>
      advance
      let node ← containerEnd c.lo (← bracketed (expression r))
      advance
      return node
    | .punct "<" =>
      advance
      let node ← r.parse .markup
      advance
      return node
    | _ => failure

def markupAttribute (r : Recur) : Parser Node := do
  let c ← get
  if ← eat "\x7b" then
    let node ← spreadBody r c.lo
    advance
    return node
  let (sp, text) ← markupWord
  let text ← if ← eat ":" then do
      let (_, second) ← markupWord
      pure (text ++ ":" ++ second)
    else pure text
  let name : Word := ⟨⟨sp.lo, (← get).lastHi⟩, text⟩
  let value ← if ← atPunct "=" then pure (some (← attributeValue r)) else pure none
  return .markupAttribute (← spanFrom c.lo) name value

/-- The children of an element, from the raw text at `pos` on; ends after the `</` of the end tag.
-/
def markupChildren (r : Recur) : Nat → Nat → List Char → Parser (List Node)
  | 0, _, _ => failure
  | fuel + 1, pos, cs => do
    let (text, rest) := cs.span fun c => c != '<' && c != '\x7b'
    let here := pos + text.length
    let before : List Node :=
      if text.isEmpty then [] else [.markupText ⟨pos, here⟩ (String.ofList text)]
    let c ← get
    match rest with
    | '\x7b' :: rest =>
      set (c.resume (.punct "\x7b") (here + 1) rest)
      let node ← containerBody r here
      let c ← get
      return before ++ node :: (← markupChildren r fuel c.hi c.rest)
    | '<' :: '/' :: rest =>
      set (c.resume (.punct "/") (here + 2) rest)
      return before
    | '<' :: rest =>
      set (c.resume (.punct "<") (here + 1) rest)
      let node ← r.parse .markup
      let c ← get
      return before ++ node :: (← markupChildren r fuel c.hi c.rest)
    | _ => failure

/-- The rules of elements and fragments, after the `<`; ends on the `>` that closes it. -/
def markup (r : Recur) : Parser Node := do
  let c ← get
  let lo := c.lastHi - 1
  if c.token == .punct ">" then
    let children ← markupChildren r r.fuel c.hi c.rest
    check (← atPunct ">")
    return .markupFragment ⟨lo, (← get).hi⟩ children
  let name ← tagName r.fuel
  let typeArgs ← if ← atPunct "<" then pure (some (← typeArguments r)) else pure none
  let attributes ← whileTrue
    (do return !((← atPunct ">") || (← atPunct "/"))) (markupAttribute r) r.fuel
  if ← eat "/" then
    check (← atPunct ">")
    return .markupElement ⟨lo, (← get).hi⟩ name typeArgs attributes true []
  let c ← get
  let children ← markupChildren r r.fuel c.hi c.rest
  let closing ← tagName r.fuel
  check (tagText closing == tagText name)
  check (← atPunct ">")
  return .markupElement ⟨lo, (← get).hi⟩ name typeArgs attributes false children

end Codemod.Grammar
