import Codemod.Source.Comment
import Codemod.Source.Token
import Codemod.Text.Blank

/-!
# Cursors over source text

A `Cursor` stands on one token of the text. Moving it (`Cursor.next`) skips blanks and files the
comments between two tokens: a comment on the line of the token before it is a trailing comment of
that token, any other one is a leading comment of the token after it. At the end of the text, where
no token follows, comments go to the last token.
-/
namespace Codemod

/-- Which parts of the language a text may use. -/
structure Dialect where
  /-- Elements in angle brackets instead of type assertions. -/
  tsx : Bool
  decorators : Bool
  /-- Declarations only, as in a declaration file. -/
  ambient : Bool
deriving DecidableEq, Repr

/-- What the phrase around a place means for the words and signs there. -/
structure Scope where
  /-- In a declaration of something that exists elsewhere. -/
  isAmbient : Bool
  /-- In an asynchronous function, where `await` is an operator. -/
  isAsync : Bool
  /-- In a generator, where `yield` is an operator. -/
  isGenerator : Bool
  /-- In a branch of a conditional expression. -/
  inConditional : Bool
  /-- The colon of a conditional expression is still to come. -/
  colonAhead : Bool
  /-- In the head of a loop, where `in` is no operator. -/
  noIn : Bool
  /-- Where the parameters of an arrow may begin. -/
  arrowStart : Option Nat
deriving DecidableEq, Repr

/-- The scope of a module's own statements. -/
def Scope.outer (isAmbient : Bool) : Scope := ⟨isAmbient, false, false, false, false, false, none⟩

/-- Where a scan between two tokens stands: in blanks, or inside a comment whose text so far is
held in reverse. -/
inductive Gap
  | blank
  /-- After the first character of `-->`. -/
  | markupEnd
  | line (text : List Char)
  | block (text : List Char) (newline : Bool)

/-- What lies between two tokens. -/
structure Trivia where
  pos : Nat
  newline : Bool
  /-- Comments for the next token, the last one first. -/
  pending : List Comment
  comments : Comments
  rest : List Char

namespace Trivia

/-- Files a comment with the next token, or with the last one. -/
def file (forNext : Bool) (lastHi : Nat) (comment : Comment) (t : Trivia) : Trivia :=
  if forNext then { t with pending := comment :: t.pending }
  else { t with comments := t.comments.addTrailing lastHi [comment] }

def fileLine (last : Option Token) (lastHi : Nat) (text : List Char) (t : Trivia) : Trivia :=
  let forNext := t.newline || last.any Token.isBinaryOperator
  t.file forNext lastHi ⟨.line, String.ofList text.reverse⟩

/-- A block comment right before a semicolon stays with the last token. -/
def fileBlock (last : Option Token) (lastHi : Nat) (text : List Char) (rest : List Char)
    (t : Trivia) : Trivia :=
  let forNext := t.newline || !(last.any Token.holdsBlockComment || rest.head? == some ';')
  t.file forNext lastHi ⟨.block, String.ofList text.reverse⟩

/-- Does a line begin with the mark that closes a comment of markup? -/
def closesMarkup (t : Trivia) (cs : List Char) : Bool :=
  t.newline && cs.take 3 == ['-', '-', '>']

/-- Skips blanks and comments, those of markup included; `none` when a block comment does not
end. -/
def scan (last : Option Token) (lastHi : Nat) : Gap → Trivia → List Char → Option Trivia
  | .blank, t, [] => some { t with rest := [] }
  | .blank, t, '/' :: '/' :: r => scan last lastHi (.line []) { t with pos := t.pos + 2 } r
  | .blank, t, '<' :: '!' :: '-' :: '-' :: r =>
    scan last lastHi (.line []) { t with pos := t.pos + 4 } r
  | .blank, t, '/' :: '*' :: r => scan last lastHi (.block [] false) { t with pos := t.pos + 2 } r
  | .blank, t, c :: r =>
    if Text.isLineEnd c then
      scan last lastHi .blank { t with pos := t.pos + 1, newline := true } r
    else if Text.isInlineBlank c then scan last lastHi .blank { t with pos := t.pos + 1 } r
    else if t.closesMarkup (c :: r) then scan last lastHi .markupEnd { t with pos := t.pos + 1 } r
    else some { t with rest := c :: r }
  | .markupEnd, t, _ :: '>' :: r => scan last lastHi (.line []) { t with pos := t.pos + 2 } r
  | .markupEnd, t, cs => some { t with rest := cs }
  | .line text, t, [] => some { t.fileLine last lastHi text with rest := [] }
  | .line text, t, c :: r =>
    if Text.isLineEnd c then
      let t := { t.fileLine last lastHi text with pos := t.pos + 1, newline := true }
      scan last lastHi .blank t r
    else scan last lastHi (.line (c :: text)) { t with pos := t.pos + 1 } r
  | .block _ _, _, [] => none
  | .block text newline, t, '*' :: '/' :: r =>
    let t := t.fileBlock last lastHi text r
    scan last lastHi .blank { t with pos := t.pos + 2, newline := t.newline || newline } r
  | .block text newline, t, c :: r =>
    let t := { t with pos := t.pos + 1 }
    scan last lastHi (.block (c :: text) (newline || Text.isLineEnd c)) t r

end Trivia

/-- A place in a source text: the token there and what is left after it. -/
structure Cursor where
  dialect : Dialect
  scope : Scope
  /-- The comments met so far. -/
  comments : Comments
  token : Token
  lo : Nat
  hi : Nat
  /-- A line ends between the token before and this one. -/
  newline : Bool
  /-- The end of the token before. -/
  lastHi : Nat
  rest : List Char

namespace Cursor

/-- The cursor on the first token of `cs`, which stands at `pos` after the token `last` that ends at
`lastHi`. Without a token before, every comment is for the next token. -/
def enter (dialect : Dialect) (scope : Scope) (comments : Comments) (last : Option Token)
    (lastHi pos : Nat) (cs : List Char) : Cursor :=
  match Trivia.scan last lastHi .blank ⟨pos, last.isNone, [], comments, []⟩ cs with
  | none => ⟨dialect, scope, comments, .invalid, pos, pos, false, lastHi, []⟩
  | some t =>
    let lexeme := Token.scan t.rest
    let pending := t.pending.reverse
    let comments :=
      if lexeme.token == .eof then
        if lastHi == 0 then t.comments.addLeading 0 pending
        else t.comments.addTrailing lastHi pending
      else t.comments.addLeading t.pos pending
    ⟨dialect, scope, comments, lexeme.token, t.pos, t.pos + lexeme.width, t.newline, lastHi,
      lexeme.rest⟩

/-- The cursor on the first token of `cs`, where `cs` stands at `pos`, right after the token `last`.
-/
def resume (c : Cursor) (last : Token) (pos : Nat) (cs : List Char) : Cursor :=
  enter c.dialect c.scope c.comments (some last) pos pos cs

def next (c : Cursor) : Cursor := c.resume c.token c.hi c.rest

/-- Joins the token with the `n` characters right after it, and moves on. -/
def nextAfter (c : Cursor) (n : Nat) : Cursor := c.resume c.token (c.hi + n) (c.rest.drop n)

end Cursor

end Codemod
