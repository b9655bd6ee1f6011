import Codemod.Source.Comment
import Codemod.Text.Blank

/-!
# Pages

Printed code is a list of `Piece`s put on a `Page` one after the other. Indentation is written when
a line gets its first text, ending a line that holds nothing does nothing, and comments are taken
from the page's store when the piece of their position comes up, so that each is printed once.
-/
namespace Codemod

/-- One step of printing. -/
inductive Piece
  | text (s : String)
  /-- Ends the line, unless nothing stands on it. -/
  | line
  | indent
  | dedent
  /-- The comments before the token at a position. -/
  | leading (pos : Nat)
  /-- The comments after the token that ends at a position, with a space before each or without. -/
  | trailing (pos : Nat) (spaced : Bool)
  /-- Ends the line when comments stand before the token at a position. -/
  | lineIfLeading (pos : Nat)
  /-- The comma that the source has before the last character of a span, if it has one. -/
  | finalComma (sp : Span)
  /-- A parenthesis when comments stand before the token at a position, a space otherwise. -/
  | openIfLeading (pos : Nat)
  /-- Closes the parenthesis of the last `openIfLeading`, if it made one. -/
  | closeOpened
deriving DecidableEq, Repr

/-- What has been printed so far. -/
structure Page where
  out : String
  depth : Nat
  lineStart : Bool
  comments : Comments
  /-- Which of the enclosing `openIfLeading` pieces have made a parenthesis. -/
  opened : List Bool

namespace Page

def blank (comments : Comments) : Page := ⟨"", 0, true, comments, []⟩

/-- The blanks before the first text of a line: four for each level. -/
def indentation (depth : Nat) : String := String.ofList (List.replicate (4 * depth) ' ')

/-- Writes text, after the indentation when it is the first of its line. -/
def write (s : String) (p : Page) : Page :=
  if s.isEmpty then p
  else if p.lineStart then { p with out := p.out ++ indentation p.depth ++ s, lineStart := false }
  else { p with out := p.out ++ s }

/-- Ends the line, unless it is empty. -/
def newline (p : Page) : Page :=
  if p.lineStart then p else { p with out := p.out ++ "\n", lineStart := true }

/-- Writes a comment: a line comment ends its line, a block comment is followed by a space. -/
def writeComment (spaced : Bool) (p : Page) (comment : Comment) : Page :=
  let p := if spaced then p.write " " else p
  match comment.kind with
  | .line => (p.write ("//" ++ comment.text)).newline
  | .block => (p.write ("/*" ++ comment.text ++ "*/")).write " "

/-- Is the text of a span, without its last character and the blanks there, ended by a comma? -/
def endsWithComma (source : List Char) (sp : Span) : Bool :=
  let text := (source.drop sp.lo).take (sp.hi - 1 - sp.lo)
  2 ≤ text.length && (text.reverse.dropWhile Text.isBlank).head? == some ','

def put (source : List Char) (p : Page) : Piece → Page
  | .text s => p.write s
  | .line => p.newline
  | .indent => { p with depth := p.depth + 1 }
  | .dedent => { p with depth := p.depth - 1 }
  | .leading pos =>
    let (comments, left) := p.comments.takeLeading pos
    comments.foldl (writeComment false) { p with comments := left }
  | .trailing pos spaced =>
    let (comments, left) := p.comments.takeTrailing pos
    comments.foldl (writeComment spaced) { p with comments := left }
  | .lineIfLeading pos => if p.comments.hasLeading pos then p.newline else p
  | .finalComma sp => if endsWithComma source sp then p.write ", " else p
  | .openIfLeading pos =>
    let opens := p.comments.hasLeading pos
    { p.write (if opens then "(" else " ") with opened := opens :: p.opened }
  | .closeOpened =>
    let p' := { p with opened := p.opened.tail }
    if p.opened.head?.getD false then p'.write ")" else p'

def putAll (source : List Char) (p : Page) (pieces : List Piece) : Page :=
  pieces.foldl (put source) p

end Page

namespace Piece

def join (separator : List Piece) (parts : List (List Piece)) : List Piece :=
  (parts.intersperse separator).flatten

/-- Parts on lines of their own, one level deeper; the line is ended before and after. -/
def lines (separator : List Piece) (parts : List (List Piece)) : List Piece :=
  [.line, .indent] ++ join (separator ++ [.line]) parts ++ [.dedent, .line]

/-- The pieces when the condition holds, nothing otherwise. -/
def when (b : Bool) (pieces : List Piece) : List Piece := if b then pieces else []

end Piece

end Codemod
