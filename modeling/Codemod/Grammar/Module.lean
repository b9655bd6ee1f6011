import Codemod.Grammar.Statement
import Codemod.Source.Item

/-!
# Grammar of modules

A module is a `#!` line, if the text starts with one, and items up to the end of the text. `rules`
gives the rule of each goal, and `atDepth` ties them: every reference from one goal to another takes
one step of the depth, and a text has no more nested phrases than a multiple of its characters.
-/
namespace Codemod

structure Module where
  /-- The text after `#!` on the first line. -/
  shebang : Option String
  items : List Item
  comments : Comments
  span : Span

namespace Grammar

open Codemod.Parser

def rules (r : Recur) : Goal → Parser Node
  | .assignment => assignmentExpr r
  | .operand => operand r
  | .object => objectLiteral r
  | .statement place => statement r place
  | .type => type r
  | .plainType bounding => plainType r bounding
  | .pattern => pattern r
  | .block => block r
  | .markup => markup r

/-- The parser of each goal for phrases up to a depth, with lists up to a length. -/
def atDepth (length : Nat) : Nat → Goal → Parser Node
  | 0, _ => failure
  | depth + 1, goal => rules ⟨length, atDepth length depth⟩ goal

def item (r : Recur) : Parser Item := do
  let lo ← start
  let decorators ← decorators r
  let c ← get
  let next := c.next.token
  if c.token == .word "import" false && next != .punct "(" && next != .punct "." then
    advance
    match ← importForm r c.lo with
    | .declaration decl => return .importing decl
    | .other node => return .code node
  else return .code (← statementAfter r .module lo decorators)

/-- Items up to the end of the text. -/
def items (r : Recur) : Parser (List Item) :=
  whileTrue (do return (← get).token != .eof) (item r) r.fuel

end Grammar

namespace Module

/-- Splits a `#!` line off: its text, and what is left. -/
def splitShebang : List Char → Option (List Char) × List Char
  | '#' :: '!' :: r =>
    (some (r.takeWhile (!Text.isLineEnd ·)), r.dropWhile (!Text.isLineEnd ·))
  | cs => (none, cs)

/-- The text without a byte order mark. -/
def dropMark : List Char → List Char
  | c :: r => if c.toNat == 0xFEFF then r else c :: r
  | [] => []

/-- Reads the characters of a module, or fails where they are no module of the dialect. -/
def ofChars? (dialect : Dialect) (cs : List Char) : Option Module := do
  let (shebang, rest) := splitShebang cs
  let width := (shebang.map (·.length + 2)).getD 0
  let c := Cursor.enter dialect (.outer dialect.ambient) .empty none width width rest
  let length := cs.length + 1
  let (items, last) ← Grammar.items ⟨length, Grammar.atDepth length (4 * length)⟩ c
  let lo := if shebang.isSome || c.token == .eof then 0 else c.lo
  return ⟨shebang.map String.ofList, items, last.comments, ⟨lo, last.lastHi⟩⟩

end Module

end Codemod
