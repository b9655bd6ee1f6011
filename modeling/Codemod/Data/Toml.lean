import Codemod.Data.Toml.Scalar
import Codemod.Data.Toml.Table

/-!
# Data from TOML documents

`Toml.parse` reads a document of tables, keys and values. A document in which something is defined
twice is no document.
-/
namespace Codemod.Data.Toml

open Inline (isPlain)

abbrev Reader := StateT (List Char) Option

/-! ## Between the values -/

def peek : Reader (Option Char) := do return (← get).head?

def eat (c : Char) : Reader Bool := do
  match ← get with
  | d :: r => if d == c then set r; return true else return false
  | [] => return false

def expect (c : Char) : Reader Unit := do if ← eat c then return else failure

def blanks : Reader Unit := modify fun cs => cs.dropWhile fun c => c == ' ' || c == '\t'

/-- A comment up to the end of its line, if there is one. -/
def comment : Reader Unit := do
  if ← eat '#' then
    modify fun cs => cs.dropWhile isPlain
    match ← get with
    | [] => return
    | '\n' :: _ => return
    | '\r' :: '\n' :: _ => return
    | _ => failure

def lineEnd : Reader Bool := do
  match ← get with
  | '\n' :: r => set r; return true
  | '\r' :: '\n' :: r => set r; return true
  | _ => return false

/-- Blanks, comments and line ends. -/
def gap : Nat → Reader Unit
  | 0 => failure
  | fuel + 1 => do
    blanks
    comment
    if ← lineEnd then gap fuel else return

/-- What may follow on the line of a header or an entry: a comment. -/
def endOfLine : Reader Unit := do
  blanks
  comment
  if (← get).isEmpty then return
  if ← lineEnd then return else failure

/-! ## Keys and values -/

def lift (read : List Char → Option (α × List Char)) : Reader α := fun cs => read cs

def simpleKey : Reader String := do
  match ← peek with
  | some '"' =>
    let _ ← eat '"'
    return String.ofList (← lift (basic 0))
  | some '\'' =>
    let _ ← eat '\''
    return String.ofList (← lift literal)
  | _ =>
    let (key, rest) := (← get).span Inline.isKeyChar
    if key.isEmpty then failure
    set rest
    return String.ofList key

/-- The depth at which nothing is nested any more. -/
def depthLimit : Nat := 80

/-- Parts with dots between them, with the blanks around them. -/
def keyParts : Nat → Reader (List String)
  | 0 => failure
  | fuel + 1 => do
    blanks
    let first ← simpleKey
    blanks
    if ← eat '.' then return first :: (← keyParts fuel) else return [first]

/-- A key, dotted or not, which leads to no deeper table than there may be. -/
def key : Reader (List String) := do
  let parts ← keyParts (← get).length.succ
  if parts.length < depthLimit then return parts else failure

mutual

/-- A value, with room for `depth` more levels of lists and tables. -/
def value : Nat → Nat → Reader Data
  | 0, _ => failure
  | fuel + 1, depth => do
    match ← peek with
    | some '[' =>
      let _ ← eat '['
      if depth == 0 then failure
      return .list (← items fuel (depth - 1))
    | some '\x7b' =>
      let _ ← eat '\x7b'
      if depth == 0 then failure
      blanks
      if ← eat '\x7d' then return .record []
      return (← entries fuel (depth - 1) []).data
    | some c =>
      if c == '"' || c == '\'' then return .string (String.ofList (← lift string?))
      lift scalar?
    | none => failure

/-- The items of a list after its bracket; a comma may stand after the last one. -/
def items : Nat → Nat → Reader (List Data)
  | 0, _ => failure
  | fuel + 1, depth => do
    gap (← get).length.succ
    if ← eat ']' then return []
    let item ← value fuel depth
    gap (← get).length.succ
    if ← eat ',' then return item :: (← items fuel depth)
    expect ']'
    return [item]

/-- The entries of a table on one line, with those that are read already. -/
def entries : Nat → Nat → Table → Reader Table
  | 0, _, _ => failure
  | fuel + 1, depth, table => do
    let path ← key
    expect '='
    blanks
    let data ← value fuel depth
    let table ← table.addValue path data
    blanks
    if ← eat ',' then entries fuel depth table
    else
      expect '\x7d'
      return table

end

/-! ## Documents -/

/-- The lines of a document, under the header that is open. -/
def lines : Nat → List String → Table → Reader Table
  | 0, _, _ => failure
  | fuel + 1, header, table => do
    gap (← get).length.succ
    if (← get).isEmpty then return table
    if ← eat '[' then
      let isElement ← eat '['
      let path ← key
      expect ']'
      if isElement then expect ']'
      endOfLine
      let table ← if isElement then table.openElement path else table.openTable path
      lines fuel path table
    else
      let path ← key
      expect '='
      blanks
      let data ← value (← get).length.succ (depthLimit - 1)
      endOfLine
      let table ← table.atHeader header (Table.addValue path data)
      lines fuel header table

def parse (text : String) : Option Data := do
  let cs := match text.toList with
    | c :: r => if c.toNat == 0xFEFF then r else c :: r
    | [] => []
  let (table, _) ← lines cs.length.succ [] [] cs
  return Table.data table

end Codemod.Data.Toml
