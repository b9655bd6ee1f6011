import Codemod.Data.Value
import Codemod.Text.Blank
import Codemod.Text.Number
import Codemod.Text.StringLiteral

/-!
# Values on one line

The values of environment variables: `true`, numbers, strings in double quotes, one character in
single ones, `[lists]` and `{records = of values}`, where the last of several entries of one key
counts. What is none of these is a string as it stands, also the empty text: after a comma a blank
is the start of one more item.
-/
namespace Codemod.Data.Inline

/-- The blanks around values. -/
def isBlank (c : Char) : Bool := c == ' ' || c == '\t' || c == '\n' || c == '\r' || c.toNat == 12

def skip (cs : List Char) : List Char := cs.dropWhile isBlank

def isSeparator (c : Char) : Bool :=
  c == ',' || c == '\x7b' || c == '\x7d' || c == '[' || c == ']'

def isKeyChar (c : Char) : Bool := c.isAlphanum || c == '_' || c == '-'

/-- The character of an escape, after the backslash, and how many characters make it up. -/
def escape? : List Char → Option (Char × Nat)
  | 'b' :: _ => some (Char.ofNat 8, 1)
  | 't' :: _ => some ('\t', 1)
  | 'n' :: _ => some ('\n', 1)
  | 'f' :: _ => some (Char.ofNat 12, 1)
  | 'r' :: _ => some ('\r', 1)
  | '"' :: _ => some ('"', 1)
  | '\\' :: _ => some ('\\', 1)
  | 'u' :: r => do
    let n ← Text.hexNumber? (r.take 4)
    if (r.take 4).length == 4 && n.isValidChar then some (Char.ofNat n, 5) else none
  | 'U' :: r => do
    let n ← Text.hexNumber? (r.take 8)
    if (r.take 8).length == 8 && n.isValidChar then some (Char.ofNat n, 9) else none
  | _ => none

/-- May the character stand in a string? Controls other than the tab may not. -/
def isPlain (c : Char) : Bool := c == '\t' || (0x20 ≤ c.toNat && c.toNat != 0x7F)

/-- The text of a string after its opening quote, and what follows its closing one; `taken`
characters still belong to an escape that is read. -/
def quotedFrom : Nat → List Char → Option (List Char × List Char)
  | _, [] => none
  | taken + 1, _ :: r => quotedFrom taken r
  | 0, '"' :: r => some ([], r)
  | 0, '\\' :: r => do
    let (c, n) ← escape? r
    let (text, rest) ← quotedFrom n r
    return (c :: text, rest)
  | 0, c :: r => do
    if !isPlain c then failure
    let (text, rest) ← quotedFrom 0 r
    return (c :: text, rest)

/-- A value without quotes or brackets. -/
def plain (cs : List Char) : Data :=
  let text := String.ofList cs
  if cs.contains '.' && Text.isDecimal cs then .number text
  else if Text.isInteger cs then .number text
  else .string text

def key? : List Char → Option (String × List Char)
  | '"' :: r => do
    let (text, rest) ← quotedFrom 0 r
    return (String.ofList text, rest)
  | cs =>
    let (key, rest) := cs.span isKeyChar
    if key.isEmpty then none else some (String.ofList key, rest)

def word? (word : String) (cs : List Char) : Option (List Char) :=
  if word.toList.isPrefixOf cs then some (cs.drop word.length) else none

mutual

/-- A value, and what follows it and the blanks after it. -/
def value? : Nat → List Char → Option (Data × List Char)
  | 0, _ => none
  | fuel + 1, cs => do
    let cs := skip cs
    let (value, rest) ←
      match word? "true" cs, word? "false" cs, cs with
      | some rest, _, _ => some (.bool true, rest)
      | _, some rest, _ => some (.bool false, rest)
      | _, _, '[' :: r => do
        let (items, rest) ← items? fuel r
        some (.list items, rest)
      | _, _, '\x7b' :: r => do
        let (entries, rest) ← entries? fuel r
        some (.record entries, rest)
      | _, _, '"' :: r => do
        let (text, rest) ← quotedFrom 0 r
        some (.string (String.ofList text), rest)
      | _, _, '\'' :: c :: '\'' :: r => some (.string c.toString, r)
      | _, _, '\'' :: _ => none
      | _, _, cs =>
        let (text, rest) := cs.span (!isSeparator ·)
        some (plain (Text.trim text), rest)
    return (value, skip rest)

/-- The items of a list after its bracket, and what follows the closing one. -/
def items? : Nat → List Char → Option (List Data × List Char)
  | 0, _ => none
  | fuel + 1, cs =>
    match cs with
    | ']' :: r => some ([], r)
    | cs => do
      let (item, rest) ← value? fuel cs
      match rest with
      | ',' :: r =>
        let (items, rest) ← items? fuel r
        return (item :: items, rest)
      | ']' :: r => return ([item], r)
      | _ => none

/-- The entries of a record after its brace, and what follows the closing one. -/
def entries? : Nat → List Char → Option (List (String × Data) × List Char)
  | 0, _ => none
  | fuel + 1, cs =>
    match cs with
    | '\x7d' :: r => some ([], r)
    | cs => do
      let (key, rest) ← key? (skip cs)
      match skip rest with
      | '=' :: r =>
        let (value, rest) ← value? fuel r
        match rest with
        | ',' :: r =>
          let (entries, rest) ← entries? fuel r
          let again := entries.any (·.1 == key)
          return (if again then entries else (key, value) :: entries, rest)
        | '\x7d' :: r => return ([(key, value)], r)
        | _ => none
      | _ => none

end

/-- The value of a text, which is a string where it is nothing else. -/
def ofText (text : String) : Data :=
  let cs := Text.trim text.toList
  if cs.isEmpty then .string ""
  else
    match value? (cs.length + 1) cs with
    | some (value, []) => value
    | _ => .string (String.ofList cs)

end Codemod.Data.Inline
