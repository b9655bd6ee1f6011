/-!
# String literals

`decode` gives the text that the body of a string literal stands for, and `encode` writes a text as
a new literal. The body is what stands between the quotes. `encode` picks the quote that needs fewer
escapes, the double quote on a tie.
-/
namespace Codemod.Text

def hexValue? (c : Char) : Option Nat :=
  if '0' ≤ c && c ≤ '9' then some (c.toNat - '0'.toNat)
  else if 'a' ≤ c && c ≤ 'f' then some (c.toNat - 'a'.toNat + 10)
  else if 'A' ≤ c && c ≤ 'F' then some (c.toNat - 'A'.toNat + 10)
  else none

/-- The value of a run of hexadecimal digits, most significant first. -/
def hexNumber? (cs : List Char) : Option Nat :=
  cs.foldlM (fun n c => (hexValue? c).map (16 * n + ·)) 0

def isOctal (c : Char) : Bool := '0' ≤ c && c ≤ '7'

def octalValue (c : Char) : Nat := c.toNat - '0'.toNat

end Codemod.Text

namespace Codemod.Text.StringLiteral

/-- What a backslash before one plain character stands for. -/
def simpleEscape (c : Char) : Nat :=
  match c with
  | 'n' => 0x0A
  | 't' => 0x09
  | 'r' => 0x0D
  | 'b' => 0x08
  | 'v' => 0x0B
  | 'f' => 0x0C
  | c => c.toNat

mutual

/-- The code points and surrogates a literal's body denotes; `none` for a malformed escape. -/
def units : List Char → Option (List Nat)
  | [] => some []
  | '\\' :: c :: r =>
    if c == 'x' then
      match r with
      | a :: b :: r => do return (← hexNumber? [a, b]) :: (← units r)
      | _ => none
    else if c == 'u' then
      match r with
      | '\x7b' :: r => bracedUnits 0 false r
      | a :: b :: d :: e :: r => do return (← hexNumber? [a, b, d, e]) :: (← units r)
      | _ => none
    else if c == '\r' then
      match r with
      | '\n' :: r => units r
      | r => units r
    else if c == '\n' || c.toNat == 0x2028 || c.toNat == 0x2029 then units r
    else if isOctal c then
      match r with
      | [] => some [octalValue c]
      | d :: r₁ =>
        if !isOctal d then (octalValue c :: ·) <$> units (d :: r₁)
        else
          match r₁ with
          | [] => some [8 * octalValue c + octalValue d]
          | e :: r₂ =>
            if isOctal e && c ≤ '3' then
              ((64 * octalValue c + 8 * octalValue d + octalValue e) :: ·) <$> units r₂
            else ((8 * octalValue c + octalValue d) :: ·) <$> units (e :: r₂)
    else (simpleEscape c :: ·) <$> units r
  | c :: r => (c.toNat :: ·) <$> units r

/-- The digits of a code point escape written in braces, after its opening brace. -/
def bracedUnits (value : Nat) (seen : Bool) : List Char → Option (List Nat)
  | [] => none
  | c :: r =>
    if c == '\x7d' then
      if seen && value ≤ 0x10FFFF then (value :: ·) <$> units r else none
    else
      match hexValue? c with
      | some d => bracedUnits (16 * value + d) true r
      | none => none

end

/-- Does an escape name a character by an octal number, of which a lone zero is none? -/
def hasOctalEscape : List Char → Bool
  | '\\' :: c :: r =>
    (isOctal c && (c != '0' || r.head?.any isOctal)) || hasOctalEscape r
  | _ :: r => hasOctalEscape r
  | [] => false

/-- May the characters stand in a template that no function takes as written? -/
def isTemplateText (cs : List Char) : Bool := (units cs).isSome && !hasOctalEscape cs

def isHighSurrogate (n : Nat) : Bool := 0xD800 ≤ n && n ≤ 0xDBFF

def isLowSurrogate (n : Nat) : Bool := 0xDC00 ≤ n && n ≤ 0xDFFF

/-- The character of a high and a low surrogate. -/
def joinSurrogates (hi lo : Nat) : Char :=
  Char.ofNat (0x10000 + (hi - 0xD800) * 0x400 + (lo - 0xDC00))

/-- Joins surrogate pairs; `none` when a surrogate stands alone. -/
def joinUnits : List Nat → Option (List Char)
  | [] => some []
  | hi :: r =>
    if isHighSurrogate hi then
      match r with
      | lo :: r =>
        if isLowSurrogate lo then
          (joinSurrogates hi lo :: ·) <$> joinUnits r
        else none
      | [] => none
    else if isLowSurrogate hi then none
    else (Char.ofNat hi :: ·) <$> joinUnits r

/-- The text of a literal's body; `none` when an escape is malformed. A body that denotes a lone
surrogate has no text of its own and counts as empty. -/
def decode (body : List Char) : Option String :=
  (units body).map fun us => String.ofList ((joinUnits us).getD [])

/-- The quote for a new literal: the single quote only when the text has more double quotes. -/
def quoteFor (cs : List Char) : Char :=
  if cs.count '\'' < cs.count '"' then '\'' else '"'

def hexDigit (n : Nat) : Char :=
  if n < 10 then Char.ofNat ('0'.toNat + n) else Char.ofNat ('a'.toNat + (n - 10))

/-- How one character is written inside a new literal; `next` is the character after it. -/
def escape (quote : Char) (next : Option Char) (c : Char) : List Char :=
  if c == quote then ['\\', c]
  else if c == '\\' then ['\\', '\\']
  else if c == '\n' then ['\\', 'n']
  else if c == '\r' then ['\\', 'r']
  else if c.toNat == 0x08 then ['\\', 'b']
  else if c.toNat == 0x0C then ['\\', 'f']
  else if c.toNat == 0x0B then ['\\', 'v']
  else if c == '\t' then ['\t']
  else if c.toNat == 0 then
    if next.any Char.isDigit then ['\\', 'x', '0', '0'] else ['\\', '0']
  else if c.toNat < 0x20 then ['\\', 'x', hexDigit (c.toNat / 16), hexDigit (c.toNat % 16)]
  else if c.toNat == 0x2028 then ['\\', 'u', '2', '0', '2', '8']
  else if c.toNat == 0x2029 then ['\\', 'u', '2', '0', '2', '9']
  else if c.toNat == 0xFEFF then ['\\', 'u', 'F', 'E', 'F', 'F']
  else [c]

/-- The body of a new literal between `quote`s. -/
def escapeAll (quote : Char) : List Char → List Char
  | [] => []
  | c :: cs => escape quote cs.head? c ++ escapeAll quote cs

/-- A new literal for a text, quotes included. -/
def encode (s : String) : String :=
  let q := quoteFor s.toList
  String.ofList (q :: escapeAll q s.toList ++ [q])

end Codemod.Text.StringLiteral
