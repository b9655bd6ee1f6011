import Codemod.Data.Inline

/-!
# Strings, numbers and dates of TOML
-/
namespace Codemod.Data.Toml

open Inline (isPlain)

/-! ## Strings

Each reader starts after the opening quotes and gives the text and what follows the closing ones. -/

def basic : Nat → List Char → Option (List Char × List Char)
  | _, [] => none
  | taken + 1, _ :: r => basic taken r
  | 0, '"' :: r => some ([], r)
  | 0, '\\' :: r => do
    let (c, n) ← Inline.escape? r
    let (text, rest) ← basic n r
    return (c :: text, rest)
  | 0, c :: r => do
    if !isPlain c then failure
    let (text, rest) ← basic 0 r
    return (c :: text, rest)

def literal : List Char → Option (List Char × List Char)
  | [] => none
  | '\'' :: r => some ([], r)
  | c :: r => do
    if !isPlain c then failure
    let (text, rest) ← literal r
    return (c :: text, rest)

/-- The text without a line end at its very start. -/
def dropLineEnd : List Char → List Char
  | '\r' :: '\n' :: r => r
  | '\n' :: r => r
  | cs => cs

def isSpace (c : Char) : Bool := c == ' ' || c == '\t' || c == '\n' || c == '\r'

/-- After a backslash, does only white space stand on the rest of the line? -/
def endsLine (cs : List Char) : Bool :=
  match cs.dropWhile fun c => c == ' ' || c == '\t' with
  | '\n' :: _ => true
  | '\r' :: '\n' :: _ => true
  | _ => false

/-- A string over several lines. One or two quotes right before the closing three belong to the
text. -/
def longBasic : Nat → List Char → Option (List Char × List Char)
  | _, [] => none
  | taken + 1, _ :: r => longBasic taken r
  | 0, '"' :: '"' :: '"' :: '"' :: '"' :: r => some (['"', '"'], r)
  | 0, '"' :: '"' :: '"' :: '"' :: r => some (['"'], r)
  | 0, '"' :: '"' :: '"' :: r => some ([], r)
  | 0, '\\' :: r =>
    if endsLine r then longBasic (r.takeWhile isSpace).length r
    else do
      let (c, n) ← Inline.escape? r
      let (text, rest) ← longBasic n r
      return (c :: text, rest)
  | 0, '\r' :: r => do
    if r.head? != some '\n' then failure
    longBasic 0 r
  | 0, c :: r => do
    if !isPlain c && c != '\n' then failure
    let (text, rest) ← longBasic 0 r
    return (c :: text, rest)

def longLiteral : List Char → Option (List Char × List Char)
  | [] => none
  | '\'' :: '\'' :: '\'' :: '\'' :: '\'' :: r => some (['\'', '\''], r)
  | '\'' :: '\'' :: '\'' :: '\'' :: r => some (['\''], r)
  | '\'' :: '\'' :: '\'' :: r => some ([], r)
  | '\r' :: r => do
    if r.head? != some '\n' then failure
    longLiteral r
  | c :: r => do
    if !isPlain c && c != '\n' then failure
    let (text, rest) ← longLiteral r
    return (c :: text, rest)

/-- A string in one of the four quotings, when one starts here. -/
def string? : List Char → Option (List Char × List Char)
  | '"' :: '"' :: '"' :: r => longBasic 0 (dropLineEnd r)
  | '"' :: r => basic 0 r
  | '\'' :: '\'' :: '\'' :: r => longLiteral (dropLineEnd r)
  | '\'' :: r => literal r
  | _ => none

/-! ## Numbers -/

/-- Digits with single underscores between them; the digits alone. -/
def ungrouped? (isDigit : Char → Bool) : List Char → Option (List Char)
  | [] => none
  | [c] => if isDigit c then some [c] else none
  | c :: '_' :: r => if isDigit c then (ungrouped? isDigit r).map (c :: ·) else none
  | c :: r => if isDigit c then (ungrouped? isDigit r).map (c :: ·) else none

def isHex (c : Char) : Bool := (Text.hexValue? c).isSome

def valueIn (base : Nat) (digits : List Char) : Nat :=
  digits.foldl (fun n c => base * n + (Text.hexValue? c).getD 0) 0

/-- One more than the greatest integer. -/
def limit : Nat := 0x8000000000000000

/-- A whole number of 64 bits with a base before it or without. -/
def isInteger (cs : List Char) : Bool :=
  match cs with
  | '0' :: 'x' :: r => (ungrouped? isHex r).any (valueIn 16 · < limit)
  | '0' :: 'o' :: r => (ungrouped? Text.isOctal r).any (valueIn 8 · < limit)
  | '0' :: 'b' :: r => (ungrouped? (fun c => c == '0' || c == '1') r).any (valueIn 2 · < limit)
  | cs =>
    let (sign, r) := Text.splitSign cs
    (ungrouped? Char.isDigit r).any fun digits =>
      (digits.length == 1 || digits.head? != some '0') &&
        (if sign == some '-' then Text.natOf digits ≤ limit else Text.natOf digits < limit)

def isExponent (cs : List Char) : Bool := (ungrouped? Char.isDigit (Text.splitSign cs).2).isSome

/-- The digits before the point or the exponent. -/
def isWhole (cs : List Char) : Bool :=
  (ungrouped? Char.isDigit cs).any fun digits => digits.length == 1 || digits.head? != some '0'

/-- The digits of a text, without the marks between them. -/
def digitsOf (cs : List Char) : List Char := cs.filter Char.isDigit

/-- Is the number with these digits around its point, times a power of ten, too great for a float?
The least such number is half a step above the greatest float. -/
def overflows (whole fraction : List Char) (exponent : Int) : Bool :=
  let mantissa := Text.natOf (digitsOf (whole ++ fraction))
  let power := exponent - (digitsOf fraction).length
  let places := ((Nat.toDigits 10 mantissa).length : Int) + power
  let bound := Nat.pow 2 1024 - Nat.pow 2 970
  if mantissa == 0 || places < 309 then false
  else if 309 < places then true
  else if 0 ≤ power then bound ≤ mantissa * Nat.pow 10 power.toNat
  else bound * Nat.pow 10 (-power).toNat ≤ mantissa

def exponentOf (cs : List Char) : Int :=
  let (sign, digits) := Text.splitSign cs
  let n : Int := Text.natOf (digitsOf digits)
  if sign == some '-' then -n else n

/-- A float, which may not be too great. -/
def isFloat (cs : List Char) : Bool :=
  let (sign, r) := Text.splitSign cs
  let isE (c : Char) := c == 'e' || c == 'E'
  if r == ['i', 'n', 'f'] || r == ['n', 'a', 'n'] then true
  else
    let (mantissa, exponent) := r.span (!isE ·)
    let (whole, fraction) := mantissa.span (· != '.')
    isWhole whole && (sign == some '-' || !overflows whole fraction (exponentOf exponent.tail)) &&
      (match fraction, exponent with
        | [], _ :: e => isExponent e
        | '.' :: f, [] => (ungrouped? Char.isDigit f).isSome
        | '.' :: f, _ :: e => (ungrouped? Char.isDigit f).isSome && isExponent e
        | _, _ => false)

/-! ## Dates and times -/

/-- Two digits up to a bound, and what follows them. -/
def two? (least most : Nat) : List Char → Option (List Char)
  | a :: b :: r =>
    let n := Text.natOf [a, b]
    if a.isDigit && b.isDigit && least ≤ n && n ≤ most then some r else none
  | _ => none

def after? (c : Char) : List Char → Option (List Char)
  | d :: r => if d == c then some r else none
  | [] => none

def daysIn (year month : Nat) : Nat :=
  if month == 2 then
    if year % 4 == 0 && (year % 100 != 0 || year % 400 == 0) then 29 else 28
  else if [4, 6, 9, 11].contains month then 30
  else 31

/-- A date, and what follows it. -/
def date? (cs : List Char) : Option (List Char) := do
  let year := cs.take 4
  if year.length != 4 || !year.all Char.isDigit then failure
  let r ← after? '-' (cs.drop 4)
  let month := Text.natOf (r.take 2)
  let r ← after? '-' (← two? 1 12 r)
  two? 1 (daysIn (Text.natOf year) month) r

/-- A time of day, and what follows it. -/
def time? (cs : List Char) : Option (List Char) := do
  let r ← after? ':' (← two? 0 23 cs)
  let r ← after? ':' (← two? 0 59 r)
  let r ← two? 0 60 r
  match r with
  | '.' :: f => if (f.takeWhile Char.isDigit).isEmpty then none else some (f.dropWhile Char.isDigit)
  | r => some r

/-- The offset of a time, and what follows it. -/
def offset? : List Char → Option (List Char)
  | 'Z' :: r => some r
  | 'z' :: r => some r
  | '+' :: r => do two? 0 59 (← after? ':' (← two? 0 23 r))
  | '-' :: r => do two? 0 59 (← after? ':' (← two? 0 23 r))
  | r => some r

/-- A date, a time or both; what follows them. -/
def moment? (cs : List Char) : Option (List Char) :=
  match date? cs with
  | none => time? cs
  | some (c :: r) =>
    if c == 'T' || c == 't' then (time? r).bind offset?
    else if c == ' ' then some (((time? r).bind offset?).getD (c :: r))
    else some (c :: r)
  | some [] => some []

/-! ## Scalars -/

def isScalarChar (c : Char) : Bool := c.isAlphanum || ['+', '-', '_', '.', ':'].contains c

/-- A value that is no string, list or table, and what follows it. A date is a table of its own
kind, which fits no field. -/
def scalar? (cs : List Char) : Option (Data × List Char) :=
  let (text, rest) := cs.span isScalarChar
  if text == "true".toList then some (.bool true, rest)
  else if text == "false".toList then some (.bool false, rest)
  else if isInteger text || isFloat text then some (.number (String.ofList text), rest)
  else do
    let rest ← moment? cs
    if (rest.head?.any isScalarChar) then failure
    let text := cs.take (cs.length - rest.length)
    return (.record [("date-time", .string (String.ofList text))], rest)

end Codemod.Data.Toml
