import Codemod.Text.Identifier
import Codemod.Text.StringLiteral

/-!
# Tokens

`Token.scan` reads one token at the head of a text that starts with no blank and no comment. A
longer punctuator wins over a shorter one, except that `>` is always read alone: type arguments
close with it, and an expression joins `>`, `>` and `=` itself.
-/
namespace Codemod

inductive Token
  /-- An identifier or a keyword; `escaped` when it begins with an escape, which no keyword does. -/
  | word (text : String) (escaped : Bool)
  | privateName (text : String)
  | punct (text : String)
  /-- A string literal: its text, and how it is written, quotes included. -/
  | string (value raw : String)
  | number (raw : String)
  | eof
  /-- A character or a literal that no token of the language starts with. -/
  | invalid
deriving DecidableEq, Repr, Inhabited

/-- A token, the number of characters it takes, and the text after it. -/
structure Lexeme where
  token : Token
  width : Nat
  rest : List Char

namespace Token

open Text.StringLiteral (isHighSurrogate isLowSurrogate joinSurrogates)

/-- Longer punctuators come before their beginnings. -/
def punctuators : List String :=
  ["...", "===", "!==", "**=", "<<=", "&&=", "||=", "??=",
   "=>", "==", "!=", "<=", "++", "--", "&&", "||", "??", "?.", "**", "+=", "-=", "*=", "/=", "%=",
   "&=", "|=", "^=", "<<",
   "\x7b", "\x7d", "(", ")", "[", "]", ";", ",", "<", ">", ".", "+", "-", "*", "/", "%", "&", "|",
   "^", "!", "~", "?", ":", "=", "@", "`", "#"]

/-- The text after `head`, when the text begins with it. -/
def after? : List Char → List Char → Option (List Char)
  | [], cs => some cs
  | h :: hs, c :: cs => if h == c then after? hs cs else none
  | _ :: _, [] => none

/-- An optional chain is not opened by `?.` before a digit. -/
def isPunctuatorAt (p : String) (rest : List Char) : Bool :=
  !(p == "?." && rest.head?.any Char.isDigit)

def scanPunctuator (cs : List Char) : Lexeme :=
  let found := punctuators.findSome? fun p =>
    match after? p.toList cs with
    | some rest => if isPunctuatorAt p rest then some ⟨.punct p, p.length, rest⟩ else none
    | none => none
  found.getD ⟨.invalid, 0, cs⟩

/-- A surrogate of a pair that is not complete, as it is written in an identifier. -/
def loneSurrogate (n : Nat) : List Char :=
  '\\' :: 'u' :: ((Nat.toDigits 16 n).map Char.toUpper)

/-- The characters that a code point or a surrogate adds to an identifier. -/
def unitChars (n : Nat) : List Char :=
  if isHighSurrogate n || isLowSurrogate n then loneSurrogate n else [Char.ofNat n]

/-- An escape in an identifier: the number of its code point, its width and the text after it. -/
def scanEscape : List Char → Option (Nat × Nat × List Char)
  | '\\' :: 'u' :: '\x7b' :: r =>
    let (digits, r) := r.span fun c => (Text.hexValue? c).isSome
    match r, Text.hexNumber? digits with
    | '\x7d' :: r, some n =>
      if digits.isEmpty || 0x10FFFF < n then none else some (n, digits.length + 4, r)
    | _, _ => none
  | '\\' :: 'u' :: a :: b :: c :: d :: r =>
    (Text.hexNumber? [a, b, c, d]).map fun n => (n, 6, r)
  | _ => none

/-- An escape, or two that make a pair of surrogates: the characters they add to an identifier,
their width and the text after them. -/
def scanEscapes (cs : List Char) : Option (List Char × Nat × List Char) := do
  let (n, width, rest) ← scanEscape cs
  match scanEscape rest with
  | some (m, second, after) =>
    if isHighSurrogate n && isLowSurrogate m then
      return ([joinSurrogates n m], width + second, after)
    return (unitChars n, width, rest)
  | none => return (unitChars n, width, rest)

/-- An identifier from a place where an escape stands in it: its characters, its width in the text,
and the text after it. What an escape stands for is taken as it is. -/
def scanEscapedWord : Nat → List Char → Option (List Char × Nat × List Char)
  | 0, _ => none
  | fuel + 1, cs =>
    match cs with
    | '\\' :: _ => do
      let (chars, width, rest) ← scanEscapes cs
      let (more, w, rest) ← scanEscapedWord fuel rest
      return (chars ++ more, width + w, rest)
    | c :: r =>
      if Text.isIdentPart c then do
        let (chars, width, rest) ← scanEscapedWord fuel r
        return (c :: chars, width + 1, rest)
      else some ([], 0, cs)
    | [] => some ([], 0, [])

/-- A word, from its first character on. A word that begins with an escape is never a keyword, and
one with an escape further on may not be a reserved word. -/
def scanWord (cs : List Char) : Lexeme :=
  let (chars, rest) := cs.span Text.isIdentPart
  match rest with
  | '\\' :: _ =>
    match scanEscapedWord (cs.length + 1) cs with
    | some (text, width, rest) =>
      let word := String.ofList text
      if !chars.isEmpty && Text.isReserved word then ⟨.invalid, 0, cs⟩
      else ⟨.word word chars.isEmpty, width, rest⟩
    | none => ⟨.invalid, 0, cs⟩
  | _ => ⟨.word (String.ofList chars) false, chars.length, rest⟩

/-- The body of a string literal up to its closing quote, and the text after that quote. -/
def stringBody (quote : Char) : List Char → Option (List Char × List Char)
  | [] => none
  | '\\' :: '\r' :: '\n' :: r => do
    let (body, rest) ← stringBody quote r
    return ('\\' :: '\r' :: '\n' :: body, rest)
  | '\\' :: c :: r => do
    let (body, rest) ← stringBody quote r
    return ('\\' :: c :: body, rest)
  | c :: r =>
    if c == quote then some ([], r)
    else if c == '\n' || c == '\r' then none
    else do
      let (body, rest) ← stringBody quote r
      return (c :: body, rest)

/-- A string literal, after its opening quote. -/
def scanString (quote : Char) (cs : List Char) : Lexeme :=
  match stringBody quote cs with
  | some (body, rest) =>
    match Text.StringLiteral.decode body with
    | some value =>
      ⟨.string value (String.ofList (quote :: body ++ [quote])), body.length + 2, rest⟩
    | none => ⟨.invalid, 0, cs⟩
  | none => ⟨.invalid, 0, cs⟩

def isDigitOrMark (c : Char) : Bool := c.isDigit || c == '_'

/-- Are there digits, and not only marks between them? -/
def hasDigit (cs : List Char) : Bool := cs.any (· != '_')

/-- A whole number that begins with a zero and has no digit above seven, which nothing continues. -/
def isOctalNumber : List Char → Bool
  | '0' :: d :: ds => (d :: ds).all fun c => c != '8' && c != '9'
  | _ => false

/-- The exponent of a decimal number, if one starts here. -/
def exponent (cs : List Char) : List Char × List Char :=
  match cs with
  | e :: r =>
    if e == 'e' || e == 'E' then
      let (sign, r) := match r with
        | '+' :: r => (['+'], r)
        | '-' :: r => (['-'], r)
        | r => ([], r)
      let (digits, r) := r.span isDigitOrMark
      if hasDigit digits then (e :: sign ++ digits, r) else ([], cs)
    else ([], cs)
  | [] => ([], cs)

/-- The base that a letter after a zero marks. -/
def base? (c : Char) : Option Nat :=
  [('x', 16), ('X', 16), ('o', 8), ('O', 8), ('b', 2), ('B', 2)].lookup c

/-- The characters of a number: with a base mark, or decimal with fraction and exponent. -/
def numberText (cs : List Char) : List Char × List Char :=
  match cs with
  | '0' :: x :: r =>
    match base? x with
    | some base =>
      let (digits, r) := r.span fun c => (Text.hexValue? c).any (· < base) || c == '_'
      if hasDigit digits then ('0' :: x :: digits, r) else ([], cs)
    | none => decimal cs
  | cs => decimal cs
where
  decimal (cs : List Char) : List Char × List Char :=
    let (whole, r) := cs.span isDigitOrMark
    if isOctalNumber whole then (whole, r)
    else
      let (fraction, r) := match r with
        | '.' :: r =>
          let (digits, r) := r.span isDigitOrMark
          ('.' :: digits, r)
        | r => ([], r)
      let (exp, r) := exponent r
      (whole ++ fraction ++ exp, r)

/-- May the mark of a big integer follow these characters of a number? -/
def isWhole : List Char → Bool
  | ['0'] => true
  | '0' :: x :: _ => (base? x).isSome
  | digits => digits.all isDigitOrMark

/-- A number; a letter may not follow it directly, save the mark of a big integer. -/
def scanNumber (cs : List Char) : Lexeme :=
  let (digits, r) := numberText cs
  let (text, r) := match r with
    | 'n' :: r => if isWhole digits then (digits ++ ['n'], r) else (digits, 'n' :: r)
    | r => (digits, r)
  if text.isEmpty || r.head?.any Text.isIdentPart || r.head? == some '\\' then ⟨.invalid, 0, cs⟩
  else ⟨.number (String.ofList text), text.length, r⟩

/-- Reads one token at the head of the text. -/
def scan (cs : List Char) : Lexeme :=
  match cs with
  | [] => ⟨.eof, 0, []⟩
  | c :: r =>
    if Text.isIdentStart c || c == '\\' then scanWord cs
    else if c.isDigit || (c == '.' && r.head?.any Char.isDigit) then scanNumber cs
    else if c == '"' || c == '\'' then scanString c r
    else if c == '#' && r.head?.any (fun d => Text.isIdentStart d || d == '\\') then
      let name := scanWord r
      match name.token with
      | .word text _ => ⟨.privateName text, name.width + 1, name.rest⟩
      | _ => ⟨.invalid, 0, cs⟩
    else scanPunctuator cs

/-- Operators between two operands that are punctuators. -/
def binaryPunctuators : List String :=
  ["==", "!=", "===", "!==", "<", "<=", ">", "<<", "+", "-", "*", "/", "%", "|", "^", "&", "||",
   "&&", "**", "??"]

/-- A line comment after such a token belongs to the operand that follows. -/
def isBinaryOperator : Token → Bool
  | .punct p => binaryPunctuators.contains p
  | _ => false

/-- Words that are keywords wherever they stand. -/
def isKeyword (text : String) : Bool :=
  (Text.isReserved text && text != "enum") || text == "let"

/-- May a block comment on the same line belong to this token rather than to the next? -/
def holdsBlockComment : Token → Bool
  | .word text escaped => escaped || !isKeyword text
  | .privateName _ => true
  | .string _ _ => true
  | .number _ => true
  | .punct p => p == ";" || p == "\x7b" || p == "\x7d"
  | _ => false

end Token

end Codemod
