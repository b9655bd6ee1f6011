/-!
# Numbers in text

Whole numbers and decimal numbers as strings of characters, and the ranges of machine words.
-/
namespace Codemod.Text

/-- The value of decimal digits. -/
def natOf (digits : List Char) : Nat := digits.foldl (fun n c => 10 * n + (c.toNat - '0'.toNat)) 0

/-- One digit or more, and nothing else. -/
def isDigits (cs : List Char) : Bool := !cs.isEmpty && cs.all Char.isDigit

/-- Splits a plus or minus off. -/
def splitSign : List Char → Option Char × List Char
  | '+' :: r => (some '+', r)
  | '-' :: r => (some '-', r)
  | cs => (none, cs)

/-- A whole number that fits a word of 64 bits, with a sign or without. -/
def isInteger (cs : List Char) : Bool :=
  let (sign, digits) := splitSign cs
  isDigits digits &&
    (match sign with
      | some '-' => natOf digits ≤ 0x8000000000000000
      | _ => natOf digits < 0x10000000000000000)

/-- The exponent of a decimal number, or nothing. -/
def isExponent : List Char → Bool
  | [] => true
  | c :: r => (c == 'e' || c == 'E') && isDigits (splitSign r).2

/-- A decimal number: digits around a point, of which some are there, and perhaps an exponent. -/
def isDecimal (cs : List Char) : Bool :=
  let (whole, rest) := (splitSign cs).2.span Char.isDigit
  match rest with
  | '.' :: r =>
    let (fraction, exponent) := r.span Char.isDigit
    !(whole.isEmpty && fraction.isEmpty) && isExponent exponent
  | rest => !whole.isEmpty && isExponent rest

end Codemod.Text
