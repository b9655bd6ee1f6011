/-!
# Blanks and line ends of source text

The characters that separate tokens: line ends, and the blanks within a line (ASCII blanks, the
next-line control, the byte order mark, and every space separator of Unicode).
-/
namespace Codemod.Text

def isLineEnd (c : Char) : Bool :=
  c == '\n' || c == '\r' || c.toNat == 0x2028 || c.toNat == 0x2029

/-- A blank that does not end the line. -/
def isInlineBlank (c : Char) : Bool :=
  c == ' ' || c == '\t' ||
    [0x0B, 0x0C, 0x85, 0xA0, 0x1680, 0x202F, 0x205F, 0x3000, 0xFEFF].contains c.toNat ||
  (0x2000 ≤ c.toNat && c.toNat ≤ 0x200A)

def isBlank (c : Char) : Bool := isInlineBlank c || isLineEnd c

/-- White space in the sense of general text, not of code: line ends and all spaces. -/
def isWhiteSpace (c : Char) : Bool :=
  let n := c.toNat
  (9 ≤ n && n ≤ 13) || n == 0x20 || n == 0x85 || n == 0xA0 || n == 0x1680 ||
    (0x2000 ≤ n && n ≤ 0x200A) || n == 0x2028 || n == 0x2029 || n == 0x202F || n == 0x205F ||
    n == 0x3000

/-- The characters without white space at both ends. -/
def trim (cs : List Char) : List Char :=
  ((cs.dropWhile isWhiteSpace).reverse.dropWhile isWhiteSpace).reverse

end Codemod.Text
