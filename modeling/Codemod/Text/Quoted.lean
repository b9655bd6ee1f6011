import Codemod.Text.EscapedRanges
import Codemod.Text.Identifier

/-!
# Quoted text

Text in double quotes for messages: quotes, backslashes and the common controls by their short
escapes, other characters that do not show by their code point in braces.
-/
namespace Codemod.Text

/-- The digits of a number in base 16, in lower case. -/
def hexDigits (n : Nat) : String := String.ofList (Nat.toDigits 16 n)

/-- Does the character show as itself? -/
def isVisible (c : Char) : Bool :=
  0x20 ≤ c.toNat && !(0x7F ≤ c.toNat && inRanges escapedRanges c.toNat)

def quotedChar (c : Char) : String :=
  match c with
  | '"' => "\\\""
  | '\\' => "\\\\"
  | '\n' => "\\n"
  | '\r' => "\\r"
  | '\t' => "\\t"
  | c =>
    if c.toNat == 0 then "\\0"
    else if isVisible c then c.toString
    else "\\u\x7b" ++ hexDigits c.toNat ++ "\x7d"

/-- The text in double quotes. -/
def quoted (s : String) : String :=
  "\"" ++ String.join (s.toList.map quotedChar) ++ "\""

end Codemod.Text
