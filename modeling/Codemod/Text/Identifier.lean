import Codemod.Text.IdentifierRanges

/-!
# Identifiers

Which characters an identifier of the language is made of, and which words are kept for its own
use. A legal binding name of module code is an identifier that module code may also refer to
(`isBindingName`).
-/
namespace Codemod.Text

/-- Membership of a code point in a list of inclusive ranges. -/
def inRanges (ranges : List (Nat × Nat)) (n : Nat) : Bool :=
  ranges.any fun (lo, hi) => lo ≤ n && n ≤ hi

def isIdentStart (c : Char) : Bool :=
  if c.val < 0x80 then c.isAlpha || c == '$' || c == '_'
  else inRanges identifierStartRanges c.toNat

/-- May the character stand inside an identifier? -/
def isIdentPart (c : Char) : Bool :=
  if c.val < 0x80 then c.isAlphanum || c == '$' || c == '_'
  else inRanges identifierStartRanges c.toNat || inRanges identifierContinueRanges c.toNat

/-- A start character followed by any number of part characters. -/
def isIdentifier (s : String) : Bool :=
  match s.toList with
  | [] => false
  | c :: cs => isIdentStart c && cs.all isIdentPart

/-- Words that never name a binding in module code. -/
def reservedWords : List String :=
  ["await", "break", "case", "catch", "class", "const", "continue", "debugger", "default", "delete",
   "do", "else", "enum", "export", "extends", "false", "finally", "for", "function", "if", "import",
   "in", "instanceof", "new", "null", "return", "super", "switch", "this", "throw", "true", "try",
   "typeof", "var", "void", "while", "with", "yield"]

def isReserved (s : String) : Bool := reservedWords.contains s

/-- Words that no expression of module code refers to, though some of them may be bound. -/
def isUnreferable (s : String) : Bool :=
  isReserved s ||
    ["let", "implements", "interface", "package", "private", "protected", "public"].contains s

/-- Words that are read as the name of a binding wherever one is due. -/
def isBindable (s : String) : Bool := !isReserved s || ["enum", "this", "yield"].contains s

/-- A name that module code may bind. -/
def isBindingName (s : String) : Bool := isIdentifier s && !isUnreferable s

end Codemod.Text
