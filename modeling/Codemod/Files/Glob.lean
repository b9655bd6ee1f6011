/-!
# Glob patterns

A pattern is a list of tokens that together match a whole path: `?` stands for one character, `*`
for any run of characters, both also for slashes; `**` stands for whole components and is one by
itself; `[…]` and `[!…]` stand for one character that is or is not in a set.
-/
namespace Codemod

/-- A member of a character set: a character, or all between two. -/
inductive CharSet
  | single (c : Char)
  | range (first last : Char)
deriving DecidableEq, Repr

namespace CharSet

def holds (c : Char) : CharSet → Bool
  | .single d => c == d
  | .range first last => first ≤ c && c ≤ last

/-- The members that are written between the brackets. -/
def ofChars : List Char → List CharSet
  | a :: '-' :: b :: r => .range a b :: ofChars r
  | a :: r => .single a :: ofChars r
  | [] => []

end CharSet

namespace Glob

inductive Token
  | char (c : Char)
  | anyChar
  | within (set : List CharSet)
  | except (set : List CharSet)
  /-- Any run of characters. -/
  | run
  /-- Any number of whole components, each with its slash. -/
  | components
deriving DecidableEq, Repr

/-! ## Patterns -/

inductive Flaw
  | range
  | wildcards
  | component
deriving DecidableEq, Repr

def Flaw.text : Flaw → String
  | .range => "invalid range pattern"
  | .wildcards => "wildcards are either regular `*` or recursive `**`"
  | .component => "recursive wildcards must form a single path component"

structure Fault where
  position : Nat
  flaw : Flaw
deriving DecidableEq, Repr

def Fault.message (f : Fault) : String :=
  s!"Pattern syntax error near position {f.position}: {f.flaw.text}"

/-- The characters of a set after its bracket, and what follows it. A bracket that closes may be the
first character of the set. -/
def set? : List Char → Option (List Char × List Char)
  | [] => none
  | first :: r =>
    let (more, rest) := r.span (· != ']')
    match rest with
    | _ :: rest => some (first :: more, rest)
    | [] => none

/-- The token of a set after its bracket, and what follows it. -/
def bracket? : List Char → Option (Token × List Char)
  | '!' :: r => (set? r).map fun (chars, rest) => (.except (CharSet.ofChars chars), rest)
  | cs => (set? cs).map fun (chars, rest) => (.within (CharSet.ofChars chars), rest)

/-- The tokens of a pattern; `position` characters are read, and `fresh` tells whether a component
starts here. -/
def tokensFrom : Nat → Nat → Bool → List Char → Except Fault (List Token)
  | 0, _, _, _ => .ok []
  | _, _, _, [] => .ok []
  | fuel + 1, position, fresh, c :: r =>
    match c with
    | '?' => return .anyChar :: (← tokensFrom fuel (position + 1) false r)
    | '*' =>
      let stars := (c :: r).takeWhile (· == '*')
      let rest := (c :: r).dropWhile (· == '*')
      match stars.length with
      | 1 => return .run :: (← tokensFrom fuel (position + 1) false rest)
      | 2 =>
        if !fresh then .error ⟨position - 1, .component⟩
        else
          match rest with
          | [] => .ok [.components]
          | '/' :: rest => return .components :: (← tokensFrom fuel (position + 3) true rest)
          | _ => .error ⟨position + 2, .component⟩
      | _ => .error ⟨position + 2, .wildcards⟩
    | '[' =>
      match bracket? r with
      | some (token, rest) =>
        return token :: (← tokensFrom fuel (position + 1 + r.length - rest.length) false rest)
      | none => .error ⟨position, .range⟩
    | c => return .char c :: (← tokensFrom fuel (position + 1) (c == '/') r)

def parse (pattern : String) : Except Fault (List Token) :=
  tokensFrom (pattern.length + 1) 0 true pattern.toList

/-! ## Matching -/

/-- Does some end of the text pass, the text itself and the empty one included? -/
def someSuffix (test : List Char → Bool) : List Char → Bool
  | [] => test []
  | c :: r => test (c :: r) || someSuffix test r

/-- Does what follows some slash pass, or the empty text? -/
def afterSlash (test : List Char → Bool) : List Char → Bool
  | [] => test []
  | c :: r => (c == '/' && test r) || afterSlash test r

def Token.accepts (c : Char) : Token → Bool
  | .char d => c == d
  | .anyChar => true
  | .within set => set.any (CharSet.holds c)
  | .except set => !set.any (CharSet.holds c)
  | .run => false
  | .components => false

def matchesChars : List Token → List Char → Bool
  | [], cs => cs.isEmpty
  | .run :: tokens, cs => someSuffix (matchesChars tokens) cs
  | .components :: tokens, cs => matchesChars tokens cs || afterSlash (matchesChars tokens) cs
  | _ :: _, [] => false
  | token :: tokens, c :: r => token.accepts c && matchesChars tokens r

def matchesText (tokens : List Token) (text : String) : Bool := matchesChars tokens text.toList

end Glob

end Codemod
