/-!
# Comments and where they belong

A comment belongs to a position of the text: before the token that starts there (*leading*) or
after the token that ends there (*trailing*). `Comments` keeps them in source order, and taking the
comments of a position removes them, so that each is printed at most once.
-/
namespace Codemod

/-- A stretch of the source text, by character positions; `hi` is the position after its end. -/
structure Span where
  lo : Nat
  hi : Nat
deriving DecidableEq, Repr, Inhabited

inductive CommentKind
  | line
  | block
deriving DecidableEq, Repr

/-- A comment, without the marks around its text. -/
structure Comment where
  kind : CommentKind
  text : String
deriving DecidableEq, Repr

/-- The comments of a text by position, each list in source order. -/
structure Comments where
  leading : List (Nat × Comment)
  trailing : List (Nat × Comment)
deriving DecidableEq, Repr

namespace Comments

def empty : Comments := ⟨[], []⟩

/-- The entries of a position, and the entries without them. -/
def split (pos : Nat) (entries : List (Nat × Comment)) : List Comment × List (Nat × Comment) :=
  ((entries.filter (·.1 == pos)).map (·.2), entries.filter (·.1 != pos))

/-- Takes the comments before the token at `pos`. -/
def takeLeading (pos : Nat) (cs : Comments) : List Comment × Comments :=
  let (taken, left) := split pos cs.leading
  (taken, { cs with leading := left })

/-- Takes the comments after the token that ends at `pos`. -/
def takeTrailing (pos : Nat) (cs : Comments) : List Comment × Comments :=
  let (taken, left) := split pos cs.trailing
  (taken, { cs with trailing := left })

def hasLeading (pos : Nat) (cs : Comments) : Bool := cs.leading.any (·.1 == pos)

def addLeading (pos : Nat) (new : List Comment) (cs : Comments) : Comments :=
  { cs with leading := cs.leading ++ new.map (pos, ·) }

def addTrailing (pos : Nat) (new : List Comment) (cs : Comments) : Comments :=
  { cs with trailing := cs.trailing ++ new.map (pos, ·) }

end Comments

end Codemod
