import Codemod.Grammar.Module
import Codemod.Layout.Node

/-!
# Layout of modules

The comments of the module's start come first, then the `#!` line and the items, each on lines of
its own, then the comments after the last token.
-/
namespace Codemod

/-- The pieces of an item with what ends its line. -/
def Item.layout : Item → List Piece
  | .importing decl =>
    decl.layout ++ Node.lead " with " decl.attributes ++ Node.layoutSome decl.attributes ++
      [.text ";"] ++ ((decl.span.map fun sp => [Piece.trailing sp.hi true]).getD []) ++ [.line]
  | .code node => node.ended node.layout

namespace Module

def layout (m : Module) : List Piece :=
  [.leading m.span.lo] ++
    ((m.shebang.map fun text => [Piece.text ("#!" ++ text), .line]).getD []) ++
    m.items.flatMap Item.layout ++ [.trailing m.span.hi true]

/-- The printed module, given the characters that it was read from; the comments that have been
printed are gone from the module that is left. -/
def print (source : List Char) (m : Module) : String × Module :=
  let page := (Page.blank m.comments).putAll source m.layout
  (page.out, { m with comments := page.comments })

end Module

end Codemod
