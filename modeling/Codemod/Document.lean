import Codemod.Error
import Codemod.Layout.Module
import Codemod.Path
import Codemod.Text.Quoted

/-!
# Documents

A `Document` is one source file: its path, its module as edits have left it, and the characters that
it was read from.
-/
namespace Codemod

/-- How a text is to be read. -/
structure ParseOptions where
  decorators : Bool
  /-- Elements in angle brackets, or `none` to go by the path's extension. -/
  tsx : Option Bool
deriving DecidableEq, Repr

namespace ParseOptions

def default : ParseOptions := ⟨true, none⟩

def dialect (o : ParseOptions) (path : Path) : Dialect :=
  let byPath := path.extension == some "tsx" || path.extension == some "jsx"
  ⟨o.tsx.getD byPath, o.decorators, path.spelling.endsWith ".d.ts"⟩

end ParseOptions

structure Document where
  path : Path
  /-- The characters that the module was read from. -/
  source : List Char
  module : Module

namespace Document

def parse (path : Path) (text : String) (options : ParseOptions) : Except Error Document :=
  let source := Module.dropMark text.toList
  match Module.ofChars? (options.dialect path) source with
  | some module => .ok ⟨path, source, module⟩
  | none => .error (.parse path.spelling "Unexpected token")

def items (d : Document) : List Item := d.module.items

def setItems (d : Document) (items : List Item) : Document :=
  { d with module := { d.module with items := items } }

/-- The text of the document as it is now, and the document without the comments that it prints. -/
def emit (d : Document) : String × Document :=
  let (text, module) := d.module.print d.source
  (text, { d with module := module })

def describe (d : Document) : String :=
  "SourceDocument \x7b path: " ++ Text.quoted d.path.spelling ++ ", items: " ++
    toString d.items.length ++ " \x7d"

end Document

end Codemod
