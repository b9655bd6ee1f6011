import Codemod.Layout.Page
import Codemod.Source.ImportClause
import Codemod.Text.StringLiteral

/-!
# Layout of import clauses

A clause is one line: its default binding, its namespace binding or its names in braces, and the
module. What comes from the source is printed as the source wrote it; a new literal is quoted
and a new name is printed as it is.
-/
namespace Codemod

/-- The comments before something, when it comes from the source. -/
def leadingOf (span : Option Span) : List Piece :=
  match span with
  | some sp => [.leading sp.lo]
  | none => []

def Literal.layout (l : Literal) : List Piece :=
  leadingOf l.span ++ [.text (l.raw.getD (Text.StringLiteral.encode l.value))]

def Name.layout (n : Name) : List Piece := leadingOf n.span ++ [.text n.text]

def ExternalName.layout : ExternalName → List Piece
  | .ident name => name.layout
  | .string literal => literal.layout

def NamedSpecifier.layout (s : NamedSpecifier) : List Piece :=
  Piece.when s.typeOnly [.text "type "] ++
    (match s.imported with
      | some name => name.layout ++ [.text " as "]
      | none => []) ++ s.binding.layout

namespace ImportClause

/-- A specifier between the braces, with the comments after it. -/
def specifierLayout (s : NamedSpecifier) : List Piece :=
  match s.span with
  | some sp => s.layout ++ [.trailing sp.hi false]
  | none => s.layout

/-- The default bindings and then the namespace bindings of a declaration. -/
def bindingsLayout (d : ImportClause) : List (List Piece) :=
  d.specifiers.filterMap fun
    | .default binding => some binding.layout
    | .star binding => some (.text "* as " :: binding.layout)
    | .named _ => none

/-- The names in braces, if there are any. -/
def bracesLayout (d : ImportClause) : List (List Piece) :=
  if d.named.isEmpty then []
  else
    let specifiers := d.named.map specifierLayout
    let comma := (d.span.map fun sp => [Piece.finalComma sp]).getD []
    [[.text "\x7b "] ++ Piece.join [.text ", "] specifiers ++ comma ++ [.text " \x7d"]]

def phaseText : ImportPhase → String
  | .evaluation => ""
  | .source => "source "
  | .defer => "defer "

/-- The clause, without what may follow its module. -/
def layout (d : ImportClause) : List Piece :=
  let clause := d.bindingsLayout ++ d.bracesLayout
  leadingOf d.span ++ [.text "import "] ++ Piece.when d.typeOnly [.text "type "] ++
    [.text (phaseText d.phase)] ++ Piece.join [.text ", "] clause ++
    Piece.when (!clause.isEmpty) [.text " from "] ++ d.source.layout

end ImportClause

end Codemod
