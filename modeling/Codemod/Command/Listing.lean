import Codemod.Data.Forms
import Codemod.Data.Json
import Codemod.Project

/-!
# Listings of classes

The classes of a project that are of some kind, and the files that were left out.
-/
namespace Codemod

structure ClassEntry where
  path : String
  name : String
  kinds : List DecoratorKind
  exported : Bool
deriving DecidableEq, Repr

namespace ClassEntry

/-- The entry of a class; a class without a name is listed as the default one. -/
def ofClass (c : ClassRef) : ClassEntry :=
  ⟨(c.path.map (·.spelling)).getD "", c.name.getD "<default>", c.kinds, c.exported⟩

def line (e : ClassEntry) : String :=
  e.path ++ ":" ++ e.name ++ "\t" ++ String.intercalate "," (e.kinds.map DecoratorKind.name)

def data (e : ClassEntry) : Data :=
  .record [("path", .string e.path), ("name", .string e.name),
    ("kinds", .list (e.kinds.map DecoratorKind.data)), ("exported", .bool e.exported)]

end ClassEntry

structure Listing where
  classes : List ClassEntry
  skipped : List Report
deriving DecidableEq, Repr

namespace Listing

/-- Is a class listed? It is of the kind that is asked for, or of any. -/
def isListed (kind : Option DecoratorKind) (c : ClassRef) : Bool :=
  match kind with
  | some kind => c.kinds.contains kind
  | none => !c.kinds.isEmpty

def entries (p : Project) (kind : Option DecoratorKind) : List ClassEntry :=
  (p.classes.filter (isListed kind)).map ClassEntry.ofClass

/-- The reports on the files that were left out. -/
def skippedReports (p : Project) : List Report :=
  p.skipped.map fun (path, e) => (Report.ofError e).withFile path.spelling

def ofProject (p : Project) (kind : Option DecoratorKind) : Listing :=
  ⟨entries p kind, skippedReports p⟩

def data (l : Listing) : Data :=
  .record [("classes", .list (l.classes.map ClassEntry.data)),
    ("skipped", .list (l.skipped.map Report.data))]

def lines (l : Listing) : String := String.join (l.classes.map (·.line ++ "\n"))

/-- The lines about files that were left out. -/
def skippedLines (l : Listing) : String :=
  String.join (l.skipped.map fun r => "skipped: " ++ r.display ++ "\n")

end Listing

end Codemod
