import Codemod.Data.Value
import Codemod.Decorator
import Codemod.Imports.Edit

/-!
# Requests, kinds and reports as data

How the values that other programs hand in and get out are written as data, and read back.
-/
namespace Codemod

namespace Imports.Request

def data (r : Request) : Data :=
  .record [("names", Data.ofStrings r.names), ("module", .string r.module)]

def ofData? (d : Data) : Option Request := do
  match ← d.fields? ["names", "module"] 2 with
  | [some names, some module] => return ⟨← names.strings?, ← module.string?⟩
  | _ => none

end Imports.Request

namespace DecoratorKind

def data (k : DecoratorKind) : Data := .string k.name

def ofData? (d : Data) : Option DecoratorKind := d.choice? ofName?

end DecoratorKind

namespace Report

/-- The report as data; a file that is not known is left out. -/
def data (r : Report) : Data :=
  .record ([("code", .string r.code), ("message", .string r.message)] ++
    (r.file.map fun file => ("file", Data.string file)).toList)

def ofData? (d : Data) : Option Report := do
  match ← d.fields? ["code", "message", "file"] 3 with
  | [some code, some message, file] =>
    return ⟨← code.string?, ← message.string?, ← Data.optional? Data.string? file⟩
  | _ => none

end Report

end Codemod
