import Codemod.Text.Utf8

/-!
# Errors and reports

`Error` names what can go wrong, with its wording in `Error.message` and its class in `Error.code`.
A `Report` is the form in which an error is handed to other programs.
-/
namespace Codemod

inductive Error
  | moduleNotFound (module : String)
  | decoratorNotFound (decorator : String)
  | classNotFound (name : String)
  | parse (file detail : String)
  | emit (detail : String)
  | config (detail : String)
  | invalidInput (detail : String)
  /-- A failed access to a file, with the failure below it when there is one. -/
  | access (detail : String) (cause : Option String)
deriving DecidableEq, Repr

namespace Error

def message : Error → String
  | .moduleNotFound module => s!"Module {module} not found"
  | .decoratorNotFound decorator => s!"Decorator {decorator} not found"
  | .classNotFound name => s!"Class {name} not found"
  | .parse file detail => s!"Parse error in {file}: {detail}"
  | .emit detail => s!"Emit error: {detail}"
  | .config detail => s!"Configuration error: {detail}"
  | .invalidInput detail => s!"Invalid input: {detail}"
  | .access detail _ => s!"I/O error: {detail}"

/-- The class of an error, for other programs. -/
def code : Error → String
  | .moduleNotFound _ => "E1006"
  | .decoratorNotFound _ => "E1006"
  | .classNotFound _ => "E1006"
  | .parse _ _ => "E1009"
  | .emit _ => "E1000"
  | .config _ => "E1001"
  | .invalidInput _ => "E1001"
  | .access _ _ => "E1002"

/-- Is it about something that does not exist in the code? -/
def isNotFound : Error → Bool
  | .moduleNotFound _ => true
  | .decoratorNotFound _ => true
  | .classNotFound _ => true
  | _ => false

def file? : Error → Option String
  | .parse file _ => some file
  | _ => none

/-- The failures below an error, the nearest first. -/
def causes : Error → List String
  | .access detail cause => detail :: cause.toList
  | _ => []

/-- The error for bytes that should have been text. -/
def ofFault (fault : Utf8.Fault) : Error :=
  .emit s!"Emitted code is not valid UTF-8: {fault.message}"

end Error

/-- An error as other programs read it. -/
structure Report where
  code : String
  message : String
  file : Option String
deriving DecidableEq, Repr

namespace Report

def ofError (e : Error) : Report := ⟨e.code, e.message, e.file?⟩

def withFile (file : String) (r : Report) : Report := { r with file := some file }

def display (r : Report) : String :=
  "[" ++ r.code ++ "] " ++ r.message ++
    (match r.file with
      | some file => " (" ++ file ++ ")"
      | none => "")

end Report

end Codemod
