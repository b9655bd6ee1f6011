import Codemod.Command.Arguments
import Codemod.Command.Listing

/-!
# Running commands

A command runs on a file system and an environment and gives an `Outcome`: what it prints, how it
exits and the files after it. Edits of several files run one after the other and end at the first
file that fails; what was written before stays written.
-/
namespace Codemod

/-- A failure with what it comes from, the outermost first. -/
structure Failure where
  message : String
  causes : List String
deriving DecidableEq, Repr

namespace Failure

def ofError (e : Error) : Failure := ⟨e.message, e.causes⟩

/-- The failure of an error in the course of something. -/
def within (context : String) (e : Error) : Failure := ⟨context, e.message :: e.causes⟩

/-- A text whose lines after the first begin with some blanks. -/
def indented (blanks text : String) : String :=
  String.intercalate ("\n" ++ blanks) (text.splitOn "\n")

def numbered (i : Nat) : List String → String
  | [] => ""
  | cause :: causes => s!"    {i}: " ++ indented "       " cause ++ "\n" ++ numbered (i + 1) causes

/-- The failure as a user sees it; several causes are numbered. -/
def display (f : Failure) : String :=
  "Error: " ++ f.message ++ "\n" ++
    (match f.causes with
      | [] => ""
      | [cause] => "\nCaused by:\n    " ++ indented "    " cause ++ "\n"
      | causes => "\nCaused by:\n" ++ numbered 0 causes)

end Failure

structure Outcome where
  exit : Nat
  output : String
  errors : String
  fs : FileSystem

namespace Command

/-! ## Edits -/

/-- A change of a module's items, with the number of changes. -/
abbrev Edit := List Item → List Item × Nat

/-- Takes names out, and counts a declaration that goes as a change of its own. -/
def removeEdit (module : String) (names : List String) : Edit := fun items =>
  let (left, removed) := Imports.remove module names items
  (left, removed + (items.length - left.length))

/-- Edits one file: the files after it and what is printed. A file that is to be written is written
only when something has changed. -/
def editFile (options : ParseOptions) (edit : Edit) (write header : Bool) (fs : FileSystem)
    (file : Path) : Except Failure (FileSystem × String) :=
  match Document.read fs file options with
  | .error e => .error (.within s!"Failed to read {file.spelling}" e)
  | .ok document =>
    let (items, changes) := edit document.items
    let document := document.setItems items
    if write then
      if changes == 0 then .ok (fs, "")
      else
        match (document.write fs).1 with
        | .ok fs => .ok (fs, s!"updated {file.spelling} ({changes} change(s))\n")
        | .error e => .error (.within s!"Failed to write {file.spelling}" e)
    else
      let title := if header then s!"// ==> {file.spelling} <==\n" else ""
      .ok (fs, title ++ document.emit.1)

/-- Edits files in order, up to the first one that fails. -/
def editFiles (options : ParseOptions) (edit : Edit) (write header : Bool) :
    FileSystem → List Path → FileSystem × String × Option Failure
  | fs, [] => (fs, "", none)
  | fs, file :: files =>
    match editFile options edit write header fs file with
    | .error failure => (fs, "", some failure)
    | .ok (fs, text) =>
      let (fs, more, failure) := editFiles options edit write header fs files
      (fs, text ++ more, failure)

def fail (fs : FileSystem) (output : String) (failure : Failure) : Outcome :=
  ⟨1, output, failure.display, fs⟩

def runEdit (options : ParseOptions) (target : EditTarget) (edit : Edit) (fs : FileSystem) :
    Outcome :=
  let header := !target.write && target.files.length > 1
  match editFiles options edit target.write header fs target.files with
  | (fs, output, none) => ⟨0, output, "", fs⟩
  | (fs, output, some failure) => fail fs output failure

/-! ## Listings -/

/-- The project at a path: a single file, or all files below a directory. -/
def projectAt (config : Config) (fs : FileSystem) (path : Path) : Except Failure Project :=
  if fs.isFile path then
    match Document.read fs path config.parser with
    | .ok document => .ok (Project.empty.add document)
    | .error e => .error (.ofError e)
  else
    match Project.load fs path config.project config.parser with
    | .ok project => .ok project
    | .error e => .error (.within s!"Failed to load project at {path.spelling}" e)

def runClasses (config : Config) (kind : Option DecoratorKind) (path : Path) (format : ListFormat)
    (fs : FileSystem) : Outcome :=
  match projectAt config fs path with
  | .error failure => fail fs "" failure
  | .ok project =>
    let listing := Listing.ofProject project kind
    match format with
    | .json => ⟨0, listing.data.json ++ "\n", "", fs⟩
    | .text => ⟨0, listing.lines, listing.skippedLines, fs⟩

/-! ## Commands -/

def run (config : Config) (fs : FileSystem) : Command → Outcome
  | .classes kind path format => runClasses config kind path format fs
  | .addImport target names =>
    runEdit config.parser target (Imports.apply ⟨names, target.module⟩) fs
  | .removeImport target names =>
    runEdit config.parser target (removeEdit target.module names) fs
  | .pruneImports target => runEdit config.parser target (Imports.prune target.module) fs

end Command

def versionLine : String := "ngmill 0.1.0\n"

def runCommandLine (args : List String) (environment : List (String × String)) (fs : FileSystem) :
    Outcome :=
  match Arguments.parse args with
  | .misuse => ⟨2, "", "", fs⟩
  | .help topic => ⟨0, topic.text, "", fs⟩
  | .version => ⟨0, versionLine, "", fs⟩
  | .run command =>
    match Config.load fs ⟨"."⟩ environment with
    | .error e => Command.fail fs "" (.within "Failed to load configuration" e)
    | .ok config => command.run config fs

end Codemod
