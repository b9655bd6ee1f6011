/-!
# Help

What the program says about itself. Terms stand in a column as wide as the longest of them.
-/
namespace Codemod.Help

inductive Topic
  | program
  | classes
  | addImport
  | removeImport
  | pruneImports
deriving DecidableEq, Repr

structure Entry where
  term : String
  meaning : String

structure Group where
  heading : String
  entries : List Entry

structure Sheet where
  about : String
  usage : String
  groups : List Group

/-- The text, filled with blanks up to a width. -/
def padded (width : Nat) (text : String) : String :=
  text ++ String.ofList (List.replicate (width - text.length) ' ')

def Group.text (g : Group) : String :=
  let width := (g.entries.map (·.term.length)).foldl max 0
  let line (e : Entry) : String := "  " ++ padded width e.term ++ "  " ++ e.meaning ++ "\n"
  "\n" ++ g.heading ++ ":\n" ++ String.join (g.entries.map line)

def Sheet.text (s : Sheet) : String :=
  s.about ++ "\n\nUsage: " ++ s.usage ++ "\n" ++ String.join (s.groups.map Group.text)

/-! ## Topics -/

def Topic.about : Topic → String
  | .program => "Angular-aware import and decorator codemods for TypeScript sources"
  | .classes => "List Angular classes (components, directives, pipes, injectables, modules)"
  | .addImport => "Ensure named imports exist in each file"
  | .removeImport => "Remove named imports, dropping declarations left without named imports"
  | .pruneImports => "Remove named imports of a module that are never referenced"

def helpOption : Entry := ⟨"-h, --help", "Print help"⟩

def versionOption : Entry := ⟨"-V, --version", "Print version"⟩

def commands : Group :=
  ⟨"Commands",
    [⟨"classes", Topic.classes.about⟩,
     ⟨"add-import", Topic.addImport.about⟩,
     ⟨"remove-import", Topic.removeImport.about⟩,
     ⟨"prune-imports", Topic.pruneImports.about⟩,
     ⟨"help", "Print this message or the help of the given subcommand(s)"⟩]⟩

def editOptions : List Entry :=
  [⟨"    --module <MODULE>", "Module specifier, as written in the import (e.g. \"@angular/core\")"⟩,
   ⟨"    --write", "Write changes back to the files instead of printing them"⟩]

/-- The help on an edit, given what it says of the names it takes. -/
def editSheet (topic : Topic) (command names : String) : Sheet :=
  let named := names != ""
  { about := topic.about
    usage := "ngmill " ++ command ++ " [OPTIONS] --module <MODULE> " ++
      (if named then "--names <NAMES> " else "") ++ "<FILES>..."
    groups :=
      [⟨"Arguments", [⟨"<FILES>...", "Files to edit"⟩]⟩,
       ⟨"Options", editOptions ++ (if named then [⟨"    --names <NAMES>", names⟩] else []) ++
        [helpOption]⟩] }

def Topic.sheet : Topic → Sheet
  | .program =>
    { about := Topic.program.about
      usage := "ngmill <COMMAND>"
      groups := [commands, ⟨"Options", [helpOption, versionOption]⟩] }
  | .classes =>
    { about := Topic.classes.about
      usage := "ngmill classes [OPTIONS] [PATH]"
      groups :=
        [⟨"Arguments", [⟨"[PATH]", "File or project directory to scan [default: .]"⟩]⟩,
         ⟨"Options",
           [⟨"    --kind <KIND>",
              "Only list classes carrying this decorator (e.g. \"component\", \"NgModule\")"⟩,
            ⟨"    --format <FORMAT>",
              "Output format (text or json) [default: text] [possible values: text, json]"⟩,
            helpOption]⟩] }
  | .addImport => editSheet .addImport "add-import" "Names to import, comma separated"
  | .removeImport => editSheet .removeImport "remove-import" "Names to remove, comma separated"
  | .pruneImports => editSheet .pruneImports "prune-imports" ""

def Topic.text (t : Topic) : String := t.sheet.text

def Topic.ofCommand? : String → Option Topic
  | "classes" => some .classes
  | "add-import" => some .addImport
  | "remove-import" => some .removeImport
  | "prune-imports" => some .pruneImports
  | _ => none

end Codemod.Help
