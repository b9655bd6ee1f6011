import Codemod.Command.Run

/-!
# The program

Reads the files that a command line may need, runs it and carries out what has come of it.
-/
namespace Codemod

def Command.paths : Command → List Path
  | .classes _ path _ => [path]
  | .addImport target _ => target.files
  | .removeImport target _ => target.files
  | .pruneImports target => target.files

/-- A spelling for names, from the working directory where they lie below it. -/
def spell (here names : List String) : String :=
  if names == here then "."
  else if here.isPrefixOf names then String.intercalate "/" (names.drop here.length)
  else "/" ++ String.intercalate "/" names

/-- What the system knows of a path; links are followed only on demand. -/
def metadata? (path : String) (follow : Bool) : IO (Option IO.FS.FileType) := do
  let place := (IO.FS.DirEntry.mk path "").root
  try
    return some (← if follow then place.metadata else place.symlinkMetadata).type
  catch _ => return none

def readFile (path : String) : IO Tree := do
  try
    return .file (.ok (← IO.FS.readBinFile path))
  catch _ => return .file (.error .denied)

/-- A directory with all below it, save what hidden directories hold and what is neither a file nor
a directory. An entry that the system says nothing about counts as a file that cannot be read. -/
partial def readTree (here names : List String) : IO Tree := do
  let mut entries := []
  for entry in ← (IO.FS.DirEntry.mk (spell here names) "").root.readDir do
    let below := names ++ [entry.fileName]
    match ← metadata? (spell here below) false with
    | some .dir =>
      let tree ← if Project.hiddenDirs.contains entry.fileName then pure (.dir [])
        else readTree here below
      entries := entries ++ [(entry.fileName, tree)]
    | some .file => entries := entries ++ [(entry.fileName, ← readFile (spell here below))]
    | some _ => pure ()
    | none => entries := entries ++ [(entry.fileName, .file (.error .denied))]
  return .dir entries

/-- Adds what stands at some names, unless it is there. Of a directory only the place is added. -/
def addPlace (here names : List String) (tree : Tree) : IO Tree := do
  if (tree.get? names).isSome then return tree
  match ← metadata? (spell here names) true with
  | some .dir => return Tree.put (.dir []) names tree
  | some _ => return Tree.put (← readFile (spell here names)) names tree
  | none => return tree

/-- The names that each part of a path leads to, the last one first. -/
def places (here : List String) (path : Path) : List (List String) :=
  let start := if path.isAbsolute then [] else here
  (Path.segments path.spelling.toList).foldl (fun places segment =>
    let names := places.headD start
    let name := String.ofList segment
    if name == "" || name == "." then names :: places
    else if name == ".." then names.dropLast :: places
    else (names ++ [name]) :: places) []

/-- Adds what a path leads through and what stands at its end. -/
def addPath (here : List String) (tree : Tree) (path : Path) : IO Tree :=
  (places here path).reverse.foldlM (fun tree names => addPlace here names tree) tree

/-- All that a project at a path may hold. -/
def readProject (here : List String) (path : Path) : IO Tree := do
  let names := (places here path).headD here
  match ← metadata? (spell here names) true with
  | some .dir => return Tree.put (← readTree here names) names (.dir [])
  | _ => return .dir []

/-- The paths of the settings, from the working directory up. -/
def settingsPaths (here : List String) : List Path :=
  (List.range (here.length + 1)).flatMap fun n =>
    Config.fileNames.map fun name => ⟨"/" ++ String.intercalate "/" (here.take n ++ [name])⟩

/-- The part of the file system that a command line may need. -/
def readNeeded (args : List String) : IO FileSystem := do
  let here := ((← IO.currentDir).toString.splitOn "/").filter (· != "")
  match Arguments.parse args with
  | .run command =>
    let tree ← match command with
      | .classes _ path _ => readProject here path
      | _ => pure (.dir [])
    return ⟨← (settingsPaths here ++ command.paths).foldlM (addPath here) tree, here⟩
  | _ => return ⟨.dir [], here⟩

/-- The variables of the environment, where the system lists them. -/
def readEnvironment : IO (List (String × String)) := do
  try
    let bytes ← IO.FS.readBinFile "/proc/self/environ"
    let lines := bytes.toList.splitBy fun _ b => b != 0
    return lines.filterMap fun line => do
      let text ← (Utf8.decode (line.filter (· != 0))).toOption
      let (name, value) := text.toList.span (· != '=')
      if value.isEmpty then none
      else some (String.ofList name, String.ofList (value.drop 1))
  catch _ => return []

end Codemod

open Codemod

/-- Runs the command line and gives its exit code. -/
def main (args : List String) : IO UInt32 := do
  let fs ← readNeeded args
  let outcome := runCommandLine args (← readEnvironment) fs
  for (names, content) in fs.tree.changed outcome.fs.tree do
    IO.FS.writeBinFile (spell fs.here names) content
  IO.print outcome.output
  IO.eprint outcome.errors
  return UInt32.ofNat outcome.exit
