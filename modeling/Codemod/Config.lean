import Codemod.Data.Toml
import Codemod.Document
import Codemod.Files.System

/-!
# Configuration

A configuration has three sections. It is put together from layers: the defaults, a file in the
project's directory and the environment, of which a later one replaces single settings of an earlier
one. What comes out is checked before it is used.
-/
namespace Codemod

inductive LogFormat
  | pretty
  | json
deriving DecidableEq, Repr

namespace LogFormat

def name : LogFormat → String
  | .pretty => "pretty"
  | .json => "json"

def ofName? (name : String) : Option LogFormat := [pretty, json].find? (·.name == name)

def data (f : LogFormat) : Data := .string f.name

def ofData? (d : Data) : Option LogFormat := d.choice? ofName?

end LogFormat

structure LogConfig where
  level : String
  format : LogFormat
deriving DecidableEq, Repr

structure ProjectConfig where
  /-- Extensions without their dot. -/
  extensions : List String
  /-- Glob patterns for paths below the project's directory. -/
  exclude : List String
deriving DecidableEq, Repr

structure Config where
  logging : LogConfig
  parser : ParseOptions
  project : ProjectConfig
deriving DecidableEq, Repr

/-! ## Sections as data -/

namespace LogConfig

def default : LogConfig := ⟨"warn", .pretty⟩

def data (c : LogConfig) : Data := .record [("level", .string c.level), ("format", c.format.data)]

def ofData? (d : Data) : Option LogConfig := do
  match ← d.fields? ["level", "format"] 2 with
  | [some level, some format] => return ⟨← level.string?, ← LogFormat.ofData? format⟩
  | _ => none

end LogConfig

namespace ParseOptions

def data (o : ParseOptions) : Data :=
  .record [("decorators", .bool o.decorators), ("tsx", Data.ofOption .bool o.tsx)]

def ofData? (d : Data) : Option ParseOptions := do
  match ← d.fields? ["decorators", "tsx"] 2 with
  | [some decorators, tsx] => return ⟨← decorators.bool?, ← Data.optional? Data.bool? tsx⟩
  | _ => none

end ParseOptions

namespace ProjectConfig

def default : ProjectConfig :=
  ⟨["ts", "tsx"], ["**/node_modules/**", "**/dist/**", "**/*.d.ts"]⟩

def data (c : ProjectConfig) : Data :=
  .record [("extensions", Data.ofStrings c.extensions), ("exclude", Data.ofStrings c.exclude)]

def ofData? (d : Data) : Option ProjectConfig := do
  match ← d.fields? ["extensions", "exclude"] 2 with
  | [some extensions, some exclude] => return ⟨← extensions.strings?, ← exclude.strings?⟩
  | _ => none

end ProjectConfig

namespace Config

def default : Config := ⟨.default, .default, .default⟩

def data (c : Config) : Data :=
  .record [("logging", c.logging.data), ("parser", c.parser.data), ("project", c.project.data)]

/-- A section, or its default where it is missing. -/
def section? (default : α) (read : Data → Option α) : Option Data → Option α
  | some d => read d
  | none => some default

def ofData? (d : Data) : Option Config := do
  match ← d.fields? ["logging", "parser", "project"] 0 with
  | [logging, parser, project] =>
    return ⟨← section? .default LogConfig.ofData? logging,
      ← section? .default ParseOptions.ofData? parser,
      ← section? .default ProjectConfig.ofData? project⟩
  | _ => none

/-! ## Checks -/

def levels : List String := ["trace", "debug", "info", "warn", "error"]

/-- Is the text an extension without its dot? -/
def isBareExtension (extension : String) : Bool := extension != "" && !extension.startsWith "."

/-- The first thing that is wrong with a configuration. -/
def validate (c : Config) : Except Error Unit :=
  if !levels.contains c.logging.level then
    .error (.config (s!"Invalid log level '{c.logging.level}', must be one of: " ++
      String.intercalate ", " levels))
  else if c.project.extensions.isEmpty then
    .error (.config "At least one project file extension must be configured")
  else
    match c.project.extensions.find? (!isBareExtension ·) with
    | some extension =>
      .error (.config (s!"Invalid extension '{extension}', use the bare extension (e.g. \"ts\")"))
    | none => .ok ()

/-! ## Layers -/

/-- Where a project's settings may be; the first that exists counts. -/
def fileNames : List String := ["ngmill.toml", ".ngmill/config.toml"]

/-- What the names of variables with settings start with, in small letters. -/
def variableStart : String := "ngmill__"

/-- The data of a project's file of settings, nothing when there is none. Where a directory has its
path, the file is searched for under this path in the directories above the working one. -/
def fileLayer (fs : FileSystem) (root : Path) : Option Data :=
  match (fileNames.map root.child).find? fs.exists? with
  | none => some (.record [])
  | some path =>
    match fs.upwards.find? (·.isFile path) with
    | none => some (.record [])
    | some place =>
      match place.readText path with
      | .ok text => Data.Toml.parse text
      | .error _ => none

/-- The parts of a text between double underscores or dots. -/
def keyParts : List Char → List (List Char)
  | [] => [[]]
  | '_' :: '_' :: r => [] :: keyParts r
  | c :: r =>
    if c == '.' then [] :: keyParts r
    else
      match keyParts r with
      | first :: others => (c :: first) :: others
      | [] => [[c]]

/-- The keys that a variable's name leads to; case does not matter. -/
def variableKeys? (name : String) : Option (List String) :=
  let name := name.map Char.toLower
  if name.startsWith variableStart then
    let parts := keyParts (Text.trim (name.toList.drop variableStart.length))
    if parts.any List.isEmpty then none else some (parts.map String.ofList)
  else none

def environmentLayer (environment : List (String × String)) : Data :=
  environment.foldl (fun d (name, value) =>
    match variableKeys? name with
    | some keys => d.merge (Data.nest keys (Data.Inline.ofText value))
    | none => d) (.record [])

/-- A section without the items that stand after its fields when it is written as a list. -/
def trimSection : Data → Data
  | .list items => .list (items.take 2)
  | d => d

/-- The layers' data with each section trimmed. -/
def trim : Data → Data
  | .record entries => .record (entries.map fun (key, d) => (key, trimSection d))
  | d => d

def load (fs : FileSystem) (root : Path) (environment : List (String × String)) :
    Except Error Config :=
  let failure : Error := .config "Failed to load configuration: invalid settings"
  match fileLayer fs root with
  | none => .error failure
  | some file =>
    let layers := (Config.default.data.merge file).merge (environmentLayer environment)
    match ofData? (trim layers) with
    | none => .error failure
    | some config => do
      config.validate
      return config

end Config

/-! ## Logging -/

/-- Why the log cannot be set up a second time. -/
def logInstalled : Error :=
  .config ("Cannot install log subscriber: " ++
    "a global default trace dispatcher has already been set")

end Codemod
