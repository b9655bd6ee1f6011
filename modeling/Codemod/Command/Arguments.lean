import Codemod.Command.Help
import Codemod.Decorator
import Codemod.Path

/-!
# Command lines

What the arguments of a command line ask for. Options are written `--name value` or `--name=value`,
before or after the other arguments; after `--` nothing is an option. Help is given only where
nothing before the request for it is wrong.
-/
namespace Codemod

inductive ListFormat
  | text
  | json
deriving DecidableEq, Repr

structure EditTarget where
  module : String
  /-- Write the files instead of printing them. -/
  write : Bool
  files : List Path
deriving DecidableEq, Repr

inductive Command
  | classes (kind : Option DecoratorKind) (path : Path) (format : ListFormat)
  | addImport (target : EditTarget) (names : List String)
  | removeImport (target : EditTarget) (names : List String)
  | pruneImports (target : EditTarget)
deriving DecidableEq, Repr

inductive Invocation
  | run (command : Command)
  | version
  | help (topic : Help.Topic)
  | misuse
deriving DecidableEq, Repr

namespace Arguments

structure Options where
  /-- Options with a value, at most once. -/
  single : List String
  /-- Options with a value, any number of times. -/
  repeated : List String
  /-- Options without a value, at most once. -/
  flags : List String

/-- The arguments that are given: options with their values in order, flags, and all others. -/
structure Given where
  values : List (String × String)
  flags : List String
  others : List String

namespace Given

def empty : Given := ⟨[], [], []⟩

def value? (name : String) (g : Given) : Option String := g.values.lookup name

/-- The values of an option in order. -/
def all (name : String) (g : Given) : List String :=
  (g.values.filter (·.1 == name)).map (·.2)

end Given

inductive Stop
  /-- Help is asked for, after some other arguments. -/
  | help (before : Given)
  | misuse

/-- Is it written like an option? A dash alone is not. -/
def isOptionLike (arg : String) : Bool := arg.startsWith "-" && arg != "-"

/-- The name and the value of `--name=value`. -/
def splitOption (arg : String) : String × Option String :=
  let (name, rest) := (arg.toList.drop 2).span (· != '=')
  (String.ofList name, rest.head?.map fun _ => String.ofList (rest.drop 1))

/-- Adds the value of an option, which may be given once unless it is a repeated one. -/
def addValue (o : Options) (name value : String) (g : Given) : Except Stop Given :=
  if (g.value? name).isSome && !o.repeated.contains name then .error .misuse
  else .ok { g with values := g.values ++ [(name, value)] }

/-- Adds a flag, which may be given once. -/
def addFlag (name : String) (g : Given) : Except Stop Given :=
  if g.flags.contains name then .error .misuse else .ok { g with flags := g.flags ++ [name] }

/-- Reads arguments after those that are given already. -/
def read (o : Options) (g : Given) : List String → Except Stop Given
  | [] => .ok g
  | arg :: rest =>
    if arg == "--" then .ok { g with others := g.others ++ rest }
    else if arg.startsWith "--" then
      let (name, value) := splitOption arg
      if name == "help" && value.isNone then .error (.help g)
      else if o.flags.contains name && value.isNone then
        match addFlag name g with
        | .ok g => read o g rest
        | .error stop => .error stop
      else if o.single.contains name || o.repeated.contains name then
        match value, rest with
        | some value, rest =>
          match addValue o name value g with
          | .ok g => read o g rest
          | .error stop => .error stop
        | none, value :: rest =>
          if isOptionLike value then .error .misuse
          else
            match addValue o name value g with
            | .ok g => read o g rest
            | .error stop => .error stop
        | none, [] => .error .misuse
      else .error .misuse
    else if isOptionLike arg then .error (if arg.startsWith "-h" then .help g else .misuse)
    else read o { g with others := g.others ++ [arg] } rest

/-! ## Commands -/

/-- A path, which is not empty. -/
def path? (arg : String) : Option Path := if arg.isEmpty then none else some ⟨arg⟩

def format? (text : String) : Option ListFormat :=
  if text == "text" then some .text else if text == "json" then some .json else none

/-- A value that may be missing but not wrong. -/
def optional? (read : String → Option α) : Option String → Option (Option α)
  | none => some none
  | some text => (read text).map some

def classes? (g : Given) : Option Command := do
  let kind ← optional? (fun text => (DecoratorKind.parse text).toOption) (g.value? "kind")
  let format ← optional? format? (g.value? "format")
  let path ← match g.others with
    | [] => some ⟨"."⟩
    | [path] => path? path
    | _ => none
  return .classes kind path (format.getD .text)

def target? (g : Given) : Option EditTarget := do
  let module ← g.value? "module"
  let files ← g.others.mapM path?
  if files.isEmpty then none
  else some ⟨module, g.flags.contains "write", files⟩

/-- The names of all `--names` options, which commas separate. -/
def names? (g : Given) : Option (List String) :=
  match g.all "names" with
  | [] => none
  | values => some (values.flatMap fun value => value.splitOn ",")

def hasPaths (g : Given) : Bool := g.others.all fun arg => (path? arg).isSome

/-- The command that arguments make, where help is on the topic if what stands before it is
`sound`. -/
def command (topic : Help.Topic) (options : Options) (sound : Given → Bool)
    (make : Given → Option Command) (args : List String) : Invocation :=
  match read options .empty args with
  | .error (.help given) => if sound given then .help topic else .misuse
  | .error .misuse => .misuse
  | .ok given =>
    match make given with
    | some command => .run command
    | none => .misuse

def editWithNames (make : EditTarget → List String → Command) (g : Given) : Option Command := do
  return make (← target? g) (← names? g)

def help : List String → Invocation
  | [] => .help .program
  | name :: rest =>
    match Help.Topic.ofCommand? name, rest with
    | some topic, [] => .help topic
    | _, _ => .misuse

def parse : List String → Invocation
  | "classes" :: args =>
    command .classes ⟨["kind", "format"], [], []⟩ (fun g => (classes? g).isSome) classes? args
  | "add-import" :: args =>
    command .addImport ⟨["module"], ["names"], ["write"]⟩ hasPaths (editWithNames .addImport) args
  | "remove-import" :: args =>
    command .removeImport ⟨["module"], ["names"], ["write"]⟩ hasPaths
      (editWithNames .removeImport) args
  | "prune-imports" :: args =>
    command .pruneImports ⟨["module"], [], ["write"]⟩ hasPaths
      (fun g => (target? g).map .pruneImports) args
  | "--version" :: _ => .version
  | "--help" :: _ => .help .program
  | "help" :: args => help args
  | arg :: _ =>
    if arg.startsWith "-V" then .version
    else if arg.startsWith "-h" then .help .program
    else .misuse
  | [] => .misuse

end Arguments

end Codemod
