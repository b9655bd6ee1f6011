import Codemod.Proofs.Config.Checks
import Codemod.Proofs.Data.Forms
import Codemod.Proofs.Data.Records

/-!
# Configuration leaf by leaf

A configuration has six leaves, two in each of its three sections. Loading merges whole trees of
data: the defaults, the file of settings and the environment, variable by variable. What comes of it
can be said leaf by leaf: a leaf has the value that the highest layer gives it. This holds for
layers that *fit*, that is, give the leaves that they mention values of their types; what else they
hold does not matter.

The step is `given?_merge`: one layer over another. It gives the environment, which is a run of such
steps (`given?_environment`), and then the three layers together.

Results:
* `Fits.merge`, `given?_merge`: a layer over another one.
* `given?_environment`: the environment gives what its last variable for a leaf gives.
* `ofData?_of_leaves`: data that gives all leaves is a configuration.
* `fileLayer_of_chosen`: which file counts.
* `load_leafwise`: what loading comes to.
-/
namespace Codemod.Config

/-! ## Leaves -/

/-- A single setting. -/
inductive Leaf
  | level
  | format
  | decorators
  | tsx
  | extensions
  | exclude
deriving DecidableEq, Repr

namespace Leaf

def all : List Leaf := [.level, .format, .decorators, .tsx, .extensions, .exclude]

theorem mem_all (l : Leaf) : l ∈ all := by cases l <;> decide

def sectionName : Leaf → String
  | .level => "logging"
  | .format => "logging"
  | .decorators => "parser"
  | .tsx => "parser"
  | .extensions => "project"
  | .exclude => "project"

def key : Leaf → String
  | .level => "level"
  | .format => "format"
  | .decorators => "decorators"
  | .tsx => "tsx"
  | .extensions => "extensions"
  | .exclude => "exclude"

abbrev Value : Leaf → Type
  | .level => String
  | .format => LogFormat
  | .decorators => Bool
  | .tsx => Option Bool
  | .extensions => List String
  | .exclude => List String

def get : (l : Leaf) → Config → l.Value
  | .level => fun c => c.logging.level
  | .format => fun c => c.logging.format
  | .decorators => fun c => c.parser.decorators
  | .tsx => fun c => c.parser.tsx
  | .extensions => fun c => c.project.extensions
  | .exclude => fun c => c.project.exclude

def read : (l : Leaf) → Data → Option l.Value
  | .level => Data.string?
  | .format => fun d => d.string?.bind LogFormat.ofName?
  | .decorators => Data.bool?
  | .tsx => fun d => Data.optional? Data.bool? (some d)
  | .extensions => Data.strings?
  | .exclude => Data.strings?

def write : (l : Leaf) → l.Value → Data
  | .level => .string
  | .format => LogFormat.data
  | .decorators => .bool
  | .tsx => Data.ofOption .bool
  | .extensions => Data.ofStrings
  | .exclude => Data.ofStrings

theorem read_eq_some_iff {l : Leaf} {d : Data} {x : l.Value} :
    l.read d = some x ↔ d = l.write x := by
  cases l with
  | level => exact Data.string?_eq_some_iff
  | format => simp [read, write, LogFormat.data, Option.bind_eq_some_iff, Data.string?_eq_some_iff,
      LogFormat.ofName?_eq_some_iff]
  | decorators => exact Data.bool?_eq_some_iff
  | tsx => exact Data.optional_bool?_eq_some_iff.trans Data.isOptional_some_iff
  | extensions => exact Data.strings?_eq_some_iff
  | exclude => exact Data.strings?_eq_some_iff

/-- What a layer has in the place of a leaf. -/
def place? (l : Leaf) (d : Data) : Option Data := (d.get? l.sectionName).bind (Data.get? l.key)

def given? (l : Leaf) (d : Data) : Option l.Value := (l.place? d).bind l.read

end Leaf

def ofLeaves (value : (l : Leaf) → l.Value) : Config :=
  ⟨⟨value .level, value .format⟩, ⟨value .decorators, value .tsx⟩,
    ⟨value .extensions, value .exclude⟩⟩

theorem get_ofLeaves (value : (l : Leaf) → l.Value) (l : Leaf) :
    l.get (ofLeaves value) = value l := by
  cases l <;> rfl

/-- A configuration is its leaves. -/
theorem ext_leaves {c c' : Config} (h : ∀ l : Leaf, l.get c = l.get c') : c = c' := by
  obtain ⟨⟨level, format⟩, ⟨decorators, tsx⟩, ⟨extensions, exclude⟩⟩ := c
  obtain ⟨⟨level', format'⟩, ⟨decorators', tsx'⟩, ⟨extensions', exclude'⟩⟩ := c'
  obtain rfl : level = level' := h .level
  obtain rfl : format = format' := h .format
  obtain rfl : decorators = decorators' := h .decorators
  obtain rfl : tsx = tsx' := h .tsx
  obtain rfl : extensions = extensions' := h .extensions
  obtain rfl : exclude = exclude' := h .exclude
  rfl

/-! ## Layers that fit -/

/-- A layer in which every section is a record, and every leaf that it mentions has a value of the
leaf's type. It may hold anything else besides. -/
structure Fits (d : Data) : Prop where
  isRecord : d.isRecord = true
  isRecord_section : ∀ (l : Leaf) (part : Data), d.get? l.sectionName = some part →
    part.isRecord = true
  isSome_read : ∀ (l : Leaf) (value : Data), l.place? d = some value → (l.read value).isSome = true

instance (d : Data) : Decidable (Fits d) :=
  decidable_of_iff (d.isRecord = true ∧ ∀ l ∈ Leaf.all,
      (∀ part ∈ d.get? l.sectionName, part.isRecord = true) ∧
        ∀ value ∈ l.place? d, (l.read value).isSome = true)
    ⟨fun h => ⟨h.1, fun l => (h.2 l l.mem_all).1, fun l => (h.2 l l.mem_all).2⟩,
      fun h => ⟨h.isRecord, fun l _ => ⟨h.isRecord_section l, h.isSome_read l⟩⟩⟩

/-- A value of a leaf is no record. -/
theorem Leaf.isRecord_eq_false {l : Leaf} {d : Data} (h : (l.read d).isSome = true) :
    d.isRecord = false := by
  cases d with
  | record entries => cases l <;> cases h
  | _ => rfl

/-- Where both layers mention a leaf, the upper one counts, and otherwise the one that does. -/
theorem Leaf.place?_merge {lower upper : Data} (hlower : Fits lower) (hupper : Fits upper)
    (l : Leaf) : l.place? (lower.merge upper) = (l.place? upper).or (l.place? lower) := by
  have hread := hupper.isSome_read l
  unfold place? at hread ⊢
  rw [Data.get?_merge hlower.isRecord hupper.isRecord]
  cases hlow : lower.get? l.sectionName with
  | none => cases upper.get? l.sectionName <;> simp
  | some low =>
    cases hup : upper.get? l.sectionName with
    | none => simp
    | some up =>
      rw [hup, Option.bind_some] at hread
      have hmerge := Data.get?_merge (hlower.isRecord_section l low hlow)
        (hupper.isRecord_section l up hup) l.key
      simp only [Option.merge_some_some, Option.bind_some, hmerge]
      cases hvalue : up.get? l.key with
      | none => cases low.get? l.key <;> rfl
      | some value =>
        -- a value of the leaf is no record, so nothing of the lower layer is merged into it
        have hreplace := Data.merge_eq_upper (isRecord_eq_false (hread value hvalue))
        cases low.get? l.key <;> simp [hreplace]

theorem Fits.merge {lower upper : Data} (hlower : Fits lower) (hupper : Fits upper) :
    Fits (lower.merge upper) := by
  refine ⟨Data.isRecord_merge hlower.isRecord hupper.isRecord, fun l part hpart => ?_,
    fun l value hvalue => ?_⟩
  · rw [Data.get?_merge hlower.isRecord hupper.isRecord] at hpart
    cases hlow : lower.get? l.sectionName with
    | none =>
      rw [hlow, Option.merge_none_left] at hpart
      exact hupper.isRecord_section l part hpart
    | some low =>
      have hlowRecord := hlower.isRecord_section l low hlow
      cases hup : upper.get? l.sectionName with
      | none =>
        rw [hlow, hup] at hpart
        cases hpart
        exact hlowRecord
      | some up =>
        rw [hlow, hup] at hpart
        cases hpart
        exact Data.isRecord_merge hlowRecord (hupper.isRecord_section l up hup)
  · rw [l.place?_merge hlower hupper, Option.or_eq_some_iff] at hvalue
    obtain hup | ⟨-, hlow⟩ := hvalue
    · exact hupper.isSome_read l value hup
    · exact hlower.isSome_read l value hlow

/-- A layer over another one gives a leaf its own value, or the one of the layer below. -/
theorem Leaf.given?_merge {lower upper : Data} (hlower : Fits lower) (hupper : Fits upper)
    (l : Leaf) : l.given? (lower.merge upper) = (l.given? upper).or (l.given? lower) := by
  rw [given?, place?_merge hlower hupper, given?, given?]
  cases hup : l.place? upper with
  | none => simp
  | some value =>
    obtain ⟨x, hx⟩ := Option.isSome_iff_exists.1 (hupper.isSome_read l value hup)
    simp [hx]

/-! ## The environment -/

/-- The layer of a single variable, when its name leads somewhere. -/
def variableLayer? : String × String → Option Data
  | (name, value) => (variableKeys? name).map fun keys =>
    Data.nest keys (Data.Inline.ofText value)

def variableLayers (environment : List (String × String)) : List Data :=
  environment.filterMap variableLayer?

/-- The value that the variables give a leaf; of several that do the last counts. -/
def Leaf.fromEnvironment (l : Leaf) (environment : List (String × String)) : Option l.Value :=
  (variableLayers environment).reverse.findSome? l.given?

/-- The environment is read variable by variable. -/
theorem environmentLayer_eq (environment : List (String × String)) :
    environmentLayer environment = (variableLayers environment).foldl Data.merge (.record []) := by
  rw [environmentLayer, variableLayers]
  generalize Data.record [] = start
  induction environment generalizing start with
  | nil => rfl
  | cons e environment ih =>
    obtain ⟨name, value⟩ := e
    cases hkeys : variableKeys? name with
    | none => simp [hkeys, variableLayer?, ih]
    | some keys => simp [hkeys, variableLayer?, ih]

theorem fits_empty : Fits (.record []) := ⟨rfl, nofun, nofun⟩

theorem given?_foldl {layers : List Data} (h : ∀ d ∈ layers, Fits d) {start : Data}
    (hstart : Fits start) :
    Fits (layers.foldl Data.merge start) ∧
      ∀ l : Leaf, l.given? (layers.foldl Data.merge start) =
        (layers.reverse.findSome? l.given?).or (l.given? start) := by
  induction layers generalizing start with
  | nil => exact ⟨hstart, fun l => by simp⟩
  | cons d layers ih =>
    obtain ⟨hd, hlayers⟩ := List.forall_mem_cons.1 h
    obtain ⟨hfits, hgiven⟩ := ih hlayers (hstart.merge hd)
    refine ⟨hfits, fun l => ?_⟩
    rw [List.foldl_cons, hgiven, l.given?_merge hstart hd, List.reverse_cons,
      List.findSome?_append, Option.or_assoc]
    simp

/-- The environment gives a leaf what its last variable for the leaf gives. -/
theorem given?_environment {environment : List (String × String)}
    (h : ∀ d ∈ variableLayers environment, Fits d) :
    Fits (environmentLayer environment) ∧
      ∀ l : Leaf, l.given? (environmentLayer environment) = l.fromEnvironment environment := by
  obtain ⟨hfits, hgiven⟩ := given?_foldl h fits_empty
  rw [environmentLayer_eq]
  refine ⟨hfits, fun l => ?_⟩
  have hnone : l.given? (.record []) = none := rfl
  rw [hgiven, hnone, Option.or_none, Leaf.fromEnvironment]

/-! ## The defaults -/

theorem fits_default : Fits default.data := by
  refine ⟨rfl, ?_, ?_⟩
  · intro l part h
    cases l <;> cases h <;> rfl
  · intro l value h
    cases l <;> cases h <;> rfl

theorem given?_default (l : Leaf) : l.given? default.data = some (l.get default) := by
  cases l <;> rfl

/-! ## Data as a configuration -/

theorem lookup_map_snd (f : Data → Data) (key : String) (entries : List (String × Data)) :
    (entries.map fun (k, d) => (k, f d)).lookup key = (entries.lookup key).map f := by
  induction entries with
  | nil => rfl
  | cons e entries ih =>
    obtain ⟨k, d⟩ := e
    by_cases hk : key = k
    · subst hk
      simp
    · have hne : (key == k) = false := beq_eq_false_iff_ne.2 hk
      simp only [List.map_cons, List.lookup_cons, hne, ih]

/-- Trimming leaves records alone. -/
theorem get?_trim_of_record {d part : Data} {key : String} (h : d.get? key = some part)
    (hrecord : part.isRecord = true) : (trim d).get? key = some part := by
  obtain ⟨entries, rfl⟩ := Data.exists_of_isRecord hrecord
  cases d with
  | record entries =>
    rw [Data.get?_record] at h
    rw [trim, Data.get?_record, lookup_map_snd, h]
    rfl
  | _ => cases h

/-- A layer gives a leaf a value by a section with an entry for it. -/
theorem Leaf.given?_eq_some_iff {l : Leaf} {d : Data} {x : l.Value} :
    l.given? d = some x ↔
      ∃ part, d.get? l.sectionName = some part ∧ part.get? l.key = some (l.write x) := by
  simp only [given?, place?, Option.bind_eq_some_iff, read_eq_some_iff]
  constructor
  · rintro ⟨value, ⟨part, hpart, hvalue⟩, rfl⟩
    exact ⟨part, hpart, hvalue⟩
  · rintro ⟨part, hpart, hvalue⟩
    exact ⟨_, ⟨part, hpart, hvalue⟩, rfl⟩

theorem hasFields_of_get? {d : Data} (hrecord : d.isRecord = true) {keys : List String} {least : Nat}
    {parts : List (Option Data)} (h : (keys.map fun key => d.get? key) = parts) :
    d.HasFields keys least parts := by
  obtain ⟨entries, rfl⟩ := Data.exists_of_isRecord hrecord
  exact h ▸ .record entries

/-- Data that gives all leaves is the configuration with these leaves. -/
theorem ofData?_of_leaves {d : Data} (hfits : Fits d) {value : (l : Leaf) → l.Value}
    (h : ∀ l : Leaf, l.given? d = some (value l)) : ofData? (trim d) = some (ofLeaves value) := by
  -- two leaves are found in the same section
  have hpair : ∀ l l' : Leaf, l.sectionName = l'.sectionName → ∃ part,
      part.isRecord = true ∧ (trim d).get? l.sectionName = some part ∧
        part.get? l.key = some (l.write (value l)) ∧
        part.get? l'.key = some (l'.write (value l')) := by
    intro l l' hsame
    obtain ⟨part, hpart, hvalue⟩ := Leaf.given?_eq_some_iff.1 (h l)
    obtain ⟨part', hpart', hvalue'⟩ := Leaf.given?_eq_some_iff.1 (h l')
    have hrecord := hfits.isRecord_section l part hpart
    rw [← hsame, hpart, Option.some.injEq] at hpart'
    subst hpart'
    exact ⟨part, hrecord, get?_trim_of_record hpart hrecord, hvalue, hvalue'⟩
  obtain ⟨logging, hlogging, hloggingAt, hlevel, hformat⟩ := hpair .level .format rfl
  obtain ⟨parser, hparser, hparserAt, hdecorators, htsx⟩ := hpair .decorators .tsx rfl
  obtain ⟨project, hproject, hprojectAt, hextensions, hexclude⟩ := hpair .extensions .exclude rfl
  have htrim : (trim d).isRecord = true := by
    obtain ⟨entries, rfl⟩ := Data.exists_of_isRecord hfits.isRecord
    rfl
  refine ofData?_eq_some_iff.2 ⟨some logging, some parser, some project, ?_, ?_, ?_, ?_⟩
  · exact hasFields_of_get? htrim
      (congrArg₂ _ hloggingAt (congrArg₂ _ hparserAt (congrArg₂ _ hprojectAt rfl)))
  · exact ⟨_, hasFields_of_get? hlogging (congrArg₂ _ hlevel (congrArg₂ _ hformat rfl)), .inl rfl⟩
  · refine ⟨_, hasFields_of_get? hparser (congrArg₂ _ hdecorators (congrArg₂ _ htsx rfl)), ?_⟩
    exact Data.isOptional_some_iff.2 rfl
  · exact hasFields_of_get? hproject (congrArg₂ _ hextensions (congrArg₂ _ hexclude rfl))

/-! ## The file of settings -/

/-- What a file of settings says. A directory in its place says nothing, unless there is a file
under the same path in a directory above the working one: then the nearest such file counts. -/
inductive Tells (fs : FileSystem) (path : Path) : Data → Prop
  | file {bytes : ByteArray} {text : String} {d : Data}
      (found : fs.resolve path = .ok (.file (.ok bytes))) (spelled : text.toUTF8 = bytes)
      (parsed : Data.Toml.parse text = some d) : Tells fs path d
  | dir {entries : List (String × Tree)} (found : fs.resolve path = .ok (.dir entries))
      (alone : ∀ place ∈ fs.upwards, place.isFile path = false) : Tells fs path (.record [])
  | above {entries : List (String × Tree)} (found : fs.resolve path = .ok (.dir entries))
      {nearer farther : List FileSystem} {place : FileSystem} {bytes : ByteArray} {text : String}
      {d : Data} (places : fs.upwards = nearer ++ place :: farther)
      (nearest : ∀ between ∈ nearer, between.isFile path = false)
      (there : place.resolve path = .ok (.file (.ok bytes))) (spelled : text.toUTF8 = bytes)
      (parsed : Data.Toml.parse text = some d) : Tells fs path d

def Missing (fs : FileSystem) (path : Path) : Prop := ∀ found, fs.resolve path ≠ .ok found

/-- What the file of settings that counts says: the first one if there is something in its place,
else the second one. -/
inductive Chosen (fs : FileSystem) (root : Path) : Data → Prop
  | first {d : Data} (tells : Tells fs (root.child "ngmill.toml") d) : Chosen fs root d
  | second {d : Data} (missing : Missing fs (root.child "ngmill.toml"))
      (tells : Tells fs (root.child ".ngmill/config.toml") d) : Chosen fs root d
  | neither (missing : Missing fs (root.child "ngmill.toml"))
      (missing' : Missing fs (root.child ".ngmill/config.toml")) : Chosen fs root (.record [])

theorem Missing.exists?_eq {fs : FileSystem} {path : Path} (h : Missing fs path) :
    fs.exists? path = false := by
  unfold FileSystem.exists?
  cases hresolve : fs.resolve path with
  | ok found => exact absurd hresolve (h found)
  | error fault => rfl

theorem Tells.exists?_eq {fs : FileSystem} {path : Path} {d : Data} (h : Tells fs path d) :
    fs.exists? path = true := by
  cases h with
  | file found => rw [FileSystem.exists?, found]
  | dir found => rw [FileSystem.exists?, found]
  | above found => rw [FileSystem.exists?, found]

/-- The working directory comes first among those from which a file is searched for. -/
theorem upwards_eq (fs : FileSystem) : ∃ above, fs.upwards = fs :: above := by
  rw [FileSystem.upwards, List.range_succ, List.reverse_append, List.reverse_singleton,
    List.singleton_append, List.map_cons, List.take_length]
  exact ⟨_, rfl⟩

/-- The file that the search ends at is read. -/
theorem fileLayer_of_file {fs place : FileSystem} {root path : Path} {bytes : ByteArray}
    {text : String} {d : Data} (hfind : (fileNames.map root.child).find? fs.exists? = some path)
    (hplace : fs.upwards.find? (·.isFile path) = some place)
    (hfile : place.resolve path = .ok (.file (.ok bytes))) (hspelled : text.toUTF8 = bytes)
    (hparsed : Data.Toml.parse text = some d) : fileLayer fs root = some d := by
  have htext : place.readText path = .ok text := by
    simp only [FileSystem.readText, FileSystem.readBytes, hfile, Bind.bind, Except.bind,
      Utf8.decode_eq_ok_iff.2 hspelled]
  unfold fileLayer
  simp only [hfind, hplace, htext, hparsed]

/-- What is said in the place that is chosen is the layer. -/
theorem fileLayer_of_tells {fs : FileSystem} {root path : Path} {d : Data}
    (hfind : (fileNames.map root.child).find? fs.exists? = some path) (h : Tells fs path d) :
    fileLayer fs root = some d := by
  cases h with
  | file found spelled parsed =>
    obtain ⟨above, habove⟩ := upwards_eq fs
    refine fileLayer_of_file hfind ?_ found spelled parsed
    rw [habove, List.find?_cons_of_pos]
    rw [FileSystem.isFile, found]
  | dir found alone =>
    have hnone : fs.upwards.find? (·.isFile path) = none :=
      List.find?_eq_none.2 fun place hplace => by simp [alone place hplace]
    unfold fileLayer
    simp only [hfind, hnone]
  | @above entries _ nearer farther place bytes text _ places nearest there spelled parsed =>
    refine fileLayer_of_file hfind ?_ there spelled parsed
    refine List.find?_eq_some_iff_append.2 ⟨by rw [FileSystem.isFile, there], nearer, farther,
      places, fun between hbetween => ?_⟩
    rw [nearest between hbetween]
    rfl

theorem fileLayer_of_chosen {fs : FileSystem} {root : Path} {d : Data} (h : Chosen fs root d) :
    fileLayer fs root = some d := by
  cases h with
  | first tells => exact fileLayer_of_tells (by simp [fileNames, tells.exists?_eq]) tells
  | second missing tells =>
    exact fileLayer_of_tells (by simp [fileNames, missing.exists?_eq, tells.exists?_eq]) tells
  | neither missing missing' =>
    have hnone : (fileNames.map root.child).find? fs.exists? = none := by
      simp [fileNames, missing.exists?_eq, missing'.exists?_eq]
    unfold fileLayer
    rw [hnone]

/-! ## All of it -/

/-- The name of the variable for a leaf, in small letters. -/
def Leaf.variableName (l : Leaf) : String := "ngmill__" ++ l.sectionName ++ "__" ++ l.key

/-- A variable with the name of a leaf, in letters of whatever case, is a layer with that leaf
alone. -/
theorem variableLayer?_of_name {l : Leaf} {name : String}
    (h : name.map Char.toLower = l.variableName) (value : String) :
    variableLayer? (name, value) =
      some (Data.nest [l.sectionName, l.key] (Data.Inline.ofText value)) := by
  have hkeys : variableKeys? name = some [l.sectionName, l.key] := by
    unfold variableKeys?
    rw [h]
    cases l <;> decide +kernel
  rw [variableLayer?, hkeys]
  rfl

/-- What the layers come to when the data that is merged is a configuration. -/
theorem load_of_data {fs : FileSystem} {root : Path} {environment : List (String × String)}
    {file : Data} (hfile : fileLayer fs root = some file) {c : Config}
    (hdata : ofData? (trim ((Config.default.data.merge file).merge
      (environmentLayer environment))) = some c) :
    load fs root environment = c.validate.map fun _ => c := by
  unfold load
  rw [hfile]
  simp only [hdata]
  cases c.validate <;> rfl

/-- With layers that fit, the merged data gives every leaf its value from the highest layer. -/
theorem ofData?_layers {environment : List (String × String)} {file : Data} (hfits : Fits file)
    (henvironment : ∀ d ∈ variableLayers environment, Fits d) :
    ofData? (trim ((Config.default.data.merge file).merge (environmentLayer environment))) =
      some (ofLeaves fun l =>
        ((l.fromEnvironment environment).or (l.given? file)).getD (l.get .default)) := by
  obtain ⟨hupper, hgiven⟩ := given?_environment henvironment
  have hlower := fits_default.merge hfits
  refine ofData?_of_leaves (hlower.merge hupper) fun l => ?_
  rw [l.given?_merge hlower hupper, hgiven, l.given?_merge fits_default hfits, given?_default,
    ← Option.or_assoc]
  cases (l.fromEnvironment environment).or (l.given? file) <;> rfl

/-- Configuration is put together leaf by leaf. Where the file that counts and every variable fit,
each leaf has the value that the environment gives it, else the one that the file gives it, else its
default; this is the configuration if it passes the checks, and otherwise their complaint is the
answer. A variable with the name of a leaf gives that leaf alone. Nothing but the values of the
leaves matters: not what else the file and the variables hold, and of two files not the second. -/
theorem load_leafwise {fs : FileSystem} {root : Path} {environment : List (String × String)}
    {file : Data} (hfile : Chosen fs root file) (hfits : Fits file)
    (henvironment : ∀ d ∈ variableLayers environment, Fits d) :
    (∃ c : Config,
      (∀ l : Leaf, l.get c =
        ((l.fromEnvironment environment).or (l.given? file)).getD (l.get .default)) ∧
      ((c.validate = .ok () ∧ load fs root environment = .ok c) ∨
        ∃ detail, c.validate = .error (.config detail) ∧
          load fs root environment = .error (.config detail))) ∧
    (∀ (l : Leaf) (name value : String), name.map Char.toLower = l.variableName →
      variableLayer? (name, value) =
        some (.record [(l.sectionName, .record [(l.key, Data.Inline.ofText value)])])) ∧
    ∀ fs' root' environment' file', Chosen fs' root' file' → Fits file' →
      (∀ d ∈ variableLayers environment', Fits d) →
      (∀ l : Leaf, l.fromEnvironment environment' = l.fromEnvironment environment) →
      (∀ l : Leaf, l.given? file' = l.given? file) →
      load fs' root' environment' = load fs root environment := by
  have hload := load_of_data (fileLayer_of_chosen hfile) (ofData?_layers hfits henvironment)
  refine ⟨⟨_, get_ofLeaves _, ?_⟩, fun l name value h => variableLayer?_of_name h value, ?_⟩
  · rw [hload]
    generalize ofLeaves _ = c
    cases hvalid : c.validate with
    | ok u => exact .inl ⟨rfl, rfl⟩
    | error e =>
      obtain ⟨detail, rfl⟩ := config_of_validate hvalid
      exact .inr ⟨detail, rfl, rfl⟩
  · intro fs' root' environment' file' hfile' hfits' henvironment' hsameEnvironment hsameFile
    have hload' := load_of_data (fileLayer_of_chosen hfile') (ofData?_layers hfits' henvironment')
    simp only [hsameEnvironment, hsameFile] at hload'
    rw [hload', hload]

/-- Parts of two sections, and entries that no setting is read from. -/
def someSettings : String :=
  "theme = 7\n[logging]\nlevel = \"info\"\ncolor = true\n[project]\nextensions = [\"mts\"]\n"

/-- A directory with both files of settings. -/
def bothFiles : FileSystem :=
  ⟨.dir [("app", .dir [("ngmill.toml", .file (.ok someSettings.toUTF8)),
    (".ngmill", .dir [("config.toml", .file (.ok "[parser]\ntsx = true\n".toUTF8))])])], []⟩

/-- Variables for two leaves, one of which the settings give too, and variables for none. -/
def someVariables : List (String × String) :=
  [("PATH", "/bin"), ("NGMILL__LOGGING__LEVEL", "debug"),
    ("ngmill__Project__exclude", "[\"gen/**\"]"), ("NGMILL__THEME__NAME", "dark")]

theorem load_leafwise_both :
    load bothFiles ⟨"app"⟩ someVariables =
      .ok ⟨⟨"debug", .pretty⟩, ⟨true, none⟩, ⟨["mts"], ["gen/**"]⟩⟩ := by
  have hparsed : Data.Toml.parse someSettings =
      some ((Data.Toml.parse someSettings).getD (.record [])) := by
    have hsome : (Data.Toml.parse someSettings).isSome = true := by decide +kernel
    obtain ⟨file, hfile⟩ := Option.isSome_iff_exists.1 hsome
    rw [hfile]
    rfl
  have hfound : bothFiles.resolve (Path.child ⟨"app"⟩ "ngmill.toml") =
      .ok (.file (.ok someSettings.toUTF8)) := by
    have hlookups : (Path.child ⟨"app"⟩ "ngmill.toml").lookups =
        .ok ["app".toList, "ngmill.toml".toList] := by decide +kernel
    have hstart : bothFiles.start (Path.child ⟨"app"⟩ "ngmill.toml") = [] := ite_self []
    rw [FileSystem.resolve, FileSystem.locate, hlookups, hstart]
    rfl
  have henvironment : ∀ d ∈ variableLayers someVariables, Fits d := by decide +kernel
  obtain ⟨⟨c, hleaves, hanswer⟩, -, -⟩ :=
    load_leafwise (.first (.file hfound rfl hparsed)) (by decide +kernel) henvironment
  have hc : c = ⟨⟨"debug", .pretty⟩, ⟨true, none⟩, ⟨["mts"], ["gen/**"]⟩⟩ := by
    refine ext_leaves fun l => (hleaves l).trans ?_
    cases l <;> decide +kernel
  subst hc
  have hvalid : validate ⟨⟨"debug", .pretty⟩, ⟨true, none⟩, ⟨["mts"], ["gen/**"]⟩⟩ = .ok () :=
    (validate_eq_ok_iff _).2 ⟨show "debug" ∈ levels by decide, by simp, by simp⟩
  rcases hanswer with ⟨-, hload⟩ | ⟨detail, herror, -⟩
  · exact hload
  · rw [hvalid] at herror
    cases herror

end Codemod.Config
