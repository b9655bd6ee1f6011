import Codemod.Config
import Codemod.Data.Forms
import Codemod.Proofs.Classes.Views

/-!
# Values as data

A value that is written as data has one form, and is read from several: a record may have its keys
in any order and others besides, or be a list of its fields in order; an optional field may be null
or missing; a section of a configuration may be missing; a name may be the only key of a record.
Which data is read as which value is said here without the readers, by `HasFields` and the relations
that it is used in, level by level. That every written value is one of its forms then gives the way
there and back.

Results:
* `fields?_eq_some_iff`, `optional?_eq_some_iff`, `choice?_eq_some_iff`, `section?_eq_some_iff`:
  what the parts of a reader accept.
* `ofData?_eq_some_iff` for each type: what its reader accepts.
* `data_round_trips`: requests, kinds, reports and configurations are read back as they were
  written.
-/
namespace Codemod

namespace Data

/-! ## Plain values -/

theorem string?_eq_some_iff {d : Data} {s : String} : d.string? = some s ↔ d = .string s := by
  cases d <;> simp [string?]

@[simp] theorem string?_string (s : String) : (Data.string s).string? = some s := rfl

theorem bool?_eq_some_iff {d : Data} {b : Bool} : d.bool? = some b ↔ d = .bool b := by
  cases d <;> simp [bool?]

@[simp] theorem bool?_bool (b : Bool) : (Data.bool b).bool? = some b := rfl

theorem mapM_string?_eq_some_iff {items : List Data} {strings : List String} :
    items.mapM string? = some strings ↔ items = strings.map .string := by
  induction items generalizing strings with
  | nil => cases strings <;> simp
  | cons d items ih =>
    cases strings with
    | nil => simp [Option.bind_eq_some_iff]
    | cons s strings => simp [Option.bind_eq_some_iff, string?_eq_some_iff, ih]

theorem strings?_eq_some_iff {d : Data} {strings : List String} :
    d.strings? = some strings ↔ d = ofStrings strings := by
  cases d <;> simp [strings?, list?, ofStrings, mapM_string?_eq_some_iff]

@[simp] theorem strings?_ofStrings (strings : List String) :
    (ofStrings strings).strings? = some strings := strings?_eq_some_iff.2 rfl

/-! ## Fields -/

/-- Data with some fields: a record has them under their keys, or does not; a list has them in their
order, and only such as come after the first `least` ones may be missing from its end. -/
inductive HasFields (keys : List String) (least : Nat) : Data → List (Option Data) → Prop
  | record (entries : List (String × Data)) :
      HasFields keys least (.record entries) (keys.map fun key => entries.lookup key)
  | list (items : List Data) (missing : Nat) (enough : least ≤ items.length)
      (total : items.length + missing = keys.length) :
      HasFields keys least (.list items) (items.map some ++ List.replicate missing none)

theorem fields?_eq_some_iff {keys : List String} {least : Nat} {d : Data}
    {parts : List (Option Data)} :
    d.fields? keys least = some parts ↔ HasFields keys least d parts := by
  constructor
  · intro h
    cases d with
    | record entries =>
      cases h
      exact .record entries
    | list items =>
      rw [fields?, Option.ite_none_right_eq_some, Bool.and_eq_true, decide_eq_true_eq,
        decide_eq_true_eq] at h
      obtain ⟨⟨henough, htotal⟩, hparts⟩ := h
      cases hparts
      exact .list items _ henough (by omega)
    | _ => cases h
  · rintro (entries | ⟨items, missing, henough, htotal⟩)
    · rfl
    · have hmissing : keys.length - items.length = missing := by omega
      have htest : (decide (least ≤ items.length) && decide (items.length ≤ keys.length)) = true := by
        simp only [Bool.and_eq_true, decide_eq_true_eq]
        omega
      rw [fields?, if_pos htest, hmissing]

/-! ## Optional values and names -/

/-- What stands for an optional value: nothing or null where there is none. -/
def IsOptional (write : α → Data) : Option α → Option Data → Prop
  | none, part => part = none ∨ part = some .null
  | some a, part => part = some (write a)

theorem optional?_eq_some_iff {read : Data → Option α} {write : α → Data}
    (h : ∀ d a, read d = some a ↔ d = write a) (hnull : ∀ a, .null ≠ write a) {o : Option α}
    {part : Option Data} : optional? read part = some o ↔ IsOptional write o part := by
  cases part with
  | none => cases o <;> simp [optional?, IsOptional]
  | some d =>
    cases d with
    | null => cases o <;> simp [optional?, IsOptional, hnull]
    | _ => cases o <;> simp [optional?, IsOptional, h]

theorem optional_string?_eq_some_iff {o : Option String} {part : Option Data} :
    optional? string? part = some o ↔ IsOptional .string o part :=
  optional?_eq_some_iff (fun _ _ => string?_eq_some_iff) nofun

theorem optional_bool?_eq_some_iff {o : Option Bool} {part : Option Data} :
    optional? bool? part = some o ↔ IsOptional .bool o part :=
  optional?_eq_some_iff (fun _ _ => bool?_eq_some_iff) nofun

/-- A value that is not missing. -/
theorem isOptional_some_iff {write : α → Data} {o : Option α} {d : Data} :
    IsOptional write o (some d) ↔ d = ofOption write o := by
  cases o <;> simp [IsOptional, ofOption]

/-- What stands for one of a few names. -/
def IsName (d : Data) (name : String) : Prop := d = .string name ∨ d = .record [(name, .null)]

theorem choice?_eq_some_iff {ofName? : String → Option α} {name : α → String}
    (h : ∀ s a, ofName? s = some a ↔ s = name a) {d : Data} {a : α} :
    d.choice? ofName? = some a ↔ d.IsName (name a) := by
  fun_cases choice? ofName? d with
  | case1 s => simp [IsName, h]
  | case2 s => simp [IsName, h]
  | case3 d hstring hrecord =>
    refine iff_of_false nofun ?_
    rintro (rfl | rfl)
    · exact hstring _ rfl
    · exact hrecord _ rfl

end Data

/-! ## Requests, kinds and reports -/

namespace Imports.Request

def IsForm (d : Data) (r : Request) : Prop :=
  d.HasFields ["names", "module"] 2 [some (Data.ofStrings r.names), some (.string r.module)]

theorem ofData?_eq_some_iff {d : Data} {r : Request} : ofData? d = some r ↔ IsForm d r := by
  simp only [ofData?, Option.bind_eq_bind, Option.bind_eq_some_iff, Data.fields?_eq_some_iff]
  constructor
  · rintro ⟨parts, hparts, h⟩
    split at h
    · simp only [Option.bind_eq_some_iff, Data.strings?_eq_some_iff, Data.string?_eq_some_iff,
        Option.pure_def, Option.some.injEq] at h
      obtain ⟨names, rfl, module, rfl, rfl⟩ := h
      exact hparts
    · cases h
  · intro h
    exact ⟨_, h, by simp⟩

theorem isForm_data (r : Request) : IsForm r.data r := .record _

end Imports.Request

namespace DecoratorKind

def IsForm (d : Data) (kind : DecoratorKind) : Prop := d.IsName kind.name

theorem ofData?_eq_some_iff {d : Data} {kind : DecoratorKind} :
    ofData? d = some kind ↔ IsForm d kind :=
  Data.choice?_eq_some_iff fun _ _ => ofName?_eq_some_iff

theorem isForm_data (kind : DecoratorKind) : IsForm kind.data kind := .inl rfl

end DecoratorKind

namespace Report

def IsForm (d : Data) (r : Report) : Prop :=
  ∃ file, d.HasFields ["code", "message", "file"] 3
      [some (.string r.code), some (.string r.message), file] ∧
    Data.IsOptional .string r.file file

theorem ofData?_eq_some_iff {d : Data} {r : Report} : ofData? d = some r ↔ IsForm d r := by
  simp only [ofData?, Option.bind_eq_bind, Option.bind_eq_some_iff, Data.fields?_eq_some_iff]
  constructor
  · rintro ⟨parts, hparts, h⟩
    split at h
    · simp only [Option.bind_eq_some_iff, Data.string?_eq_some_iff,
        Data.optional_string?_eq_some_iff, Option.pure_def, Option.some.injEq] at h
      obtain ⟨code, rfl, message, rfl, file, hpart, rfl⟩ := h
      exact ⟨_, hparts, hpart⟩
    · cases h
  · rintro ⟨file, hparts, hpart⟩
    exact ⟨_, hparts, by simp [Data.optional_string?_eq_some_iff.2 hpart]⟩

theorem isForm_data (r : Report) : IsForm r.data r := by
  obtain ⟨code, message, file⟩ := r
  cases file with
  | none => exact ⟨none, .record _, .inl rfl⟩
  | some file => exact ⟨some (.string file), .record _, rfl⟩

end Report

/-! ## Configurations -/

namespace LogFormat

theorem ofName?_eq_some_iff {name : String} {format : LogFormat} :
    ofName? name = some format ↔ name = format.name := by
  constructor
  · intro h
    have hname := List.find?_some h
    exact (beq_iff_eq.1 hname).symm
  · rintro rfl
    cases format <;> rfl

theorem ofData?_eq_some_iff {d : Data} {format : LogFormat} :
    ofData? d = some format ↔ d.IsName format.name :=
  Data.choice?_eq_some_iff fun _ _ => ofName?_eq_some_iff

end LogFormat

namespace LogConfig

def IsForm (d : Data) (c : LogConfig) : Prop :=
  ∃ format, d.HasFields ["level", "format"] 2 [some (.string c.level), some format] ∧
    format.IsName c.format.name

theorem ofData?_eq_some_iff {d : Data} {c : LogConfig} : ofData? d = some c ↔ IsForm d c := by
  simp only [ofData?, Option.bind_eq_bind, Option.bind_eq_some_iff, Data.fields?_eq_some_iff]
  constructor
  · rintro ⟨parts, hparts, h⟩
    split at h
    · simp only [Option.bind_eq_some_iff, Data.string?_eq_some_iff, LogFormat.ofData?_eq_some_iff,
        Option.pure_def, Option.some.injEq] at h
      obtain ⟨level, rfl, format, hformat, rfl⟩ := h
      exact ⟨_, hparts, hformat⟩
    · cases h
  · rintro ⟨format, hparts, hformat⟩
    exact ⟨_, hparts, by simp [LogFormat.ofData?_eq_some_iff.2 hformat]⟩

theorem isForm_data (c : LogConfig) : IsForm c.data c := ⟨c.format.data, .record _, .inl rfl⟩

end LogConfig

namespace ParseOptions

def IsForm (d : Data) (o : ParseOptions) : Prop :=
  ∃ tsx, d.HasFields ["decorators", "tsx"] 2 [some (.bool o.decorators), tsx] ∧
    Data.IsOptional .bool o.tsx tsx

theorem ofData?_eq_some_iff {d : Data} {o : ParseOptions} : ofData? d = some o ↔ IsForm d o := by
  simp only [ofData?, Option.bind_eq_bind, Option.bind_eq_some_iff, Data.fields?_eq_some_iff]
  constructor
  · rintro ⟨parts, hparts, h⟩
    split at h
    · simp only [Option.bind_eq_some_iff, Data.bool?_eq_some_iff, Data.optional_bool?_eq_some_iff,
        Option.pure_def, Option.some.injEq] at h
      obtain ⟨decorators, rfl, tsx, hpart, rfl⟩ := h
      exact ⟨_, hparts, hpart⟩
    · cases h
  · rintro ⟨tsx, hparts, hpart⟩
    exact ⟨_, hparts, by simp [Data.optional_bool?_eq_some_iff.2 hpart]⟩

theorem isForm_data (o : ParseOptions) : IsForm o.data o :=
  ⟨some (Data.ofOption .bool o.tsx), .record _, Data.isOptional_some_iff.2 rfl⟩

end ParseOptions

namespace ProjectConfig

def IsForm (d : Data) (c : ProjectConfig) : Prop :=
  d.HasFields ["extensions", "exclude"] 2
    [some (Data.ofStrings c.extensions), some (Data.ofStrings c.exclude)]

theorem ofData?_eq_some_iff {d : Data} {c : ProjectConfig} : ofData? d = some c ↔ IsForm d c := by
  simp only [ofData?, Option.bind_eq_bind, Option.bind_eq_some_iff, Data.fields?_eq_some_iff]
  constructor
  · rintro ⟨parts, hparts, h⟩
    split at h
    · simp only [Option.bind_eq_some_iff, Data.strings?_eq_some_iff, Option.pure_def,
        Option.some.injEq] at h
      obtain ⟨extensions, rfl, exclude, rfl, rfl⟩ := h
      exact hparts
    · cases h
  · intro h
    exact ⟨_, h, by simp⟩

theorem isForm_data (c : ProjectConfig) : IsForm c.data c := .record _

end ProjectConfig

namespace Config

/-- What stands for a section: a form of it, or nothing for the default. -/
def IsSection (default : α) (IsForm : Data → α → Prop) (a : α) : Option Data → Prop
  | none => a = default
  | some d => IsForm d a

theorem section?_eq_some_iff {default : α} {read : Data → Option α} {IsForm : Data → α → Prop}
    (h : ∀ d a, read d = some a ↔ IsForm d a) {a : α} {part : Option Data} :
    Config.section? default read part = some a ↔ IsSection default IsForm a part := by
  cases part with
  | none => simp [section?, IsSection, eq_comm]
  | some d => exact h d a

def IsForm (d : Data) (c : Config) : Prop :=
  ∃ logging parser project,
    d.HasFields ["logging", "parser", "project"] 0 [logging, parser, project] ∧
      IsSection .default LogConfig.IsForm c.logging logging ∧
      IsSection .default ParseOptions.IsForm c.parser parser ∧
      IsSection .default ProjectConfig.IsForm c.project project

theorem ofData?_eq_some_iff {d : Data} {c : Config} : ofData? d = some c ↔ IsForm d c := by
  have hlogging : ∀ part a, section? .default LogConfig.ofData? part = some a ↔
      IsSection .default LogConfig.IsForm a part :=
    fun _ _ => section?_eq_some_iff fun _ _ => LogConfig.ofData?_eq_some_iff
  have hparser : ∀ part a, section? .default ParseOptions.ofData? part = some a ↔
      IsSection .default ParseOptions.IsForm a part :=
    fun _ _ => section?_eq_some_iff fun _ _ => ParseOptions.ofData?_eq_some_iff
  have hproject : ∀ part a, section? .default ProjectConfig.ofData? part = some a ↔
      IsSection .default ProjectConfig.IsForm a part :=
    fun _ _ => section?_eq_some_iff fun _ _ => ProjectConfig.ofData?_eq_some_iff
  simp only [ofData?, Option.bind_eq_bind, Option.bind_eq_some_iff, Data.fields?_eq_some_iff]
  constructor
  · rintro ⟨parts, hparts, h⟩
    split at h
    · simp only [Option.bind_eq_some_iff, hlogging, hparser, hproject, Option.pure_def,
        Option.some.injEq] at h
      obtain ⟨logging, h1, parser, h2, project, h3, rfl⟩ := h
      exact ⟨_, _, _, hparts, h1, h2, h3⟩
    · cases h
  · rintro ⟨logging, parser, project, hparts, h1, h2, h3⟩
    exact ⟨_, hparts, by simp [(hlogging _ _).2 h1, (hparser _ _).2 h2, (hproject _ _).2 h3]⟩

theorem isForm_data (c : Config) : IsForm c.data c :=
  ⟨some c.logging.data, some c.parser.data, some c.project.data, .record _,
    c.logging.isForm_data, c.parser.isForm_data, c.project.isForm_data⟩

end Config

/-! ## There and back -/

/-- Values are read back as they were written, exactly the data of some forms is read, and reading
and writing a second time changes nothing, neither the value nor the data. -/
structure RoundTrips (write : α → Data) (read : Data → Option α) (IsForm : Data → α → Prop) :
    Prop where
  read_write : ∀ a, read (write a) = some a
  read_iff : ∀ d a, read d = some a ↔ IsForm d a
  read_again : ∀ d a, read d = some a → read (write a) = some a
  rewrite : ∀ d e, (read d).map write = some e → (read e).map write = some e

theorem RoundTrips.of_forms {write : α → Data} {read : Data → Option α}
    {IsForm : Data → α → Prop} (hread : ∀ d a, read d = some a ↔ IsForm d a)
    (hwrite : ∀ a, IsForm (write a) a) : RoundTrips write read IsForm := by
  have hback : ∀ a, read (write a) = some a := fun a => (hread _ a).2 (hwrite a)
  refine ⟨hback, hread, fun _ a _ => hback a, fun d e h => ?_⟩
  obtain ⟨a, -, rfl⟩ := Option.map_eq_some_iff.1 h
  rw [hback, Option.map_some]

/-- Requests, kinds, reports and configurations are read back as they were written, and from each of
their other forms as the same value. -/
theorem data_round_trips :
    RoundTrips Imports.Request.data Imports.Request.ofData? Imports.Request.IsForm ∧
      RoundTrips DecoratorKind.data DecoratorKind.ofData? DecoratorKind.IsForm ∧
      RoundTrips Report.data Report.ofData? Report.IsForm ∧
      RoundTrips Config.data Config.ofData? Config.IsForm :=
  ⟨.of_forms (fun _ _ => Imports.Request.ofData?_eq_some_iff) Imports.Request.isForm_data,
    .of_forms (fun _ _ => DecoratorKind.ofData?_eq_some_iff) DecoratorKind.isForm_data,
    .of_forms (fun _ _ => Report.ofData?_eq_some_iff) Report.isForm_data,
    .of_forms (fun _ _ => Config.ofData?_eq_some_iff) Config.isForm_data⟩

end Codemod
