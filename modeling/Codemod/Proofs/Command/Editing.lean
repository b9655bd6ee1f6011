import Codemod.Proofs.Files.Writing
import Codemod.Proofs.Imports.Counts
import Codemod.Proofs.Project.Loading

/-!
# Editing files one after the other

A command that edits imports goes over its files in order and ends at the first one that it cannot
read. Without writing it leaves all files alone. With writing each file is read from what the files
before have left, and is rewritten exactly when its edit has changed the module: the count that
decides about it is zero only for an edit without effect (`CountsChanges`), and a file that could be
read can be written (`FileSystem.write_rewrites`).

Results:
* `editFile_spec`: what becomes of one file (`Edited`).
* `writing_append`: the files of two lists, the second only if the first has not failed.
* `oneFile_writing`: a run for one file changes this file at most, and says so (`OneFile`).
* `progress_writing`: a run for several files is runs for one file each, up to the first that fails.
* `edits_in_order`: what a command makes of its files: nothing without writing, the files of one
  list after those of the other, one file on its own, and how far a run comes (`Progress`).
-/
namespace Codemod

/-- The outcome with more text in front of what it prints. -/
def Outcome.after (text : String) (out : Outcome) : Outcome :=
  { out with output := text ++ out.output }

namespace Command

/-! ## Tasks -/

/-- What a command can do to the imports of its files. -/
inductive Task
  | add (names : List String)
  | remove (names : List String)
  | prune

namespace Task

def command (target : EditTarget) : Task → Command
  | .add names => .addImport target names
  | .remove names => .removeImport target names
  | .prune => .pruneImports target

def edit (module : String) : Task → Edit
  | .add names => Imports.apply ⟨names, module⟩
  | .remove names => removeEdit module names
  | .prune => Imports.prune module

theorem countsChanges (module : String) (task : Task) :
    Imports.CountsChanges (task.edit module) := by
  cases task with
  | add names => exact Imports.countsChanges_apply _
  | remove names => exact Imports.countsChanges_removeEdit module names
  | prune => exact Imports.countsChanges_prune module

theorem run_command (config : Config) (target : EditTarget) (task : Task) (fs : FileSystem) :
    (task.command target).run config fs =
      runEdit config.parser target (task.edit target.module) fs := by
  cases task <;> rfl

end Task

/-! ## One file -/

/-- The line that is printed for a file that has been written. -/
def updatedLine (file : Path) (changes : Nat) : String :=
  s!"updated {file.spelling} ({changes} change(s))\n"

def editedBytes (edit : Edit) (document : Document) : ByteArray :=
  (document.setItems (edit document.items).1).emit.1.toUTF8

/-- What becomes of a file that is edited and written. -/
inductive Edited (options : ParseOptions) (edit : Edit) (fs : FileSystem) (file : Path) :
    Except Failure (FileSystem × String) → Prop
  | unreadable {e : Error} (h : Document.read fs file options = .error e) :
      Edited options edit fs file (.error (.within s!"Failed to read {file.spelling}" e))
  | unchanged {d : Document} (h : Document.read fs file options = .ok d)
      (hsame : (edit d.items).1 = d.items) : Edited options edit fs file (.ok (fs, ""))
  | rewritten {d : Document} {fs' : FileSystem} {names : List String}
      (h : Document.read fs file options = .ok d) (hchanged : (edit d.items).1 ≠ d.items)
      (hlocate : fs.locate file = .ok names)
      (hrewrites : fs.Rewrites fs' names (editedBytes edit d)) :
      Edited options edit fs file (.ok (fs', updatedLine file (edit d.items).2))

/-- A document comes from the file that its path leads to. -/
theorem read_eq_ok {fs : FileSystem} {file : Path} {options : ParseOptions} {d : Document}
    (h : Document.read fs file options = .ok d) :
    d.path = file ∧ ∃ names old, fs.locate file = .ok names ∧
      fs.tree.get? names = some (.file (.ok old)) := by
  unfold Document.read at h
  split at h
  · rename_i text htext
    refine ⟨Document.path_of_parse h, ?_⟩
    unfold FileSystem.readText at htext
    cases hbytes : fs.readBytes file with
    | error fault => rw [hbytes] at htext; cases htext
    | ok old =>
      obtain ⟨names, hlocate, hget⟩ := FileSystem.readBytes_eq_ok_iff.1 hbytes
      exact ⟨names, old, hlocate, hget⟩
  · cases h

theorem editFile_spec (options : ParseOptions) {edit : Edit} (hcounts : Imports.CountsChanges edit)
    (header : Bool) (fs : FileSystem) (file : Path) :
    Edited options edit fs file (editFile options edit true header fs file) := by
  unfold editFile
  cases hread : Document.read fs file options with
  | error e => exact .unreadable hread
  | ok d =>
    simp only [if_true]
    split
    · rename_i hzero
      exact .unchanged hread ((hcounts d.items).1 (beq_iff_eq.1 hzero))
    · rename_i hcount
      obtain ⟨hpath, names, old, hlocate, hget⟩ := read_eq_ok hread
      obtain ⟨fs', hfs, hrewrites⟩ := FileSystem.write_rewrites hlocate hget
        (d.setItems (edit d.items).1).emit.1
      have hwrite : (Document.write fs (d.setItems (edit d.items).1)).1 = .ok fs' := by
        simp only [Document.write]
        rw [show (d.setItems (edit d.items).1).emit.2.path = file from hpath, hfs]
      rw [hwrite]
      exact .rewritten hread (fun hsame => hcount (beq_iff_eq.2 ((hcounts d.items).2 hsame)))
        hlocate hrewrites

/-- A file that is edited and printed stays as it is. -/
theorem fs_of_editFile {options : ParseOptions} {edit : Edit} {header : Bool} {fs fs' : FileSystem}
    {file : Path} {text : String}
    (h : editFile options edit false header fs file = .ok (fs', text)) : fs' = fs := by
  unfold editFile at h
  split at h
  · cases h
  · simp only [Bool.false_eq_true, if_false, Except.ok.injEq, Prod.mk.injEq] at h
    exact h.1.symm

/-! ## Runs that write -/

section
variable (options : ParseOptions) (edit : Edit) (module : String)

/-- A run that writes its files. -/
def writing (files : List Path) (fs : FileSystem) : Outcome :=
  runEdit options ⟨module, true, files⟩ edit fs

theorem writing_nil (fs : FileSystem) : writing options edit module [] fs = ⟨0, "", "", fs⟩ := rfl

theorem writing_singleton (file : Path) (fs : FileSystem) :
    writing options edit module [file] fs =
      match editFile options edit true false fs file with
      | .ok (fs, text) => ⟨0, text, "", fs⟩
      | .error failure => fail fs "" failure := by
  simp only [writing, runEdit, editFiles, Bool.not_true, Bool.false_and]
  cases editFile options edit true false fs file with
  | error failure => rfl
  | ok done => simp

theorem writing_cons (file : Path) (files : List Path) (fs : FileSystem) :
    writing options edit module (file :: files) fs =
      if (writing options edit module [file] fs).exit = 0 then
        (writing options edit module files (writing options edit module [file] fs).fs).after
          (writing options edit module [file] fs).output
      else writing options edit module [file] fs := by
  rw [writing_singleton]
  simp only [writing, runEdit, editFiles, Bool.not_true, Bool.false_and]
  cases editFile options edit true false fs file with
  | error failure => simp [fail]
  | ok done =>
    simp only [if_true]
    generalize editFiles options edit true false done.1 files = more
    obtain ⟨fs', text, failure⟩ := more
    cases failure <;> rfl

/-- Files of two lists: those of the second only if those of the first have not failed. -/
theorem writing_append (xs ys : List Path) (fs : FileSystem) :
    writing options edit module (xs ++ ys) fs =
      if (writing options edit module xs fs).exit = 0 then
        (writing options edit module ys (writing options edit module xs fs).fs).after
          (writing options edit module xs fs).output
      else writing options edit module xs fs := by
  induction xs generalizing fs with
  | nil => simp [writing_nil, Outcome.after]
  | cons file xs ih =>
    rw [List.cons_append, writing_cons, writing_cons options edit module file xs, ih]
    by_cases hfile : (writing options edit module [file] fs).exit = 0
    · rw [if_pos hfile, if_pos hfile]
      generalize writing options edit module [file] fs = first
      by_cases hrest : (writing options edit module xs first.fs).exit = 0
      · rw [if_pos hrest, if_pos (by exact hrest)]
        simp [Outcome.after, String.append_assoc]
      · rw [if_neg hrest, if_neg (by exact hrest)]
    · rw [if_neg hfile, if_neg hfile, if_neg hfile]

end

/-- What a run that writes makes of a single file. It fails and leaves all as it is where the file
cannot be read; it succeeds otherwise, and rewrites the file exactly when the edit has an effect. -/
structure OneFile (options : ParseOptions) (edit : Edit) (fs : FileSystem) (file : Path)
    (out : Outcome) : Prop where
  unreadable : ∀ e, Document.read fs file options = .error e →
    out.exit ≠ 0 ∧ out.fs = fs ∧ out.output = ""
  unchanged : ∀ d, Document.read fs file options = .ok d → (edit d.items).1 = d.items →
    out.exit = 0 ∧ out.fs = fs ∧ out.output = ""
  rewritten : ∀ d, Document.read fs file options = .ok d → (edit d.items).1 ≠ d.items →
    out.exit = 0 ∧ out.output = updatedLine file (edit d.items).2 ∧
      ∃ names, fs.locate file = .ok names ∧ fs.Rewrites out.fs names (editedBytes edit d)

theorem oneFile_writing (options : ParseOptions) {edit : Edit}
    (hcounts : Imports.CountsChanges edit) (module : String) (fs : FileSystem) (file : Path) :
    OneFile options edit fs file (writing options edit module [file] fs) := by
  rw [writing_singleton]
  have h := editFile_spec options hcounts false fs file
  generalize editFile options edit true false fs file = done at h
  cases h with
  | unreadable hread =>
    refine ⟨fun e he => ⟨by simp [fail], rfl, rfl⟩, fun d hd => ?_, fun d hd => ?_⟩
    · rw [hread] at hd; cases hd
    · rw [hread] at hd; cases hd
  | unchanged hread hsame =>
    refine ⟨fun e he => ?_, fun d hd _ => ⟨rfl, rfl, rfl⟩, fun d hd hne => ?_⟩
    · rw [hread] at he; cases he
    · rw [hread] at hd
      obtain rfl := Except.ok.inj hd
      exact absurd hsame hne
  | @rewritten d fs' names hread hchanged hlocate hrewrites =>
    refine ⟨fun e he => ?_, fun d' hd hsame => ?_, fun d' hd hne => ?_⟩
    · rw [hread] at he; cases he
    · rw [hread] at hd
      obtain rfl := Except.ok.inj hd
      exact absurd hsame hchanged
    · rw [hread] at hd
      obtain rfl := Except.ok.inj hd
      exact ⟨rfl, rfl, names, hlocate, hrewrites⟩

namespace OneFile

variable {options : ParseOptions} {edit : Edit} {fs : FileSystem} {file : Path} {out : Outcome}

/-- A file is unreadable, unchanged or rewritten. -/
theorem fs_cases (h : OneFile options edit fs file out) :
    out.fs = fs ∧ out.output = "" ∨
      out.exit = 0 ∧ ∃ names content, fs.locate file = .ok names ∧
        fs.Rewrites out.fs names content := by
  cases hread : Document.read fs file options with
  | error e => exact .inl (h.unreadable e hread).2
  | ok d =>
    by_cases hsame : (edit d.items).1 = d.items
    · exact .inl (h.unchanged d hread hsame).2
    · obtain ⟨hexit, -, names, hlocate, hrewrites⟩ := h.rewritten d hread hsame
      exact .inr ⟨hexit, names, _, hlocate, hrewrites⟩

theorem of_failed (h : OneFile options edit fs file out) (hexit : out.exit ≠ 0) :
    out.fs = fs ∧ out.output = "" := by
  rcases h.fs_cases with hsame | ⟨hok, -⟩
  · exact hsame
  · exact absurd hok hexit

theorem shape (h : OneFile options edit fs file out) : fs.SameShape out.fs := by
  rcases h.fs_cases with ⟨hfs, -⟩ | ⟨-, names, content, -, hrewrites⟩
  · rw [hfs]; exact .refl fs
  · exact hrewrites.shape

/-- Only the file that the path leads to can have another content. -/
theorem elsewhere (h : OneFile options edit fs file out) {names : List String}
    (hne : fs.locate file ≠ .ok names) : out.fs.tree.content? names = fs.tree.content? names := by
  rcases h.fs_cases with ⟨hfs, -⟩ | ⟨-, found, content, hlocate, hrewrites⟩
  · rw [hfs]
  · exact hrewrites.tree.elsewhere names fun he => hne (by rw [hlocate, he])

end OneFile

/-! ## How far a run comes -/

section
variable (run : List Path → FileSystem → Outcome)

/-- The outcomes of runs on single files, each on the files that the one before has left. -/
def oneByOne : List Path → FileSystem → List Outcome
  | [], _ => []
  | file :: files, fs => run [file] fs :: oneByOne files (run [file] fs).fs

def systemAfter : List Path → FileSystem → FileSystem
  | [], fs => fs
  | file :: files, fs => systemAfter files (run [file] fs).fs

/-- What outcomes print together. -/
def printed (outs : List Outcome) : String := outs.foldr (fun out text => out.output ++ text) ""

/-- A run has done the files `before` one by one and then ended, because none was left or because
the next file failed. -/
structure Progress (before after : List Path) (fs : FileSystem) (total : Outcome) : Prop where
  done : ∀ out ∈ oneByOne run before fs, out.exit = 0
  fs_eq : total.fs = systemAfter run before fs
  output_eq : total.output = printed (oneByOne run before fs)
  /-- No file or directory has come or gone. -/
  shape : fs.SameShape total.fs
  /-- A file that no path of `before` leads to has the bytes that it had. -/
  untouched : ∀ names, (∀ file ∈ before, fs.locate file ≠ .ok names) →
    total.fs.tree.content? names = fs.tree.content? names
  ended : after = [] ∧ total.exit = 0 ∨
    ∃ file rest, after = file :: rest ∧ total.exit ≠ 0 ∧ (run [file] total.fs).exit ≠ 0 ∧
      total.errors = (run [file] total.fs).errors

end

theorem progress_writing (options : ParseOptions) {edit : Edit}
    (hcounts : Imports.CountsChanges edit) (module : String) (files : List Path) (fs : FileSystem) :
    ∃ before after, files = before ++ after ∧
      Progress (writing options edit module) before after fs
        (writing options edit module files fs) := by
  induction files generalizing fs with
  | nil =>
    refine ⟨[], [], rfl, ?_⟩
    exact ⟨by simp [oneByOne], rfl, rfl, .refl fs, fun _ _ => rfl, .inl ⟨rfl, rfl⟩⟩
  | cons file files ih =>
    have hone := oneFile_writing options hcounts module fs file
    rw [writing_cons]
    by_cases hexit : (writing options edit module [file] fs).exit = 0
    · rw [if_pos hexit]
      obtain ⟨before, after, rfl, hp⟩ := ih (writing options edit module [file] fs).fs
      refine ⟨file :: before, after, rfl, ?_⟩
      refine ⟨?_, hp.fs_eq, congrArg (_ ++ ·) hp.output_eq, hone.shape.trans hp.shape, ?_, hp.ended⟩
      · exact List.forall_mem_cons.2 ⟨hexit, hp.done⟩
      · intro names hnames
        rw [List.forall_mem_cons] at hnames
        calc (writing options edit module (before ++ after) _).fs.tree.content? names
            = (writing options edit module [file] fs).fs.tree.content? names :=
              hp.untouched names fun f hf => by
                rw [hone.shape.locate]; exact hnames.2 f hf
          _ = fs.tree.content? names := hone.elsewhere hnames.1
    · rw [if_neg hexit]
      obtain ⟨hfs, houtput⟩ := hone.of_failed hexit
      refine ⟨[], file :: files, rfl, ?_⟩
      refine ⟨by simp [oneByOne], hfs, houtput, ?_, fun _ _ => by rw [hfs], .inr ?_⟩
      · rw [hfs]; exact .refl fs
      · exact ⟨file, files, rfl, hexit, by rw [hfs]; exact hexit, by rw [hfs]⟩

/-! ## Commands -/

def Task.run (task : Task) (config : Config) (module : String) (write : Bool) (files : List Path)
    (fs : FileSystem) : Outcome :=
  (task.command ⟨module, write, files⟩).run config fs

theorem Task.run_writing (task : Task) (config : Config) (module : String) :
    task.run config module true = writing config.parser (task.edit module) module := by
  funext files fs
  exact task.run_command config _ fs

theorem fs_editFiles (options : ParseOptions) (edit : Edit) (header : Bool) (fs : FileSystem)
    (files : List Path) : (editFiles options edit false header fs files).1 = fs := by
  induction files with
  | nil => rfl
  | cons file files ih =>
    rw [editFiles]
    split
    · rfl
    · rename_i fs' text hfile
      obtain rfl := fs_of_editFile hfile
      exact ih

theorem fs_runEdit (options : ParseOptions) (target : EditTarget) (edit : Edit) (fs : FileSystem) :
    (runEdit options target edit fs).fs =
      (editFiles options edit target.write (!target.write && target.files.length > 1) fs
        target.files).1 := by
  simp only [runEdit]
  generalize editFiles options edit target.write (!target.write && target.files.length > 1) fs
    target.files = done
  obtain ⟨fs', text, failure⟩ := done
  cases failure <;> rfl

theorem Task.fs_run_printing (task : Task) (config : Config) (module : String)
    (files : List Path) (fs : FileSystem) : (task.run config module false files fs).fs = fs := by
  rw [Task.run, task.run_command, fs_runEdit]
  exact fs_editFiles _ _ _ fs files

/-- A command that edits imports leaves all files alone if it does not write. If it writes, its
files are done in order: a list of files after another one, if that has not failed; each file as if
it were alone, so that it is rewritten exactly when its edit has an effect and stays as it is when
it cannot be read; and up to the first file that fails, with a line for every file that has been
rewritten. -/
theorem edits_in_order (config : Config) (task : Task) (module : String) (fs : FileSystem) :
    (∀ files, (task.run config module false files fs).fs = fs) ∧
      (∀ xs ys, task.run config module true (xs ++ ys) fs =
        if (task.run config module true xs fs).exit = 0 then
          (task.run config module true ys (task.run config module true xs fs).fs).after
            (task.run config module true xs fs).output
        else task.run config module true xs fs) ∧
      (∀ file, OneFile config.parser (task.edit module) fs file
        (task.run config module true [file] fs)) ∧
      ∀ files, ∃ before after, files = before ++ after ∧
        Progress (task.run config module true) before after fs
          (task.run config module true files fs) := by
  have hcounts := task.countsChanges module
  refine ⟨fun files => task.fs_run_printing config module files fs, ?_⟩
  rw [task.run_writing]
  exact ⟨fun xs ys => writing_append _ _ module xs ys fs,
    fun file => oneFile_writing _ hcounts module fs file,
    fun files => progress_writing _ hcounts module files fs⟩

end Command

end Codemod
