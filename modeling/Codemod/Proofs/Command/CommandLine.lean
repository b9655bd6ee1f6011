import Mathlib.Data.List.Find
import Codemod.Proofs.Command.Editing

/-!
# Command lines one after the other

Each run of a command line reads the settings before it does anything else. One run for the files of
two lists therefore reads them once, and two runs read them again in between, from the files that
the first run has left. The settings are the same in both as long as the first run leaves alone the
files that settings are read from: what is read depends on where files and directories are, which no
edit changes, and on the content of these files (`Config.load_congr`).

Results:
* `SameShape.exists?_eq`, `SameShape.isFile_eq`, `readText_congr`: what the answers of a file system
  depend on.
* `Config.load_congr`, `Config.IsSettingsFile.getLast?`: what the settings depend on.
* `runCommandLine_append`: when two runs equal one.
-/
namespace Codemod

namespace FileSystem

variable {fs fs' : FileSystem}

/-- Whether a path leads to a file or to a directory depends on the shape alone. -/
theorem SameShape.resolve_map (h : SameShape fs fs') (path : Path) :
    (fs'.resolve path).map Tree.isDir = (fs.resolve path).map Tree.isDir := by
  unfold resolve
  rw [h.locate]
  cases fs.locate path with
  | error fault => rfl
  | ok names =>
    have hshape := h.tree names
    simp only [Bind.bind, Except.bind]
    cases hget : fs.tree.get? names with
    | none =>
      rw [hget, Option.map_none, Option.map_eq_none_iff] at hshape
      rw [hshape]
    | some found =>
      rw [hget, Option.map_some, Option.map_eq_some_iff] at hshape
      obtain ⟨found', hget', hkind⟩ := hshape
      rw [hget']
      exact congrArg Except.ok hkind

theorem exists?_eq_map (fs : FileSystem) (path : Path) :
    fs.exists? path = ((fs.resolve path).map Tree.isDir).toBool := by
  unfold exists?
  cases fs.resolve path <;> rfl

theorem isFile_eq_map (fs : FileSystem) (path : Path) :
    fs.isFile path = ((fs.resolve path).map Tree.isDir).toOption.any (!·) := by
  unfold isFile
  cases fs.resolve path with
  | error fault => rfl
  | ok found => cases found <;> rfl

theorem SameShape.exists?_eq (h : SameShape fs fs') (path : Path) :
    fs'.exists? path = fs.exists? path := by
  rw [exists?_eq_map, exists?_eq_map, h.resolve_map]

theorem SameShape.isFile_eq (h : SameShape fs fs') (path : Path) :
    fs'.isFile path = fs.isFile path := by
  rw [isFile_eq_map, isFile_eq_map, h.resolve_map]

/-- A path reads as before where the file that it leads to has kept its content. -/
theorem readText_congr (h : SameShape fs fs') {path : Path}
    (hsame : ∀ names, fs.locate path = .ok names →
      fs'.tree.content? names = fs.tree.content? names) :
    fs'.readText path = fs.readText path := by
  have hbytes : fs'.readBytes path = fs.readBytes path := by
    have hmap := h.resolve_map path
    cases hresolve : fs.resolve path with
    | error fault =>
      rw [hresolve] at hmap
      cases hresolve' : fs'.resolve path with
      | error fault' =>
        rw [hresolve'] at hmap
        obtain rfl := Except.error.inj hmap
        simp only [readBytes, hresolve, hresolve', Bind.bind, Except.bind]
      | ok found' => rw [hresolve'] at hmap; cases hmap
    | ok found =>
      obtain ⟨names, hlocate, hget⟩ := resolve_eq_ok_iff.1 hresolve
      cases found with
      | file content =>
        have hcontent := hsame names hlocate
        rw [Tree.content?_eq_some_iff.2 hget, Tree.content?_eq_some_iff] at hcontent
        rw [readBytes_of_locate hlocate hget,
          readBytes_of_locate ((h.locate path).trans hlocate) hcontent]
      | dir entries =>
        rw [hresolve] at hmap
        cases hresolve' : fs'.resolve path with
        | error fault' => rw [hresolve'] at hmap; cases hmap
        | ok found' =>
          rw [hresolve'] at hmap
          cases found' with
          | file content => cases hmap
          | dir entries' => simp only [readBytes, hresolve, hresolve', Bind.bind, Except.bind]
  unfold readText
  rw [hbytes]

/-- Seen from another directory, the shape is still the same. -/
theorem SameShape.withHere (h : SameShape fs fs') (names : List String) :
    SameShape { fs with here := names } { fs' with here := names } := ⟨rfl, h.tree⟩

theorem SameShape.upwards_eq (h : SameShape fs fs') :
    fs'.upwards = fs.upwards.map fun place => { fs' with here := place.here } := by
  unfold upwards
  rw [h.here, List.map_map]
  rfl

theorem tree_of_mem_upwards {place : FileSystem} (h : place ∈ fs.upwards) :
    place = { fs with here := place.here } := by
  obtain ⟨n, -, rfl⟩ := List.mem_map.1 h
  rfl

end FileSystem

/-! ## Settings -/

namespace Config

variable {fs fs' : FileSystem} {root : Path}

/-- The names of a file that settings can be read from: a path of settings leads there from the
working directory or from one above it. -/
def IsSettingsFile (fs : FileSystem) (root : Path) (names : List String) : Prop :=
  ∃ place ∈ fs.upwards, ∃ name ∈ fileNames, place.locate (root.child name) = .ok names

/-- Such a file has one of two names. -/
theorem IsSettingsFile.getLast? {names : List String} (h : IsSettingsFile fs root names) :
    names.getLast? = some "ngmill.toml" ∨ names.getLast? = some "config.toml" := by
  obtain ⟨place, -, name, hname, hlocate⟩ := h
  obtain ⟨above, hsegments⟩ : ∃ above,
      Path.segments (root.child name).spelling.toList = above ++ Path.segments name.toList := by
    rcases root.segments_child name with ⟨-, h⟩ | ⟨dir, -, -, h⟩ | ⟨-, h⟩
    · exact ⟨[], h⟩
    · exact ⟨dir, h⟩
    · exact ⟨_, h⟩
  obtain rfl | rfl : name = "ngmill.toml" ∨ name = ".ngmill/config.toml" := by
    simpa [fileNames] using hname
  · have hlast : Path.segments "ngmill.toml".toList = ["ngmill.toml".toList] := by decide
    rw [hlast] at hsegments
    exact .inl (FileSystem.getLast?_of_locate hsegments (by decide) hlocate)
  · have hlast : Path.segments ".ngmill/config.toml".toList =
        [".ngmill".toList] ++ ["config.toml".toList] := by decide
    rw [hlast, ← List.append_assoc] at hsegments
    exact .inr (FileSystem.getLast?_of_locate hsegments (by decide) hlocate)

theorem fileLayer_congr (h : fs.SameShape fs')
    (hsame : ∀ names, IsSettingsFile fs root names →
      fs'.tree.content? names = fs.tree.content? names) :
    fileLayer fs' root = fileLayer fs root := by
  have hexists : fs'.exists? = fs.exists? := funext h.exists?_eq
  unfold fileLayer
  rw [hexists]
  cases hpath : (fileNames.map root.child).find? fs.exists? with
  | none => rfl
  | some path =>
    obtain ⟨name, hname, rfl⟩ := List.mem_map.1 (List.mem_of_find?_eq_some hpath)
    have hshape : ∀ place ∈ fs.upwards, place.SameShape { fs' with here := place.here } := by
      intro place hplace
      rw [FileSystem.tree_of_mem_upwards hplace]
      exact h.withHere _
    have hfind : fs'.upwards.find? (·.isFile (root.child name)) =
        (fs.upwards.find? (·.isFile (root.child name))).map fun place =>
          { fs' with here := place.here } := by
      rw [h.upwards_eq, List.find?_map]
      refine congrArg _ (List.find?_congr fun place hplace => ?_)
      exact (hshape place hplace).isFile_eq _
    simp only [hfind]
    cases hplace : fs.upwards.find? (·.isFile (root.child name)) with
    | none => rfl
    | some place =>
      have hmem := List.mem_of_find?_eq_some hplace
      have htree : place.tree = fs.tree := by rw [FileSystem.tree_of_mem_upwards hmem]
      have htext := FileSystem.readText_congr (hshape place hmem) fun names hlocate => by
        rw [htree]
        exact hsame names ⟨place, hmem, name, hname, hlocate⟩
      simp only [Option.map_some, htext]

/-- The settings depend on where files and directories are and on the content of the files that
settings can be read from. -/
theorem load_congr (h : fs.SameShape fs')
    (hsame : ∀ names, IsSettingsFile fs root names →
      fs'.tree.content? names = fs.tree.content? names)
    (environment : List (String × String)) :
    load fs' root environment = load fs root environment := by
  unfold load
  rw [fileLayer_congr h hsame]

end Config

/-! ## Runs -/

namespace Command

variable {task : Task} {module : String} {environment : List (String × String)} {fs : FileSystem}

theorem runCommandLine_of_load {args : List String} {command : Command} {config : Config}
    (hargs : Arguments.parse args = .run command)
    (hload : Config.load fs ⟨"."⟩ environment = .ok config) :
    runCommandLine args environment fs = command.run config fs := by
  unfold runCommandLine
  rw [hargs]
  simp only [hload]

/-- Editing the files of two lists in one run is editing those of the first and then, if this has
not failed, those of the second in a run of its own, provided that no file of the first list is one
that settings can be read from. -/
theorem runCommandLine_append {xs ys : List Path} {all first second : List String}
    (hall : Arguments.parse all = .run (task.command ⟨module, true, xs ++ ys⟩))
    (hfirst : Arguments.parse first = .run (task.command ⟨module, true, xs⟩))
    (hsecond : Arguments.parse second = .run (task.command ⟨module, true, ys⟩))
    (hsettings : ∀ file ∈ xs, ∀ names, fs.locate file = .ok names →
      ¬ Config.IsSettingsFile fs ⟨"."⟩ names) :
    runCommandLine all environment fs =
      if (runCommandLine first environment fs).exit = 0 then
        (runCommandLine second environment (runCommandLine first environment fs).fs).after
          (runCommandLine first environment fs).output
      else runCommandLine first environment fs := by
  cases hload : Config.load fs ⟨"."⟩ environment with
  | error e =>
    -- without settings nothing is edited, whatever the files are
    have hfail : ∀ {args : List String} {command : Command}, Arguments.parse args = .run command →
        runCommandLine args environment fs =
          fail fs "" (.within "Failed to load configuration" e) := by
      intro args command hargs
      unfold runCommandLine
      rw [hargs]
      simp only [hload]
    rw [hfail hall, hfail hfirst]
    simp [fail]
  | ok config =>
    have hrun : ∀ files fs, (task.command ⟨module, true, files⟩).run config fs =
        writing config.parser (task.edit module) module files fs :=
      fun files fs => task.run_command config _ fs
    obtain ⟨before, after, hxs, hp⟩ :=
      progress_writing config.parser (task.countsChanges module) module xs fs
    have hagain : Config.load (writing config.parser (task.edit module) module xs fs).fs ⟨"."⟩
        environment = .ok config := by
      refine (Config.load_congr hp.shape (fun names hnames => ?_) environment).trans hload
      refine hp.untouched names fun file hfile hlocate => hsettings file ?_ names hlocate hnames
      rw [hxs]
      exact List.mem_append_left after hfile
    rw [runCommandLine_of_load hall hload, runCommandLine_of_load hfirst hload, hrun, hrun,
      runCommandLine_of_load hsecond hagain, hrun]
    exact writing_append _ _ module xs ys fs

-- `a.ts` is no file of settings, wherever it is, so that it can be pruned in a run of its own
example (environment : List (String × String)) (fs : FileSystem) :
    let first := runCommandLine ["prune-imports", "--module", "m", "--write", "a.ts"] environment fs
    runCommandLine ["prune-imports", "--module", "m", "--write", "a.ts", "b.ts"] environment fs =
      if first.exit = 0 then
        (runCommandLine ["prune-imports", "--module", "m", "--write", "b.ts"] environment
          first.fs).after first.output
      else first := by
  refine @runCommandLine_append .prune "m" environment fs [⟨"a.ts"⟩] [⟨"b.ts"⟩] _ _ _
    (by decide +kernel) (by decide +kernel) (by decide +kernel) ?_
  intro file hfile names hlocate hsettings
  obtain rfl := List.mem_singleton.1 hfile
  have hsegments : Path.segments "a.ts".toList = [] ++ ["a.ts".toList] := by decide
  have hlast := FileSystem.getLast?_of_locate hsegments (by decide) hlocate
  rcases hsettings.getLast? with h | h <;> simp [hlast] at h

end Command

end Codemod
