import Codemod.Proofs.Files.Lookup

/-!
# Writing a file that can be read

Writing to the path of a file that can be read puts the new content where the names lead, and
nowhere else: every other file keeps its content, no file or directory comes or goes, and so every
path leads where it led.

Results:
* `Tree.SameShape.walk`, `FileSystem.SameShape.locate`: what a walk and a look-up depend on.
* `put_rewrites`: what putting a file in the place of a file does (`Rewrites`).
* `write_rewrites`: a file that can be read can be written, and is written in its place.
-/
namespace Codemod

namespace Tree

def bytes? : Tree → Option (Except Fault ByteArray)
  | .file content => some content
  | .dir _ => none

/-- The content of the file that names lead to, if they lead to one. -/
def content? (t : Tree) (names : List String) : Option (Except Fault ByteArray) :=
  (t.get? names).bind bytes?

theorem content?_eq_some_iff {t : Tree} {names : List String} {content : Except Fault ByteArray} :
    t.content? names = some content ↔ t.get? names = some (.file content) := by
  rw [content?, Option.bind_eq_some_iff]
  constructor
  · rintro ⟨found, hget, hbytes⟩
    cases found with
    | file c => rw [hget, Option.some.inj hbytes]
    | dir entries => cases hbytes
  · exact fun h => ⟨_, h, rfl⟩

/-! ## Shape -/

/-- Two trees have their files and their directories at the same names. -/
def SameShape (t t' : Tree) : Prop := ∀ names, (t'.get? names).map isDir = (t.get? names).map isDir

theorem SameShape.refl (t : Tree) : SameShape t t := fun _ => rfl

theorem SameShape.trans {t t' t'' : Tree} (h : SameShape t t') (h' : SameShape t' t'') :
    SameShape t t'' := fun names => (h' names).trans (h names)

/-- A walk sees only what is a file and what is a directory. -/
theorem SameShape.walk {t t' : Tree} (h : SameShape t t') (names : List String)
    (segments : List (List Char)) : t'.walk names segments = t.walk names segments := by
  induction segments generalizing names with
  | nil => rfl
  | cons segment rest ih =>
    have here := h names
    have below := h (names ++ [String.ofList segment])
    simp only [Tree.walk, ih]
    cases hget : t.get? names with
    | none =>
      rw [hget, Option.map_none, Option.map_eq_none_iff] at here
      rw [here]
    | some found =>
      rw [hget, Option.map_some, Option.map_eq_some_iff] at here
      obtain ⟨found', hget', hkind⟩ := here
      rw [hget']
      cases found with
      | file content =>
        cases found' with
        | file content' => rfl
        | dir entries' => cases hkind
      | dir entries =>
        cases found' with
        | file content' => cases hkind
        | dir entries' =>
          rw [get?_concat hget, get?_concat hget'] at below
          have hsome := congrArg Option.isSome below
          rw [Option.isSome_map, Option.isSome_map] at hsome
          simp only [hsome]

/-! ## Putting a file in the place of a file -/

theorem lookup_setEntry (name other : String) (new : Tree) (entries : List (String × Tree)) :
    (setEntry name new entries).lookup other =
      if other = name then some new else entries.lookup other := by
  induction entries with
  | nil =>
    by_cases h : other = name
    · simp [setEntry, h]
    · simp [setEntry, List.lookup_cons, h, beq_eq_false_iff_ne.2 h]
  | cons e entries ih =>
    obtain ⟨n, t⟩ := e
    by_cases ho : other = n
    · subst ho
      by_cases hn : other = name <;> simp [setEntry, hn]
    · by_cases hn : n = name
      · subst hn
        simp [setEntry, List.lookup_cons, ho, beq_eq_false_iff_ne.2 ho]
      · simp [setEntry, List.lookup_cons, hn, beq_eq_false_iff_ne.2 ho, ih]

/-- A tree that is another one with new bytes in one of its files. -/
structure Rewrites (t t' : Tree) (names : List String) (bytes : ByteArray) : Prop where
  shape : SameShape t t'
  here : t'.content? names = some (.ok bytes)
  elsewhere : ∀ other, other ≠ names → t'.content? other = t.content? other

/-- One step down: the entry of a name is set, and the others are as they were. -/
theorem get?_setEntry (name : String) (new : Tree) (entries : List (String × Tree))
    (first : String) (rest : List String) :
    (Tree.dir (setEntry name new entries)).get? (first :: rest) =
      if first = name then new.get? rest else (Tree.dir entries).get? (first :: rest) := by
  rw [get?_dir, get?_dir, lookup_setEntry]
  split <;> rfl

theorem put_rewrites {t : Tree} {names : List String} {old : Except Fault ByteArray}
    (h : t.get? names = some (.file old)) (bytes : ByteArray) :
    Rewrites t (put (.file (.ok bytes)) names t) names bytes := by
  induction names generalizing t with
  | nil =>
    cases h
    refine ⟨fun names => ?_, rfl, fun other hne => ?_⟩
    · cases names <;> rfl
    · cases other with
      | nil => exact absurd rfl hne
      | cons first rest => rfl
  | cons name names ih =>
    cases t with
    | file content => cases h
    | dir entries =>
      rw [get?_dir, Option.bind_eq_some_iff] at h
      obtain ⟨s, hs, hfound⟩ := h
      obtain ⟨hshape, hhere, helsewhere⟩ := ih hfound
      have hold : ∀ rest, (Tree.dir entries).get? (name :: rest) = s.get? rest := by
        intro rest
        rw [get?_dir, hs, Option.bind_some]
      rw [put, hs, Option.getD_some]
      refine ⟨fun other => ?_, ?_, fun other hne => ?_⟩
      · cases other with
        | nil => rfl
        | cons first rest =>
          rw [get?_setEntry]
          split
          · rename_i hfirst
            rw [hfirst, hold]
            exact hshape rest
          · rfl
      · rw [content?_eq_some_iff] at hhere ⊢
        rw [get?_setEntry, if_pos rfl, hhere]
      · cases other with
        | nil => rfl
        | cons first rest =>
          rw [content?, content?, get?_setEntry]
          split
          · rename_i hfirst
            rw [hfirst, hold]
            exact helsewhere rest fun hrest => hne (by rw [hfirst, hrest])
          · rfl

/-! ## Writing -/

/-- The last step of a walk that ends at a file goes from a directory down to one of its entries. -/
theorem walk_last {t : Tree} {names found : List String} {segment : List Char}
    {old : Except Fault ByteArray} (hw : t.walk names [segment] = .ok found)
    (hfile : t.get? found = some (.file old)) :
    ∃ entries, t.get? names = some (.dir entries) ∧ found = names ++ [String.ofList segment] ∧
      (String.ofList segment == "" || String.ofList segment == "." ||
        String.ofList segment == "..") = false ∧
      ¬ nameLimit < (String.ofList segment).utf8ByteSize := by
  rw [walk] at hw
  split at hw
  · cases hw
  · cases hw
  · rename_i entries hdir
    refine ⟨entries, hdir, ?_⟩
    dsimp only at hw
    split at hw
    · -- an empty segment or a dot stays at the directory
      rw [walk, Except.ok.injEq] at hw
      rw [hw, hfile] at hdir
      cases hdir
    · rename_i hstay
      split at hw
      · -- two dots go to a directory
        rw [walk, Except.ok.injEq] at hw
        obtain ⟨up, hup⟩ := exists_dir_of_get?_dropLast hdir
        rw [hw, hfile] at hup
        cases hup
      · rename_i hup
        split at hw
        · cases hw
        · rename_i hlimit
          split at hw
          · rw [walk, Except.ok.injEq] at hw
            exact ⟨hw.symm, by simp_all, hlimit⟩
          · cases hw

end Tree

namespace FileSystem

/-- Two file systems with the same working directory and trees of the same shape. -/
structure SameShape (fs fs' : FileSystem) : Prop where
  here : fs'.here = fs.here
  tree : fs.tree.SameShape fs'.tree

theorem SameShape.refl (fs : FileSystem) : SameShape fs fs := ⟨rfl, .refl fs.tree⟩

theorem SameShape.trans {fs fs' fs'' : FileSystem} (h : SameShape fs fs')
    (h' : SameShape fs' fs'') : SameShape fs fs'' :=
  ⟨h'.here.trans h.here, h.tree.trans h'.tree⟩

theorem SameShape.locate {fs fs' : FileSystem} (h : SameShape fs fs') (path : Path) :
    fs'.locate path = fs.locate path := by
  have hstart : fs'.start path = fs.start path := by rw [start, start, h.here]
  unfold FileSystem.locate
  rw [hstart]
  exact congrArg _ (funext fun found => h.tree.walk _ found)

/-- A file system that is another one with new bytes in one of its files. -/
structure Rewrites (fs fs' : FileSystem) (names : List String) (bytes : ByteArray) : Prop where
  here : fs'.here = fs.here
  tree : fs.tree.Rewrites fs'.tree names bytes

theorem Rewrites.shape {fs fs' : FileSystem} {names : List String} {bytes : ByteArray}
    (h : Rewrites fs fs' names bytes) : SameShape fs fs' := ⟨h.here, h.tree.shape⟩

/-- A file that can be read can be written, and it is written in its place. -/
theorem write_rewrites {fs : FileSystem} {path : Path} {names : List String} {old : ByteArray}
    (hlocate : fs.locate path = .ok names) (hfile : fs.tree.get? names = some (.file (.ok old)))
    (text : String) :
    ∃ fs', fs.write path text = .ok fs' ∧ Rewrites fs fs' names text.toUTF8 := by
  refine ⟨⟨Tree.put (.file (.ok text.toUTF8)) names fs.tree, fs.here⟩, ?_, rfl,
    Tree.put_rewrites hfile _⟩
  obtain ⟨all, hlookups, hwalk⟩ := locate_eq_ok_iff.1 hlocate
  have hne : all ≠ [] := by
    obtain ⟨-, -, -, rfl⟩ := lookups_eq_ok_iff.1 hlookups
    exact Path.segments_ne_nil _
  rw [← List.dropLast_append_getLast hne, Tree.walk_append] at hwalk
  cases hinit : fs.tree.walk (fs.start path) all.dropLast with
  | error fault => rw [hinit] at hwalk; cases hwalk
  | ok dir =>
    rw [hinit] at hwalk
    obtain ⟨entries, hdir, rfl, hname, hlimit⟩ := Tree.walk_last hwalk hfile
    rw [Tree.get?_concat hdir] at hfile
    have hlast := List.getLast?_eq_some_getLast hne
    simp [write, hlookups, hinit, hdir, hlast, hname, hlimit, hfile, Bind.bind, Except.bind,
      Pure.pure, Except.pure]

end FileSystem

end Codemod
