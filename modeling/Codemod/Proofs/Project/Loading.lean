import Mathlib.Data.List.Forall2
import Codemod.Project
import Codemod.Proofs.Files.Lookup

/-!
# Loading a project

`Project.load` walks a directory once. Which files it has to find is said by `IsProjectFile`, in
terms of the names that lead to a file, of its extension and of the patterns, and what a file
becomes by `Reads` and `Fails`, in terms of what opening it at its path gives and of the text whose
encoding this is. The loop ends at the first directory whose path is too long to be listed
(`foldlM_visit`); else it puts each file that the walk gives into one of two lists
(`foldl_addFound`), so that nothing gets lost and nothing occurs twice.

Results:
* `excludes_eq_ok`, `excludes_eq_error`: the patterns are read all, or up to the first that is
  wrong.
* `mem_visits_filter`: the files that the loop picks are the files of the project.
* `read_spec`: what a file becomes.
* `foldlM_visit`: the loop as a search for a directory that cannot be listed, and a plain loop.
* `foldl_addFound`: the plain loop divides its files.
* `load_divides`: what loading comes to, for patterns that are right and for some that are wrong.
-/
namespace Codemod

/-- What a document is read as keeps its path. -/
theorem Document.path_of_parse {path : Path} {text : String} {options : ParseOptions}
    {d : Document} (h : Document.parse path text options = .ok d) : d.path = path := by
  simp only [Document.parse] at h
  split at h
  · cases h
    rfl
  · cases h

theorem Document.error_of_parse {path : Path} {text : String} {options : ParseOptions} {e : Error}
    (h : Document.parse path text options = .error e) :
    e = .parse path.spelling "Unexpected token" := by
  simp only [Document.parse] at h
  split at h
  · cases h
  · cases h
    rfl

namespace Project

/-! ## Patterns -/

/-- A pattern can be read. -/
def IsPattern (pattern : String) : Prop := ∃ tokens, Glob.parse pattern = .ok tokens

def patternError (pattern : String) (fault : Glob.Fault) : Error :=
  .config s!"Invalid exclude pattern '{pattern}': {fault.message}"

theorem excludes_nil (extensions : List String) : excludes ⟨extensions, []⟩ = .ok [] := rfl

theorem excludes_cons_ok {extensions : List String} {pattern : String} {rest : List String}
    {tokens : List Glob.Token} (h : Glob.parse pattern = .ok tokens) :
    excludes ⟨extensions, pattern :: rest⟩ =
      (excludes ⟨extensions, rest⟩).map (tokens :: ·) := by
  rw [excludes, List.mapM_cons, h]
  change (excludes ⟨extensions, rest⟩).bind (fun more => .ok (tokens :: more)) = _
  cases excludes ⟨extensions, rest⟩ with
  | ok patterns => rfl
  | error e => rfl

theorem excludes_cons_error {extensions : List String} {pattern : String} {rest : List String}
    {fault : Glob.Fault} (h : Glob.parse pattern = .error fault) :
    excludes ⟨extensions, pattern :: rest⟩ = .error (patternError pattern fault) := by
  unfold excludes
  rw [List.mapM_cons, h]
  rfl

/-- Patterns that can be read are read in their order. -/
theorem excludes_eq_ok {config : ProjectConfig} (h : ∀ pattern ∈ config.exclude, IsPattern pattern) :
    ∃ patterns, excludes config = .ok patterns ∧
      List.Forall₂ (fun pattern tokens => Glob.parse pattern = .ok tokens)
        config.exclude patterns := by
  obtain ⟨extensions, exclude⟩ := config
  induction exclude with
  | nil => exact ⟨[], excludes_nil extensions, .nil⟩
  | cons pattern rest ih =>
    obtain ⟨⟨tokens, htokens⟩, hrest⟩ := List.forall_mem_cons.1 h
    obtain ⟨patterns, hpatterns, hall⟩ := ih hrest
    refine ⟨tokens :: patterns, ?_, .cons htokens hall⟩
    rw [excludes_cons_ok htokens, hpatterns]
    rfl

/-- The first pattern that cannot be read is the one that is complained about. -/
theorem excludes_eq_error {extensions before after : List String} {pattern : String}
    {fault : Glob.Fault} (hbefore : ∀ pattern ∈ before, IsPattern pattern)
    (h : Glob.parse pattern = .error fault) :
    excludes ⟨extensions, before ++ pattern :: after⟩ = .error (patternError pattern fault) := by
  induction before with
  | nil => exact excludes_cons_error h
  | cons first before ih =>
    obtain ⟨⟨tokens, htokens⟩, hbefore⟩ := List.forall_mem_cons.1 hbefore
    rw [List.cons_append, excludes_cons_ok htokens, ih hbefore]
    rfl

/-! ## Files of a project -/

theorem hasExtension_iff {path : Path} {extensions : List String} :
    hasExtension path extensions = true ↔ ∃ e ∈ extensions, path.extension = some e := by
  unfold hasExtension
  cases path.extension with
  | none => simp
  | some e => simp

/-- A file that belongs to a project: no hidden directory is on the way to it, it has one of the
extensions, and its names match none of the patterns. -/
structure IsProjectFile (found : Tree) (root : Path) (config : ProjectConfig) (f : Tree.Found) :
    Prop where
  path_eq : f.path = root.below f.names
  isFile : f.tree.isDir = false
  leads : found.LeadsTo hiddenDirs f.names f.tree
  extension : ∃ e ∈ config.extensions, f.path.extension = some e
  included : ∀ pattern ∈ config.exclude, ∀ tokens, Glob.parse pattern = .ok tokens →
    Glob.matchesText tokens (String.intercalate "/" f.names) = false

/-- Is it a file that the loop reads? -/
def picks (config : ProjectConfig) (patterns : List (List Glob.Token)) (f : Tree.Found) : Bool :=
  !f.tree.isDir && isWanted config patterns f

/-- The tokens of the patterns stand for the patterns. -/
theorem any_tokens_eq_false_iff {exclude : List String} {patterns : List (List Glob.Token)}
    (h : List.Forall₂ (fun pattern tokens => Glob.parse pattern = .ok tokens) exclude patterns)
    (text : String) :
    patterns.any (Glob.matchesText · text) = false ↔
      ∀ pattern ∈ exclude, ∀ tokens, Glob.parse pattern = .ok tokens →
        Glob.matchesText tokens text = false := by
  induction h with
  | nil => simp
  | @cons pattern tokens exclude patterns hparse _ ih =>
    rw [List.any_cons, Bool.or_eq_false_iff, ih, List.forall_mem_cons]
    refine and_congr_left fun _ => ⟨fun htokens other hother => ?_, fun hall => hall tokens hparse⟩
    rw [hparse] at hother
    cases hother
    exact htokens

/-- The files that the loop picks from a walk are those of the project. -/
theorem mem_visits_filter {found : Tree} (hwf : found.WellFormed) {config : ProjectConfig}
    {patterns : List (List Glob.Token)}
    (h : List.Forall₂ (fun pattern tokens => Glob.parse pattern = .ok tokens)
      config.exclude patterns) (root : Path) (f : Tree.Found) :
    f ∈ (found.visits hiddenDirs root []).filter (picks config patterns) ↔
      IsProjectFile found root config f := by
  rw [List.mem_filter, Tree.mem_visits hwf, picks, isWanted, Bool.and_eq_true, Bool.and_eq_true,
    Bool.not_eq_true', Bool.not_eq_true', hasExtension_iff, any_tokens_eq_false_iff h]
  simp only [List.nil_append, ↓existsAndEq, true_and]
  constructor
  · rintro ⟨⟨hpath, hleads⟩, hfile, hextension, hincluded⟩
    exact ⟨hpath, hfile, hleads, hextension, hincluded⟩
  · rintro ⟨hpath, hfile, hleads, hextension, hincluded⟩
    exact ⟨⟨hpath, hleads⟩, hfile, hextension, hincluded⟩

/-- The files that the loop picks are in the order of the walk, and no two have the same path. -/
theorem pairwise_visits_filter {found : Tree} (hwf : found.WellFormed) (config : ProjectConfig)
    (patterns : List (List Glob.Token)) (root : Path) :
    ((found.visits hiddenDirs root []).filter (picks config patterns)).Pairwise fun f g =>
      Tree.WalkBefore f.names g.names ∧ f.path.same g.path = false :=
  ((Tree.visits_sorted hwf hiddenDirs root []).and
    (Tree.visits_paths hwf hiddenDirs root [])).sublist List.filter_sublist

/-- What a walk comes to can be read by its path as far as it can be opened. -/
theorem readBytes_visits {fs : FileSystem} (hwf : fs.tree.WellFormed) {root : Path} {found : Tree}
    (hroot : fs.resolve root = .ok found) {f : Tree.Found}
    (hf : f ∈ found.visits hiddenDirs root []) : fs.readBytes f.path = f.opened := by
  obtain ⟨place, hlocate, hget⟩ := FileSystem.resolve_eq_ok_iff.1 hroot
  obtain ⟨names, hnames, hpath, hleads, -⟩ := (Tree.mem_visits (hwf.get? hget).1 root [] f).1 hf
  rw [List.nil_append] at hnames
  subst hnames
  exact FileSystem.readBytes_found hwf hlocate hget hpath hleads

/-! ## What a file becomes -/

/-- The file can be opened and is the encoding of a text that can be parsed, and this is its
document. -/
def Reads (options : ParseOptions) (f : Tree.Found) (d : Document) : Prop :=
  ∃ text : String, f.opened = .ok text.toUTF8 ∧ Document.parse f.path text options = .ok d

/-- The file cannot be opened, or is no encoding of a text, or of one that cannot be parsed, and
this is the error. -/
def Fails (options : ParseOptions) (f : Tree.Found) (e : Error) : Prop :=
  (∃ fault, f.opened = .error fault ∧ e = .access fault.text none) ∨
    (∃ bytes, f.opened = .ok bytes ∧ ¬ bytes.IsValidUTF8 ∧
      e = .access "stream did not contain valid UTF-8" none) ∨
    ∃ text : String, f.opened = .ok text.toUTF8 ∧
      (∀ d, Document.parse f.path text options ≠ .ok d) ∧
      e = .parse f.path.spelling "Unexpected token"

section
variable {fs : FileSystem} {path : Path} {options : ParseOptions}

theorem read_of_error {fault : Fault} (h : fs.readBytes path = .error fault) :
    Document.read fs path options = .error fault.error := by
  simp only [Document.read, FileSystem.readText, h, Bind.bind, Except.bind]

theorem read_of_text {text : String} (h : fs.readBytes path = .ok text.toUTF8) :
    Document.read fs path options = Document.parse path text options := by
  simp only [Document.read, FileSystem.readText, h, Bind.bind, Except.bind,
    Utf8.decode_eq_ok_iff.2 rfl]

theorem read_of_not_valid {bytes : ByteArray} (h : fs.readBytes path = .ok bytes)
    (hvalid : ¬ bytes.IsValidUTF8) : Document.read fs path options = .error Fault.notText.error := by
  cases hdecode : Utf8.decode bytes.toList with
  | ok text => exact absurd (Utf8.exists_decode_iff.1 ⟨text, hdecode⟩) hvalid
  | error fault => simp only [Document.read, FileSystem.readText, h, Bind.bind, Except.bind, hdecode]

end

/-- A file is the encoding of a text, or it is not valid. -/
theorem exists_text_or (bytes : ByteArray) :
    (∃ text : String, bytes = text.toUTF8) ∨ ¬ bytes.IsValidUTF8 := by
  by_cases h : bytes.IsValidUTF8
  · obtain ⟨text, htext⟩ := Utf8.exists_decode_iff.2 h
    exact .inl ⟨text, (Utf8.decode_eq_ok_iff.1 htext).symm⟩
  · exact .inr h

/-- Reading a file gives a document of it or a failure. -/
theorem read_spec {fs : FileSystem} {f : Tree.Found} (options : ParseOptions)
    (h : fs.readBytes f.path = f.opened) :
    match Document.read fs f.path options with
    | .ok d => Reads options f d
    | .error e => Fails options f e := by
  cases hopened : f.opened with
  | error fault =>
    rw [read_of_error (h.trans hopened)]
    exact .inl ⟨fault, hopened, rfl⟩
  | ok bytes =>
    obtain ⟨text, rfl⟩ | hvalid := exists_text_or bytes
    · rw [read_of_text (h.trans hopened)]
      cases hparse : Document.parse f.path text options with
      | ok d => exact ⟨text, hopened, hparse⟩
      | error e =>
        refine .inr (.inr ⟨text, hopened, fun d hd => ?_, Document.error_of_parse hparse⟩)
        rw [hparse] at hd
        cases hd
    · rw [read_of_not_valid (h.trans hopened) hvalid]
      exact .inr (.inl ⟨bytes, hopened, hvalid, rfl⟩)

theorem Reads.path_eq {options : ParseOptions} {f : Tree.Found} {d : Document}
    (h : Reads options f d) : d.path = f.path := by
  obtain ⟨text, -, hparse⟩ := h
  exact Document.path_of_parse hparse

/-- No file is both read and left out. -/
theorem Reads.not_fails {options : ParseOptions} {f : Tree.Found} {d : Document} {e : Error}
    (h : Reads options f d) : ¬ Fails options f e := by
  obtain ⟨text, hopened, hparse⟩ := h
  have hdecode : Utf8.decode text.toUTF8.toList = .ok text := Utf8.decode_eq_ok_iff.2 rfl
  rintro (⟨fault, hfault, -⟩ | ⟨bytes, hbytes, hvalid, -⟩ | ⟨other, hother, hnone, -⟩)
  · rw [hopened] at hfault
    cases hfault
  · rw [hopened, Except.ok.injEq] at hbytes
    exact hvalid (Utf8.exists_decode_iff.1 ⟨text, hbytes ▸ hdecode⟩)
  · rw [hopened, Except.ok.injEq] at hother
    rw [Utf8.decode_eq_ok_iff.2 hother.symm, Except.ok.injEq] at hdecode
    exact hnone d (hdecode ▸ hparse)

/-! ## The loop -/

/-- Files divided into those that are read, which give the documents of a project, and the others,
which it has skipped. Both parts are in the order of the files. -/
structure Divides (options : ParseOptions) (files read unread : List Tree.Found) (p : Project) :
    Prop where
  read_sublist : read.Sublist files
  unread_sublist : unread.Sublist files
  /-- Each file is in one of the two parts, as often as it is in the files. -/
  perm : (read ++ unread).Perm files
  documents : List.Forall₂ (Reads options) read p.documents
  skipped : List.Forall₂ (fun f s => s.1 = f.path ∧ Fails options f s.2) unread p.skipped

theorem exists_of_forall₂ {α β : Type} {R : α → β → Prop} {as : List α} {bs : List β}
    (h : List.Forall₂ R as bs) : ∀ a ∈ as, ∃ b, R a b := by
  have hboth : List.Forall₂ (fun a b => (∃ b, R a b) ∧ R a b) as bs :=
    h.imp fun _ b hb => ⟨⟨b, hb⟩, hb⟩
  exact ((List.forall₂_and_left as bs).1 hboth).1

/-- A file is read exactly when it can be. -/
theorem Divides.mem_read_iff {options : ParseOptions} {files read unread : List Tree.Found}
    {p : Project} (h : Divides options files read unread p) {f : Tree.Found} (hf : f ∈ files) :
    f ∈ read ↔ ∃ d, Reads options f d := by
  constructor
  · exact exists_of_forall₂ h.documents f
  · rintro ⟨d, hd⟩
    obtain hread | hunread := List.mem_append.1 (h.perm.mem_iff.2 hf)
    · exact hread
    · obtain ⟨s, -, hs⟩ := exists_of_forall₂ h.skipped f hunread
      exact absurd hs hd.not_fails

/-- The documents have the paths of the files that are read. -/
theorem Divides.paths_eq {options : ParseOptions} {files read unread : List Tree.Found}
    {p : Project} (h : Divides options files read unread p) :
    read.map (·.path) = p.documents.map (·.path) := by
  have hpaths : List.Forall₂ (fun f d => f.path = d.path) read p.documents :=
    h.documents.imp fun _ _ hd => hd.path_eq.symm
  rw [← List.forall₂_eq_eq_eq, List.forall₂_map_left_iff, List.forall₂_map_right_iff]
  exact hpaths

/-- One round of the loop puts one more file in front of the part that it belongs to. -/
theorem foldl_addFound {fs : FileSystem} (options : ParseOptions) {files : List Tree.Found}
    (hfiles : ∀ f ∈ files, fs.readBytes f.path = f.opened) (p : Project) :
    ∃ read unread rest, Divides options files read unread rest ∧
      files.foldl (addFound fs options) p =
        ⟨p.documents ++ rest.documents, p.skipped ++ rest.skipped⟩ := by
  induction files generalizing p with
  | nil => exact ⟨[], [], empty, ⟨.slnil, .slnil, .nil, .nil, .nil⟩, by simp [empty]⟩
  | cons f files ih =>
    rw [List.forall_mem_cons] at hfiles
    obtain ⟨read, unread, rest, hdiv, hfold⟩ := ih hfiles.2 (addFound fs options p f)
    have hspec := read_spec options hfiles.1
    rw [List.foldl_cons, hfold]
    cases hread : Document.read fs f.path options with
    | ok d =>
      rw [hread] at hspec
      refine ⟨f :: read, unread, ⟨d :: rest.documents, rest.skipped⟩, ⟨?_, ?_, ?_, ?_, ?_⟩, ?_⟩
      · exact hdiv.read_sublist.cons_cons f
      · exact hdiv.unread_sublist.cons f
      · exact hdiv.perm.cons f
      · exact .cons hspec hdiv.documents
      · exact hdiv.skipped
      · simp [addFound, hread]
    | error e =>
      rw [hread] at hspec
      refine ⟨read, f :: unread, ⟨rest.documents, (f.path, e) :: rest.skipped⟩,
        ⟨?_, ?_, ?_, ?_, ?_⟩, ?_⟩
      · exact hdiv.read_sublist.cons f
      · exact hdiv.unread_sublist.cons_cons f
      · exact List.perm_middle.trans (hdiv.perm.cons f)
      · exact hdiv.documents
      · exact .cons ⟨rfl, hspec⟩ hdiv.skipped
      · simp [addFound, hread]

/-- Is it a directory that cannot be listed? -/
def isUnlisted (f : Tree.Found) : Bool := f.tree.isDir && f.path.isTooLong

/-- The loop ends at the first directory that cannot be listed. Where there is none it goes over the
files that it picks. -/
theorem foldlM_visit (fs : FileSystem) (config : ProjectConfig) (patterns : List (List Glob.Token))
    (options : ParseOptions) (visits : List Tree.Found) (p : Project) :
    visits.foldlM (visit fs config patterns options) p =
      match visits.find? isUnlisted with
      | some dir => .error (walkError dir.path .nameTooLong)
      | none => .ok ((visits.filter (picks config patterns)).foldl (addFound fs options) p) := by
  induction visits generalizing p with
  | nil => rfl
  | cons f visits ih =>
    rw [List.foldlM_cons, List.find?_cons, List.filter_cons]
    cases hdir : f.tree.isDir with
    | true =>
      cases hlong : f.path.isTooLong with
      | true => simp [visit, isUnlisted, hdir, hlong, Bind.bind, Except.bind]
      | false => simp [visit, isUnlisted, picks, hdir, hlong, Bind.bind, Except.bind, ih]
    | false =>
      cases hwanted : isWanted config patterns f with
      | true => simp [visit, isUnlisted, picks, hdir, hwanted, Bind.bind, Except.bind, ih]
      | false => simp [visit, isUnlisted, picks, hdir, hwanted, Bind.bind, Except.bind, ih]

/-- Every directory that the walk of a tree comes to has a path that can be listed. -/
def Listable (found : Tree) (root : Path) : Prop :=
  ∀ names entries, found.LeadsTo hiddenDirs names (.dir entries) →
    (root.below names).isTooLong = false

theorem find?_isUnlisted_eq_none {found : Tree} {root : Path} (hwf : found.WellFormed) :
    (found.visits hiddenDirs root []).find? isUnlisted = none ↔ Listable found root := by
  rw [List.find?_eq_none]
  constructor
  · intro h names entries hleads
    have hmem := (Tree.mem_visits hwf root [] ⟨root.below names, names, .dir entries⟩).2
      ⟨names, rfl, rfl, hleads⟩
    simpa [isUnlisted, Tree.isDir] using h _ hmem
  · rintro h ⟨path, names, tree⟩ hf
    obtain ⟨below, hnames, hpath, hleads⟩ := (Tree.mem_visits hwf root [] _).1 hf
    cases tree with
    | file content => simp [isUnlisted, Tree.isDir]
    | dir entries =>
      have hshort := h below entries hleads
      rw [← hpath] at hshort
      simp [isUnlisted, hshort]

theorem listable_file (content : Except Fault ByteArray) (root : Path) :
    Listable (.file content) root := by
  intro names entries hleads
  cases (Tree.leadsTo_file.1 hleads).2

/-- A directory can be walked when it can be listed and its entries can be walked. -/
theorem listable_dir {entries : List (String × Tree)} (unique : (entries.map Prod.fst).Nodup)
    {root : Path} :
    Listable (.dir entries) root ↔
      root.isTooLong = false ∧ ∀ e ∈ entries, (e.2.isDir = true → e.1 ∉ hiddenDirs) →
        Listable e.2 (root.child e.1) := by
  constructor
  · intro h
    refine ⟨h [] entries (Tree.leadsTo_nil.2 rfl), fun e he hshown names below hleads => ?_⟩
    refine h (e.1 :: names) below ((Tree.leadsTo_dir unique).2 (.inr ⟨e, ?_, names, rfl, hleads⟩))
    exact Tree.mem_shown.2 ⟨he, hshown⟩
  · rintro ⟨hshort, hbelow⟩ names below hleads
    obtain ⟨rfl, -⟩ | ⟨e, he, rest, rfl, hrest⟩ := (Tree.leadsTo_dir unique).1 hleads
    · exact hshort
    · obtain ⟨hmem, hshown⟩ := Tree.mem_shown.1 he
      exact hbelow e hmem hshown rest below hrest

section
variable {fs : FileSystem} {root : Path} {config : ProjectConfig} {options : ParseOptions}
  {patterns : List (List Glob.Token)} {found : Tree}

theorem load_of_pattern_error {e : Error} (h : excludes config = .error e) :
    load fs root config options = .error e := by
  unfold load
  rw [h]
  rfl

/-- With the patterns and the directory, loading comes to the loop. -/
theorem load_eq_loop (hpatterns : excludes config = .ok patterns)
    (hroot : fs.resolve root = .ok found) :
    load fs root config options =
      (found.visits hiddenDirs root []).foldlM (visit fs config patterns options) empty := by
  unfold load
  rw [hpatterns]
  simp only [Bind.bind, Except.bind, hroot]

/-- Where all directories can be listed, loading comes to the plain loop. -/
theorem load_of_listable (hpatterns : excludes config = .ok patterns) (hwf : found.WellFormed)
    (hroot : fs.resolve root = .ok found) (hlist : Listable found root) :
    load fs root config options =
      .ok (((found.visits hiddenDirs root []).filter (picks config patterns)).foldl
        (addFound fs options) empty) := by
  rw [load_eq_loop hpatterns hroot, foldlM_visit, (find?_isUnlisted_eq_none hwf).2 hlist]

/-- A project that is loaded has come from the plain loop. -/
theorem exists_loop_of_load {p : Project} (h : load fs root config options = .ok p) :
    ∃ patterns found, fs.resolve root = .ok found ∧
      ((found.visits hiddenDirs root []).filter (picks config patterns)).foldl
        (addFound fs options) empty = p := by
  cases hpatterns : excludes config with
  | error e => rw [load_of_pattern_error hpatterns] at h; cases h
  | ok patterns =>
    cases hroot : fs.resolve root with
    | error fault =>
      unfold load at h
      rw [hpatterns] at h
      simp only [Bind.bind, Except.bind, hroot] at h
      cases h
    | ok found =>
      refine ⟨patterns, found, rfl, ?_⟩
      rw [load_eq_loop hpatterns hroot, foldlM_visit] at h
      split at h
      · cases h
      · exact Except.ok.inj h

end

/-- The plain loop divides the files that it picks from the walk. -/
theorem divides_loop {fs : FileSystem} (hwf : fs.tree.WellFormed) {root : Path} {found : Tree}
    (hroot : fs.resolve root = .ok found) (config : ProjectConfig)
    (patterns : List (List Glob.Token)) (options : ParseOptions) :
    ∃ read unread p, Divides options
        ((found.visits hiddenDirs root []).filter (picks config patterns)) read unread p ∧
      ((found.visits hiddenDirs root []).filter (picks config patterns)).foldl
        (addFound fs options) empty = p := by
  have hfiles : ∀ f ∈ (found.visits hiddenDirs root []).filter (picks config patterns),
      fs.readBytes f.path = f.opened :=
    fun f hf => readBytes_visits hwf hroot (List.mem_of_mem_filter hf)
  obtain ⟨read, unread, p, hdiv, hfold⟩ := foldl_addFound options hfiles empty
  refine ⟨read, unread, p, hdiv, hfold.trans ?_⟩
  simp [empty]

/-! ## All of it -/

/-- With patterns that can all be read, and where the walk can list all directories that it comes
to, the files of the project that a directory holds are divided between the documents and the
skipped ones: nothing else is in them, nothing twice, both are in the order of the walk, and a file
is a document exactly when it can be opened, decoded and parsed. Otherwise the first pattern that
cannot be read is complained about, whatever the files are. -/
theorem load_divides (config : ProjectConfig) (options : ParseOptions) :
    ((∀ pattern ∈ config.exclude, IsPattern pattern) →
      ∀ (fs : FileSystem) (found : Tree) (root : Path), fs.tree.WellFormed →
        fs.resolve root = .ok found → Listable found root →
        ∃ p files read unread, load fs root config options = .ok p ∧
          (∀ f, f ∈ files ↔ IsProjectFile found root config f) ∧
          (files.Pairwise fun f g =>
            Tree.WalkBefore f.names g.names ∧ f.path.same g.path = false) ∧
          Divides options files read unread p ∧
          ∀ f ∈ files, f ∈ read ↔ ∃ d, Reads options f d) ∧
    ∀ before pattern after fault, config.exclude = before ++ pattern :: after →
      (∀ earlier ∈ before, IsPattern earlier) → Glob.parse pattern = .error fault →
      ∀ fs root, load fs root config options = .error (patternError pattern fault) := by
  refine ⟨fun hpatterns fs found root hwf hroot hlist => ?_, ?_⟩
  · obtain ⟨patterns, hexcludes, hall⟩ := excludes_eq_ok hpatterns
    have hfound := FileSystem.wellFormed_of_resolve hwf hroot
    obtain ⟨read, unread, p, hdiv, hloop⟩ := divides_loop hwf hroot config patterns options
    refine ⟨p, _, read, unread, ?_, mem_visits_filter hfound hall root,
      pairwise_visits_filter hfound config patterns root, hdiv, fun f hf => hdiv.mem_read_iff hf⟩
    rw [load_of_listable hexcludes hfound hroot hlist, hloop]
  · intro before pattern after fault hexclude hbefore hfault fs root
    obtain ⟨extensions, exclude⟩ := config
    cases hexclude
    exact load_of_pattern_error (excludes_eq_error hbefore hfault)

/-- A directory with a text, a file that is none, one that cannot be read, a directory that a
pattern excludes and one that is hidden. -/
def sampleApp : Tree :=
  .dir [("main.ts", .file (.ok "".toUTF8)), ("broken.ts", .file (.ok ⟨#[0xff]⟩)),
    ("locked.ts", .file (.error .denied)), ("gen", .dir [("a.ts", .file (.ok "".toUTF8))]),
    ("node_modules", .dir [("lib.ts", .file (.ok "".toUTF8))])]

/-- The sample in a home directory, where the work is done. -/
def sampleSystem : FileSystem := ⟨.dir [("home", .dir [("app", sampleApp)])], ["home"]⟩

theorem wellFormed_sample : sampleSystem.tree.WellFormed := by
  simp only [sampleSystem, sampleApp, Tree.wellFormed_dir_iff, List.forall_mem_cons,
    List.not_mem_nil, false_implies, implies_true, and_true, Tree.WellFormed.file]
  decide

theorem resolve_sample : sampleSystem.resolve ⟨"app"⟩ = .ok sampleApp := by
  have hlookups : Path.lookups ⟨"app"⟩ = .ok [['a', 'p', 'p']] := by decide +kernel
  rw [FileSystem.resolve, FileSystem.locate, hlookups]
  rfl

theorem resolve_sample_absolute : sampleSystem.resolve ⟨"/home/app"⟩ = .ok sampleApp := by
  have hlookups : Path.lookups ⟨"/home/app"⟩ = .ok [[], "home".toList, "app".toList] := by
    decide +kernel
  rw [FileSystem.resolve, FileSystem.locate, hlookups]
  rfl

theorem listable_sample {root : Path} (hroot : root.isTooLong = false)
    (hgen : (root.child "gen").isTooLong = false) : Listable sampleApp root := by
  refine (listable_dir (by decide)).2 ⟨hroot, ?_⟩
  simp only [List.forall_mem_cons, List.not_mem_nil, false_implies, implies_true, and_true,
    listable_file, true_and]
  refine ⟨fun _ => (listable_dir (by decide)).2 ⟨hgen, ?_⟩, fun hhidden => ?_⟩
  · simp [listable_file]
  · exact absurd (by decide) (hhidden rfl)

theorem load_divides_sample :
    (∃ p files read unread,
      load sampleSystem ⟨"/home/app"⟩ ⟨["ts"], ["gen/*"]⟩ .default = .ok p ∧
        (∀ f, f ∈ files ↔ IsProjectFile sampleApp ⟨"/home/app"⟩ ⟨["ts"], ["gen/*"]⟩ f) ∧
        (files.Pairwise fun f g =>
          Tree.WalkBefore f.names g.names ∧ f.path.same g.path = false) ∧
        Divides .default files read unread p ∧
        ∀ f ∈ files, f ∈ read ↔ ∃ d, Reads .default f d) ∧
    ∀ fs root, load fs root ⟨["ts"], ["gen/*", "a**", "***"]⟩ .default =
      .error (patternError "a**" ⟨0, .component⟩) := by
  have hgen : IsPattern "gen/*" :=
    ⟨[.char 'g', .char 'e', .char 'n', .char '/', .run], by decide⟩
  constructor
  · exact (load_divides ⟨["ts"], ["gen/*"]⟩ .default).1 (by simpa using hgen) _ _ _
      wellFormed_sample resolve_sample_absolute
      (listable_sample (by decide +kernel) (by decide +kernel))
  · exact (load_divides ⟨["ts"], ["gen/*", "a**", "***"]⟩ .default).2 ["gen/*"] "a**" ["***"] _ rfl
      (by simpa using hgen) (by decide)

/-! ## A path that is too long -/

/-- The working directory, spelled with slashes behind the dot. -/
def dotSlashes (n : Nat) : Path := ⟨String.ofList ('.' :: List.replicate n '/')⟩

theorem size_dotSlashes (n : Nat) : (dotSlashes n).spelling.utf8ByteSize = n + 1 := by
  unfold dotSlashes
  induction n with
  | zero => rfl
  | succ n ih =>
    rw [List.replicate_succ', ← List.cons_append, String.ofList_append, String.utf8ByteSize_append,
      ih]
    rfl

theorem isTooLong_dotSlashes (n : Nat) : (dotSlashes n).isTooLong = decide (pathLimit ≤ n + 1) := by
  rw [Path.isTooLong, size_dotSlashes]

theorem segments_slashes (n : Nat) :
    Path.segments (List.replicate n '/') = List.replicate (n + 1) [] := by
  induction n with
  | zero => rfl
  | succ n ih => rw [List.replicate_succ, Path.segments, ih, ← List.replicate_succ]

/-- However many slashes there are, the path leads to the working directory, unless it is too
long. -/
theorem resolve_dotSlashes {fs : FileSystem} {entries : List (String × Tree)}
    (h : fs.tree.get? fs.here = some (.dir entries)) {n : Nat} (hn : n + 1 < pathLimit) :
    fs.resolve (dotSlashes n) = .ok (.dir entries) := by
  have hstay : ∀ m, fs.tree.walk fs.here (List.replicate m []) = .ok fs.here := by
    intro m
    induction m with
    | zero => rfl
    | succ m ih => simpa [List.replicate_succ, Tree.walk, h] using ih
  have hspelling : (dotSlashes n).spelling.toList = '.' :: List.replicate n '/' :=
    String.toList_ofList
  have hsegments := Path.segments_cons (c := '.') (by decide)
    ((segments_slashes n).trans List.replicate_succ)
  refine FileSystem.resolve_eq_ok_iff.2 ⟨fs.here, FileSystem.locate_eq_ok_iff.2 ⟨_,
    FileSystem.lookups_eq_ok_iff.2 ⟨?_, ?_, ?_, rfl⟩, ?_⟩, h⟩
  · simp [hspelling, List.mem_replicate]
  · rw [isTooLong_dotSlashes, decide_eq_false_iff_not, Nat.not_le]
    exact hn
  · exact fun hempty => by simp [hempty] at hspelling
  · have hstart : fs.start (dotSlashes n) = fs.here := by
      simp [FileSystem.start, Path.isAbsolute, hspelling]
    rw [hstart, hspelling, hsegments]
    simpa [Tree.walk, h] using hstay n

/-- The path of an entry has the bytes of its directory's path and of its name, and maybe a
slash. -/
theorem isTooLong_child_dotSlashes {n : Nat} {name : String}
    (h : pathLimit ≤ n + 1 + name.utf8ByteSize) : ((dotSlashes n).child name).isTooLong = true := by
  rw [Path.isTooLong, decide_eq_true_iff, Path.child]
  split
  · rw [String.utf8ByteSize_append, size_dotSlashes]
    exact h
  · rw [String.utf8ByteSize_append, String.utf8ByteSize_append, size_dotSlashes]
    omega

theorem zero_notMem_child_dotSlashes (n : Nat) {name : String} (h : '\x00' ∉ name.toList) :
    '\x00' ∉ ((dotSlashes n).child name).spelling.toList := by
  rw [Path.child]
  split <;> simp [dotSlashes, h]

/-- A working directory with one file, which is empty. -/
def loneSystem : FileSystem := ⟨.dir [("a.ts", .file (.ok "".toUTF8))], []⟩

theorem wellFormed_lone : loneSystem.tree.WellFormed := by
  simp only [loneSystem, Tree.wellFormed_dir_iff, List.forall_mem_cons, List.not_mem_nil,
    false_implies, implies_true, and_true, Tree.WellFormed.file]
  decide

/-- A file whose path is too long is found and skipped. -/
theorem load_lone {root : Path} (hroot : loneSystem.resolve root = .ok loneSystem.tree)
    (hlist : Listable loneSystem.tree root) (hzero : '\x00' ∉ (root.child "a.ts").spelling.toList)
    (hlong : (root.child "a.ts").isTooLong = true) (options : ParseOptions) :
    load loneSystem root ⟨["ts"], []⟩ options =
      .ok ⟨[], [(root.child "a.ts", Fault.nameTooLong.error)]⟩ := by
  have hread : Document.read loneSystem (root.child "a.ts") options =
      .error Fault.nameTooLong.error :=
    read_of_error (FileSystem.readBytes_of_tooLong hzero hlong _)
  have hextension : (root.child "a.ts").extension = some "ts" := by
    rw [Path.extension_child root (by decide)]
    decide
  have hvisits : loneSystem.tree.visits hiddenDirs root [] =
      [⟨root, [], loneSystem.tree⟩, ⟨root.child "a.ts", ["a.ts"], .file (.ok "".toUTF8)⟩] := by
    simp [loneSystem, Tree.visits, Tree.visitsIn, Tree.isDir]
  have hdir : picks ⟨["ts"], []⟩ [] ⟨root, [], loneSystem.tree⟩ = false := rfl
  have hfile : picks ⟨["ts"], []⟩ []
      ⟨root.child "a.ts", ["a.ts"], .file (.ok "".toUTF8)⟩ = true := by
    simp [picks, isWanted, hasExtension, hextension, Tree.isDir]
  rw [load_of_listable (excludes_nil _) wellFormed_lone hroot hlist, hvisits, List.filter_cons,
    hdir, List.filter_cons, hfile]
  simp [addFound, hread, empty]

/-- The working directory, spelled with nearly as many bytes as a path may have. -/
def longRoot : Path := dotSlashes 4093

/-- A file in a directory that can be listed, with bytes that are a text and can be parsed, is no
document: its path is too long to open it. -/
theorem load_skips_too_long :
    loneSystem.tree.WellFormed ∧ loneSystem.resolve longRoot = .ok loneSystem.tree ∧
      Listable loneSystem.tree longRoot ∧
      (∃ d, Document.parse (longRoot.child "a.ts") "" .default = .ok d) ∧
      load loneSystem longRoot ⟨["ts"], []⟩ .default =
        .ok ⟨[], [(longRoot.child "a.ts", .access "File name too long (os error 36)" none)]⟩ := by
  have hroot : loneSystem.resolve longRoot = .ok loneSystem.tree :=
    resolve_dotSlashes rfl (by decide)
  have hlist : Listable loneSystem.tree longRoot := by
    refine (listable_dir (by decide)).2 ⟨?_, by simp [listable_file]⟩
    rw [longRoot, isTooLong_dotSlashes]
    decide
  exact ⟨wellFormed_lone, hroot, hlist, ⟨_, rfl⟩,
    load_lone hroot hlist (zero_notMem_child_dotSlashes _ (by decide))
      (isTooLong_child_dotSlashes (by decide)) _⟩

end Project

end Codemod
