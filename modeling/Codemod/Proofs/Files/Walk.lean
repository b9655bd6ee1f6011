import Codemod.Files.Tree
import Codemod.Proofs.Files.Paths
import Codemod.Proofs.Text.Utf8

/-!
# Walking a tree of files

`Tree.visits` lists a tree depth first. What it lists is said here by `Tree.get?`, which goes down
name by name and knows nothing of the walk: something is listed exactly when names lead to it and no
directory among them is hidden.

A directory of a file system has each name once and only names that a path can have
(`Tree.WellFormed`). Then the list is in the order of the names from the top down, name by name in
the order of their bytes, and no path occurs twice.

Results:
* `lookup_eq_some_iff`: in a directory with each name once, looking up is membership.
* `mem_visits`: what is listed, and with which names and path.
* `visits_sorted`: in which order.
* `visits_paths`: no two of it have the same path.
-/
namespace Codemod.Tree

/-- A tree as a file system can hold it: a directory has each name once, and only names that a path
can have. -/
inductive WellFormed : Tree → Prop
  | file (content : Except Fault ByteArray) : WellFormed (.file content)
  | dir {entries : List (String × Tree)} (unique : (entries.map Prod.fst).Nodup)
      (names : ∀ e ∈ entries, Path.IsName e.1) (below : ∀ e ∈ entries, WellFormed e.2) :
      WellFormed (.dir entries)

theorem wellFormed_dir_iff {entries : List (String × Tree)} :
    (Tree.dir entries).WellFormed ↔
      (entries.map Prod.fst).Nodup ∧ ∀ e ∈ entries, Path.IsName e.1 ∧ e.2.WellFormed := by
  constructor
  · rintro (_ | ⟨unique, names, below⟩)
    exact ⟨unique, fun e he => ⟨names e he, below e he⟩⟩
  · rintro ⟨unique, hall⟩
    exact .dir unique (fun e he => (hall e he).1) fun e he => (hall e he).2

/-! ## Going down -/

theorem lookup_eq_some_iff {entries : List (String × Tree)} (h : (entries.map Prod.fst).Nodup)
    {name : String} {t : Tree} : entries.lookup name = some t ↔ (name, t) ∈ entries := by
  induction entries with
  | nil => simp
  | cons e entries ih =>
    obtain ⟨n, s⟩ := e
    rw [List.map_cons, List.nodup_cons] at h
    by_cases hn : name = n
    · subst hn
      have hnot : (name, t) ∉ entries := fun hmem => h.1 (List.mem_map.2 ⟨_, hmem, rfl⟩)
      simp [hnot, eq_comm]
    · have hne : (name == n) = false := beq_eq_false_iff_ne.2 hn
      simp [List.lookup_cons, hne, ih h.2, hn]

@[simp] theorem get?_nil (t : Tree) : t.get? [] = some t := rfl

theorem get?_dir (entries : List (String × Tree)) (name : String) (names : List String) :
    (Tree.dir entries).get? (name :: names) = (entries.lookup name).bind (get? names) := rfl

@[simp] theorem get?_file (content : Except Fault ByteArray) (name : String)
    (names : List String) : (Tree.file content).get? (name :: names) = none := rfl

/-- Names that lead to a file from a directory are at least one. -/
theorem isDir_iff_of_get? {t : Tree} {names : List String} {content : Except Fault ByteArray}
    (h : t.get? names = some (.file content)) : t.isDir = true ↔ names ≠ [] := by
  cases names with
  | nil =>
    cases h
    exact iff_of_false (by simp [isDir]) (by simp)
  | cons name names =>
    cases t with
    | file content => cases h
    | dir entries => exact iff_of_true rfl (by simp)

/-- Only a directory holds a directory. -/
theorem isDir_of_get?_dir {t : Tree} {names : List String} {entries : List (String × Tree)}
    (h : t.get? names = some (.dir entries)) : t.isDir = true := by
  cases t with
  | file content => cases names <;> cases h
  | dir entries => rfl

/-- What a tree holds is well formed, and is reached by names that a path can have. -/
theorem WellFormed.get? {t found : Tree} (hwf : t.WellFormed) {names : List String}
    (h : t.get? names = some found) : found.WellFormed ∧ ∀ name ∈ names, Path.IsName name := by
  induction names generalizing t with
  | nil =>
    cases h
    exact ⟨hwf, by simp⟩
  | cons name names ih =>
    cases hwf with
    | file content => cases h
    | dir unique hnames hbelow =>
      rw [get?_dir, Option.bind_eq_some_iff] at h
      obtain ⟨t, hlookup, ht⟩ := h
      have hmem := (lookup_eq_some_iff unique).1 hlookup
      obtain ⟨hfound, hrest⟩ := ih (hbelow _ hmem) ht
      exact ⟨hfound, List.forall_mem_cons.2 ⟨hnames _ hmem, hrest⟩⟩

/-! ## Entries that are walked -/

/-- The entries of a directory that are not hidden. -/
def shown (hidden : List String) (entries : List (String × Tree)) : List (String × Tree) :=
  entries.filter fun e => !(e.2.isDir && hidden.contains e.1)

theorem visitsIn_eq (hidden : List String) (path : Path) (names : List String)
    (entries : List (String × Tree)) :
    visitsIn hidden path names entries =
      (shown hidden entries).map fun e =>
        (e.1, visits hidden (path.child e.1) (names ++ [e.1]) e.2) := by
  induction entries with
  | nil => rfl
  | cons e entries ih =>
    rw [visitsIn, shown, List.filter_cons]
    cases e.2.isDir && hidden.contains e.1 with
    | true => exact ih
    | false => exact congrArg (_ :: ·) ih

/-- A walk comes to the directory itself and to what it comes to in the entries that are walked. -/
theorem mem_visits_dir {hidden : List String} {path : Path} {names : List String}
    {entries : List (String × Tree)} {f : Found} :
    f ∈ visits hidden path names (.dir entries) ↔
      f = ⟨path, names, .dir entries⟩ ∨
        ∃ e ∈ shown hidden entries, f ∈ visits hidden (path.child e.1) (names ++ [e.1]) e.2 := by
  rw [visits, List.mem_cons, List.mem_flatMap]
  simp only [List.mem_mergeSort, visitsIn_eq, List.mem_map]
  refine or_congr_right ⟨?_, ?_⟩
  · rintro ⟨-, ⟨e, he, rfl⟩, hf⟩
    exact ⟨e, he, hf⟩
  · rintro ⟨e, he, hf⟩
    exact ⟨_, ⟨e, he, rfl⟩, hf⟩

theorem mem_shown {hidden : List String} {entries : List (String × Tree)} {e : String × Tree} :
    e ∈ shown hidden entries ↔ e ∈ entries ∧ (e.2.isDir = true → e.1 ∉ hidden) := by
  rw [shown, List.mem_filter]
  cases e.2.isDir <;> simp

/-! ## What is listed -/

/-- The names of directories among names that lead to something. -/
def dirNames (found : Tree) (names : List String) : List String :=
  if found.isDir then names else names.dropLast

/-- Names lead to something, and no directory among them is hidden. -/
def LeadsTo (hidden : List String) (t : Tree) (names : List String) (found : Tree) : Prop :=
  t.get? names = some found ∧ ∀ dir ∈ dirNames found names, dir ∉ hidden

theorem leadsTo_nil {hidden : List String} {t found : Tree} :
    LeadsTo hidden t [] found ↔ t = found := by
  simp [LeadsTo, dirNames]

theorem leadsTo_file {hidden : List String} {content : Except Fault ByteArray}
    {names : List String} {found : Tree} :
    LeadsTo hidden (.file content) names found ↔ names = [] ∧ .file content = found := by
  cases names with
  | nil => simp [leadsTo_nil]
  | cons name names => simp [LeadsTo]

theorem forall_mem_dropLast_cons {P : String → Prop} {name : String} {names : List String} :
    (∀ dir ∈ (name :: names).dropLast, P dir) ↔
      (names ≠ [] → P name) ∧ ∀ dir ∈ names.dropLast, P dir := by
  cases names with
  | nil => simp
  | cons next names => simp

/-- The first of some names is a directory's when what it leads to is a directory. -/
theorem forall_mem_dirNames_cons {P : String → Prop} {t found : Tree} {name : String}
    {names : List String} (h : t.get? names = some found) :
    (∀ dir ∈ dirNames found (name :: names), P dir) ↔
      (t.isDir = true → P name) ∧ ∀ dir ∈ dirNames found names, P dir := by
  cases found with
  | file content =>
    rw [isDir_iff_of_get? h]
    exact forall_mem_dropLast_cons
  | dir entries =>
    simp only [isDir_of_get?_dir h, true_implies]
    exact List.forall_mem_cons

/-- From a directory, names lead to itself or through one of the entries that are walked. -/
theorem leadsTo_dir {hidden : List String} {entries : List (String × Tree)}
    (unique : (entries.map Prod.fst).Nodup) {names : List String} {found : Tree} :
    LeadsTo hidden (.dir entries) names found ↔
      (names = [] ∧ .dir entries = found) ∨
        ∃ e ∈ shown hidden entries, ∃ rest, names = e.1 :: rest ∧ LeadsTo hidden e.2 rest found := by
  cases names with
  | nil => simp [leadsTo_nil]
  | cons name rest =>
    rw [or_iff_right (by simp)]
    constructor
    · rintro ⟨hget, hdirs⟩
      rw [get?_dir, Option.bind_eq_some_iff] at hget
      obtain ⟨t, hlookup, hget⟩ := hget
      rw [forall_mem_dirNames_cons hget] at hdirs
      have hmem := (lookup_eq_some_iff unique).1 hlookup
      exact ⟨(name, t), mem_shown.2 ⟨hmem, hdirs.1⟩, rest, rfl, hget, hdirs.2⟩
    · rintro ⟨e, he, rest, hcons, hget, hdirs⟩
      obtain ⟨rfl, rfl⟩ := List.cons.inj hcons
      obtain ⟨hmem, hshown⟩ := mem_shown.1 he
      refine ⟨?_, (forall_mem_dirNames_cons hget).2 ⟨hshown, hdirs⟩⟩
      rw [get?_dir, (lookup_eq_some_iff unique).2 hmem]
      exact hget

/-- Something is listed exactly when names lead to it and no directory among them is hidden. -/
theorem mem_visits {hidden : List String} {t : Tree} (hwf : t.WellFormed) (path : Path)
    (names : List String) (f : Found) :
    f ∈ t.visits hidden path names ↔
      ∃ below, f.names = names ++ below ∧ f.path = path.below below ∧
        LeadsTo hidden t below f.tree := by
  induction hwf generalizing path names with
  | file content =>
    obtain ⟨fpath, fnames, ftree⟩ := f
    simp only [visits, List.mem_singleton, leadsTo_file, Found.mk.injEq]
    constructor
    · rintro ⟨rfl, rfl, rfl⟩
      exact ⟨[], by simp [Path.below]⟩
    · rintro ⟨below, rfl, rfl, rfl, rfl⟩
      exact ⟨rfl, by simp, rfl⟩
  | @dir entries unique hnames hbelow ih =>
    simp only [mem_visits_dir, leadsTo_dir unique]
    constructor
    · rintro (rfl | ⟨e, he, hf⟩)
      · exact ⟨[], by simp, rfl, .inl ⟨rfl, rfl⟩⟩
      · obtain ⟨rest, hfnames, hfpath, hlead⟩ := (ih e (mem_shown.1 he).1 _ _).1 hf
        exact ⟨e.1 :: rest, by simpa using hfnames, hfpath, .inr ⟨e, he, rest, rfl, hlead⟩⟩
    · rintro ⟨below, hfnames, hfpath, ⟨rfl, htree⟩ | ⟨e, he, rest, rfl, hlead⟩⟩
      · obtain ⟨fpath, fnames, ftree⟩ := f
        rw [List.append_nil] at hfnames
        exact .inl (Found.mk.injEq .. ▸ ⟨hfpath, hfnames, htree.symm⟩)
      · refine .inr ⟨e, he, (ih e (mem_shown.1 he).1 _ _).2 ⟨rest, ?_, hfpath, hlead⟩⟩
        simpa using hfnames

/-! ## The order of the walk -/

/-- One list of names comes before another: by the bytes of the first names that differ. -/
def WalkBefore (names others : List String) : Prop := List.Lex Utf8.BytesLT names others

theorem WalkBefore.ne {names others : List String} (h : WalkBefore names others) :
    names ≠ others := by
  have hbytes : ∀ s, ¬ Utf8.BytesLT s s := fun _ => List.lex_irrefl UInt8.lt_irrefl _
  rintro rfl
  exact List.lex_irrefl hbytes names h

theorem nodup_shown {entries : List (String × Tree)} (h : (entries.map Prod.fst).Nodup)
    (hidden : List String) : ((shown hidden entries).map Prod.fst).Nodup :=
  (List.filter_sublist.map Prod.fst).nodup h

/-- Sorting entries of different names puts them in the strict order of their names. -/
theorem mergeSort_strict {entries : List (String × List Found)}
    (h : (entries.map Prod.fst).Nodup) :
    (entries.mergeSort fun a b => !(b.1 < a.1)).Pairwise fun a b => Utf8.BytesLT a.1 b.1 := by
  have hperm := List.mergeSort_perm entries fun a b => !(b.1 < a.1)
  have hsorted : (entries.mergeSort fun a b => !(b.1 < a.1)).Pairwise
      fun a b => (!decide (b.1 < a.1)) = true := by
    refine List.pairwise_mergeSort ?_ ?_ entries
    · intro a b c hab hbc
      simp only [Bool.not_eq_true', decide_eq_false_iff_not, String.not_lt] at hab hbc ⊢
      exact String.le_trans hab hbc
    · intro a b
      simp only [Bool.or_eq_true, Bool.not_eq_true', decide_eq_false_iff_not, String.not_lt]
      exact String.le_total a.1 b.1
  have hnodup : (entries.mergeSort fun a b => !(b.1 < a.1)).Pairwise fun a b => a.1 ≠ b.1 :=
    List.pairwise_map.1 ((hperm.map Prod.fst).nodup_iff.2 h)
  refine (hsorted.and hnodup).imp fun {a b} hab => Utf8.bytesLT_of_lt ?_
  obtain ⟨hle, hne⟩ := hab
  simp only [Bool.not_eq_true', decide_eq_false_iff_not, String.not_lt] at hle
  show a.1 < b.1
  exact String.not_le.1 fun hge => hne (String.le_antisymm hle hge)

/-- The walk is in the order of the names. -/
theorem visits_sorted {t : Tree} (hwf : t.WellFormed) (hidden : List String) (path : Path)
    (names : List String) :
    (t.visits hidden path names).Pairwise fun f g => WalkBefore f.names g.names := by
  induction hwf generalizing path names with
  | file content => rw [visits]; exact List.pairwise_singleton _ _
  | @dir entries unique hnames hbelow ih =>
    have hlisted : ∀ x ∈ visitsIn hidden path names entries, ∃ e ∈ entries,
        x = (e.1, visits hidden (path.child e.1) (names ++ [e.1]) e.2) := by
      intro x hx
      rw [visitsIn_eq, List.mem_map] at hx
      obtain ⟨e, he, rfl⟩ := hx
      exact ⟨e, (mem_shown.1 he).1, rfl⟩
    have hunique : ((visitsIn hidden path names entries).map Prod.fst).Nodup := by
      rw [visitsIn_eq, List.map_map]
      exact nodup_shown unique hidden
    -- what an entry holds has the names of the directory, that of the entry, and maybe more
    have hentry : ∀ e ∈ entries, ∀ f ∈ visits hidden (path.child e.1) (names ++ [e.1]) e.2,
        ∃ below, f.names = names ++ e.1 :: below := by
      intro e he f hf
      obtain ⟨below, hfnames, -⟩ := (mem_visits (hbelow e he) _ _ f).1 hf
      exact ⟨below, by simpa using hfnames⟩
    rw [visits, List.pairwise_cons]
    refine ⟨fun f hf => ?_, List.pairwise_flatMap.2 ⟨fun x hx => ?_, ?_⟩⟩
    · obtain ⟨x, hx, hf⟩ := List.mem_flatMap.1 hf
      obtain ⟨e, he, rfl⟩ := hlisted x (List.mem_mergeSort.1 hx)
      obtain ⟨below, hfnames⟩ := hentry e he f hf
      rw [hfnames]
      have hlonger : WalkBefore (names ++ []) (names ++ e.1 :: below) :=
        List.Lex.append_left _ .nil names
      rwa [List.append_nil] at hlonger
    · obtain ⟨e, he, rfl⟩ := hlisted x (List.mem_mergeSort.1 hx)
      exact ih e he _ _
    · -- what different entries hold differs first in the names of the entries
      refine (mergeSort_strict hunique).imp_of_mem fun {x y} hx hy hlt f hf g hg => ?_
      obtain ⟨d, hd, rfl⟩ := hlisted x (List.mem_mergeSort.1 hx)
      obtain ⟨e, he, rfl⟩ := hlisted y (List.mem_mergeSort.1 hy)
      obtain ⟨fbelow, hfnames⟩ := hentry d hd f hf
      obtain ⟨gbelow, hgnames⟩ := hentry e he g hg
      rw [hfnames, hgnames]
      exact List.Lex.append_left _ (.rel hlt) names

/-- The walk comes to no path twice. -/
theorem visits_paths {t : Tree} (hwf : t.WellFormed) (hidden : List String) (path : Path)
    (names : List String) :
    (t.visits hidden path names).Pairwise fun f g => f.path.same g.path = false := by
  refine (visits_sorted hwf hidden path names).imp_of_mem fun {f g} hf hg hlt => ?_
  obtain ⟨fbelow, hfnames, hfpath, hflead, -⟩ := (mem_visits hwf path names f).1 hf
  obtain ⟨gbelow, hgnames, hgpath, hglead, -⟩ := (mem_visits hwf path names g).1 hg
  rw [hfpath, hgpath, Bool.eq_false_iff, Ne,
    Path.below_same_iff path (hwf.get? hflead).2 (hwf.get? hglead).2]
  intro hsame
  exact hlt.ne (by rw [hfnames, hgnames, hsame])

end Codemod.Tree
