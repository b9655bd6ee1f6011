import Codemod.Files.System
import Codemod.Proofs.Files.Walk

/-!
# Looking up a path

A path is walked to names, and names lead to a file or a directory (`Tree.get?`). A walk goes over
the segments of a path from left to right, so that what lies below a directory is looked up as the
directory and then name by name. Going down can fail only at what the system does not open: a zero
byte, a path that is too long, a name that is too long. `Tree.Found.opened` says what opening
something comes to that a walk has found, and `readBytes_found` that reading its path gives just
that.

Results:
* `walk_append`, `walk_names`: a walk in two parts, and a walk along names that lead somewhere.
* `walk_below`: the path of names below a directory is walked as the directory and the names.
* `readBytes_eq_ok_iff`: a path can be read exactly when names lead it to a file that can be read.
* `locate_below`, `readBytes_found`: what a walk has found, looked up by its path.
-/
namespace Codemod

namespace Tree

theorem get?_append (t : Tree) (xs ys : List String) :
    t.get? (xs ++ ys) = (t.get? xs).bind (get? ys) := by
  induction xs generalizing t with
  | nil => rfl
  | cons x xs ih =>
    show (t.child? x).bind (get? (xs ++ ys)) = ((t.child? x).bind (get? xs)).bind (get? ys)
    rw [Option.bind_assoc]
    exact congrArg _ (funext fun s => ih s)

/-- An entry of a directory, by the names that lead to it. -/
theorem get?_concat {t : Tree} {names : List String} {entries : List (String × Tree)}
    (h : t.get? names = some (.dir entries)) (name : String) :
    t.get? (names ++ [name]) = entries.lookup name := by
  rw [get?_append, h, Option.bind_some, get?_dir]
  exact Option.bind_fun_some _

/-- What leads further is a directory. -/
theorem exists_dir_of_get?_concat {t found : Tree} {names : List String} {name : String}
    (h : t.get? (names ++ [name]) = some found) :
    ∃ entries, t.get? names = some (.dir entries) ∧ entries.lookup name = some found := by
  have hentry := h
  rw [get?_append, Option.bind_eq_some_iff] at h
  obtain ⟨s, hs, hfound⟩ := h
  cases s with
  | file content => cases hfound
  | dir entries => exact ⟨entries, hs, (get?_concat hs name) ▸ hentry⟩

/-- Above a directory there are directories; above the top one stays at the top. -/
theorem exists_dir_of_get?_dropLast {t : Tree} {names : List String}
    {entries : List (String × Tree)} (h : t.get? names = some (.dir entries)) :
    ∃ up, t.get? names.dropLast = some (.dir up) := by
  obtain rfl | ⟨above, name, rfl⟩ := List.eq_nil_or_concat names
  · exact ⟨entries, h⟩
  · rw [List.concat_eq_append] at h ⊢
    rw [List.dropLast_concat]
    exact (exists_dir_of_get?_concat h).imp fun _ h => h.1

/-! ## Walks -/

theorem walk_append (t : Tree) (names : List String) (xs ys : List (List Char)) :
    t.walk names (xs ++ ys) = (t.walk names xs).bind fun names => t.walk names ys := by
  induction xs generalizing names with
  | nil => rfl
  | cons segment xs ih =>
    simp only [List.cons_append, walk, ih]
    repeat' split
    all_goals rfl

/-- A walk along a name goes down to the entry of this name, unless the name is too long. -/
theorem walk_name {t found : Tree} {place : List String} {name : String} (h : Path.IsName name)
    (hget : t.get? (place ++ [name]) = some found) (rest : List (List Char)) :
    t.walk place (name.toList :: rest) =
      if nameLimit < name.utf8ByteSize then .error .nameTooLong
      else t.walk (place ++ [name]) rest := by
  obtain ⟨entries, hdir, hentry⟩ := exists_dir_of_get?_concat hget
  have hstay : (name == "" || name == ".") = false := by simp [h.notEmpty, h.notCurrent]
  have hup : (name == "..") = false := by simp [h.notParent]
  simp only [walk, hdir, String.ofList_toList, hstay, hup, hentry, Option.isSome_some, if_true,
    Bool.false_eq_true, if_false]

theorem walk_names {t found : Tree} {place names : List String}
    (hnames : ∀ name ∈ names, Path.IsName name) (hget : t.get? (place ++ names) = some found) :
    t.walk place (names.map String.toList) =
      if ∃ name ∈ names, nameLimit < name.utf8ByteSize then .error .nameTooLong
      else .ok (place ++ names) := by
  induction names generalizing place with
  | nil => simp [walk]
  | cons name names ih =>
    rw [List.forall_mem_cons] at hnames
    rw [List.append_cons] at hget
    obtain ⟨entry, hentry⟩ : ∃ entry, t.get? (place ++ [name]) = some entry := by
      rw [get?_append, Option.bind_eq_some_iff] at hget
      exact hget.imp fun _ h => h.1
    rw [List.map_cons, walk_name hnames.1 hentry, ih hnames.2 hget]
    by_cases hlong : nameLimit < name.utf8ByteSize
    · simp [hlong]
    · simp [hlong]

/-- An empty segment before another one changes nothing. -/
theorem walk_empty_cons (t : Tree) (names : List String) (segment : List Char)
    (rest : List (List Char)) :
    t.walk names ([] :: segment :: rest) = t.walk names (segment :: rest) := by
  rw [walk]
  split
  · rename_i hget
    rw [walk, hget]
  · rename_i hget
    rw [walk, hget]
  · rfl

/-- A walk that ends with a name leads to something of this name. -/
theorem getLast?_of_walk {t : Tree} {start found : List String} {segments : List (List Char)}
    {name : String} (hname : Path.IsName name)
    (h : t.walk start (segments ++ [name.toList]) = .ok found) : found.getLast? = some name := by
  rw [walk_append] at h
  cases hdir : t.walk start segments with
  | error fault => rw [hdir] at h; cases h
  | ok names =>
    rw [hdir] at h
    have hstay : (name == "" || name == ".") = false := by simp [hname.notEmpty, hname.notCurrent]
    have hup : (name == "..") = false := by simp [hname.notParent]
    simp only [Except.bind, walk, String.ofList_toList, hstay, hup, Bool.false_eq_true,
      if_false] at h
    split at h
    · cases h
    · cases h
    · split at h
      · cases h
      · split at h
        · rw [← Except.ok.inj h, List.getLast?_concat]
        · cases h

/-- The path of an entry is walked as that of its directory and then the name. -/
theorem walk_child (t : Tree) (start : List String) {p : Path} (hp : p.spelling ≠ "")
    {name : String} (hname : Path.IsName name) (rest : List (List Char)) :
    t.walk start (Path.segments (p.child name).spelling.toList ++ rest) =
      t.walk start (Path.segments p.spelling.toList ++ name.toList :: rest) := by
  have hlast := Path.segments_of_noSlash hname.noSlash
  rcases p.segments_child name with ⟨hempty, -⟩ | ⟨dir, -, hdir, hchild⟩ | ⟨-, hchild⟩
  · exact absurd hempty hp
  · simp only [hchild, hlast, hdir, List.append_assoc, List.singleton_append,
      walk_append t start dir, walk_empty_cons]
  · rw [hchild, hlast, List.append_assoc, List.singleton_append]

end Tree

namespace Path

theorem child_ne_empty (p : Path) {name : String} (h : IsName name) :
    (p.child name).spelling ≠ "" := by
  rw [child]
  split <;> simp [h.notEmpty]

theorem below_ne_empty {p : Path} (hp : p.spelling ≠ "") {names : List String}
    (h : ∀ name ∈ names, IsName name) : (p.below names).spelling ≠ "" := by
  induction names generalizing p with
  | nil => exact hp
  | cons name names ih =>
    rw [List.forall_mem_cons] at h
    exact ih (p.child_ne_empty h.1) h.2

theorem isAbsolute_child {p : Path} (hp : p.spelling ≠ "") (name : String) :
    (p.child name).isAbsolute = p.isAbsolute := by
  obtain ⟨c, cs, hcs⟩ := List.exists_cons_of_ne_nil (mt String.toList_eq_nil_iff.1 hp)
  rw [child]
  split <;> simp [isAbsolute, hcs]

theorem isAbsolute_below {p : Path} (hp : p.spelling ≠ "") {names : List String}
    (h : ∀ name ∈ names, IsName name) : (p.below names).isAbsolute = p.isAbsolute := by
  induction names generalizing p with
  | nil => rfl
  | cons name names ih =>
    rw [List.forall_mem_cons] at h
    rw [below_cons, ih (p.child_ne_empty h.1) h.2, isAbsolute_child hp]

end Path

/-- The path of names below a directory is walked as the directory and then the names. -/
theorem Tree.walk_below (t : Tree) (start : List String) {root : Path} (hroot : root.spelling ≠ "")
    {names : List String} (h : ∀ name ∈ names, Path.IsName name) :
    t.walk start (Path.segments (root.below names).spelling.toList) =
      t.walk start (Path.segments root.spelling.toList ++ names.map String.toList) := by
  suffices hrest : ∀ rest, t.walk start (Path.segments (root.below names).spelling.toList ++ rest) =
      t.walk start (Path.segments root.spelling.toList ++ (names.map String.toList ++ rest)) by
    simpa using hrest []
  intro rest
  induction names generalizing root with
  | nil => rfl
  | cons name names ih =>
    rw [List.forall_mem_cons] at h
    rw [Path.below_cons, ih (root.child_ne_empty h.1) h.2, walk_child t start hroot h.1]
    rfl

namespace FileSystem

/-! ## Paths -/

theorem lookups_eq_ok_iff {path : Path} {all : List (List Char)} :
    path.lookups = .ok all ↔
      '\x00' ∉ path.spelling.toList ∧ path.isTooLong = false ∧ path.spelling ≠ "" ∧
        Path.segments path.spelling.toList = all := by
  unfold Path.lookups
  by_cases hzero : '\x00' ∈ path.spelling.toList
  · simp [hzero]
  · cases hlong : path.isTooLong with
    | true => simp [hzero]
    | false => by_cases hempty : path.spelling = "" <;> simp [hzero, hempty]

theorem locate_eq_ok_iff {fs : FileSystem} {path : Path} {names : List String} :
    fs.locate path = .ok names ↔
      ∃ all, path.lookups = .ok all ∧ fs.tree.walk (fs.start path) all = .ok names := by
  unfold locate
  cases path.lookups with
  | error fault => simp [Bind.bind, Except.bind]
  | ok all => simp [Bind.bind, Except.bind]

theorem getLast?_of_locate {fs : FileSystem} {path : Path} {names : List String}
    {above : List (List Char)} {name : String}
    (hsegments : Path.segments path.spelling.toList = above ++ [name.toList])
    (hname : Path.IsName name) (h : fs.locate path = .ok names) : names.getLast? = some name := by
  obtain ⟨all, hlookups, hwalk⟩ := locate_eq_ok_iff.1 h
  obtain ⟨-, -, -, rfl⟩ := lookups_eq_ok_iff.1 hlookups
  rw [hsegments] at hwalk
  exact Tree.getLast?_of_walk hname hwalk

theorem resolve_eq_ok_iff {fs : FileSystem} {path : Path} {found : Tree} :
    fs.resolve path = .ok found ↔
      ∃ names, fs.locate path = .ok names ∧ fs.tree.get? names = some found := by
  unfold resolve
  cases fs.locate path with
  | error fault => simp [Bind.bind, Except.bind]
  | ok names =>
    simp only [Bind.bind, Except.bind, Except.ok.injEq, exists_eq_left']
    cases fs.tree.get? names with
    | none => simp
    | some t => simp

theorem wellFormed_of_resolve {fs : FileSystem} (hwf : fs.tree.WellFormed) {path : Path}
    {found : Tree} (h : fs.resolve path = .ok found) : found.WellFormed := by
  obtain ⟨names, -, hget⟩ := resolve_eq_ok_iff.1 h
  exact (hwf.get? hget).1

/-! ## Reading -/

theorem readBytes_of_locate {fs : FileSystem} {path : Path} {names : List String}
    {content : Except Fault ByteArray} (h : fs.locate path = .ok names)
    (hget : fs.tree.get? names = some (.file content)) : fs.readBytes path = content := by
  have hresolve : fs.resolve path = .ok (.file content) := resolve_eq_ok_iff.2 ⟨names, h, hget⟩
  simp only [readBytes, hresolve, Bind.bind, Except.bind]

theorem readBytes_of_tooLong {path : Path} (hzero : '\x00' ∉ path.spelling.toList)
    (hlong : path.isTooLong = true) (fs : FileSystem) :
    fs.readBytes path = .error .nameTooLong := by
  simp [readBytes, resolve, locate, Path.lookups, hzero, hlong, Bind.bind, Except.bind]

theorem readBytes_eq_ok_iff {fs : FileSystem} {path : Path} {bytes : ByteArray} :
    fs.readBytes path = .ok bytes ↔
      ∃ names, fs.locate path = .ok names ∧ fs.tree.get? names = some (.file (.ok bytes)) := by
  rw [← resolve_eq_ok_iff]
  unfold readBytes
  cases fs.resolve path with
  | error fault => simp [Bind.bind, Except.bind]
  | ok found => cases found <;> simp [Bind.bind, Except.bind]

end FileSystem

/-! ## What a walk has found -/

/-- What opening something comes to at its path: a failure where the path has a zero byte or is too
long or a name is too long, whatever stands there. -/
def Tree.Found.opened (f : Tree.Found) : Except Fault ByteArray :=
  if '\x00' ∈ f.path.spelling.toList then .error .zeroByte
  else if f.path.isTooLong ∨ ∃ name ∈ f.names, nameLimit < name.utf8ByteSize then
    .error .nameTooLong
  else
    match f.tree with
    | .file content => content
    | .dir _ => .error .isDirectory

namespace FileSystem

variable {fs : FileSystem} {root : Path} {place : List String}

theorem locate_below (hroot : fs.locate root = .ok place) {found : Tree} {names : List String}
    (hnames : ∀ name ∈ names, Path.IsName name)
    (hget : fs.tree.get? (place ++ names) = some found) :
    fs.locate (root.below names) =
      if '\x00' ∈ (root.below names).spelling.toList then .error .zeroByte
      else if (root.below names).isTooLong ∨ ∃ name ∈ names, nameLimit < name.utf8ByteSize then
        .error .nameTooLong
      else .ok (place ++ names) := by
  obtain ⟨all, hlookups, hwalk⟩ := locate_eq_ok_iff.1 hroot
  obtain ⟨-, -, hne, rfl⟩ := lookups_eq_ok_iff.1 hlookups
  have hstart : fs.start (root.below names) = fs.start root := by
    rw [start, start, Path.isAbsolute_below hne hnames]
  have hbelow : fs.tree.walk (fs.start root)
      (Path.segments (root.below names).spelling.toList) =
        if ∃ name ∈ names, nameLimit < name.utf8ByteSize then .error .nameTooLong
        else .ok (place ++ names) := by
    rw [Tree.walk_below _ _ hne hnames, Tree.walk_append, hwalk]
    exact Tree.walk_names hnames hget
  by_cases hzero : '\x00' ∈ (root.below names).spelling.toList
  · simp [locate, Path.lookups, hzero, Bind.bind, Except.bind]
  · cases hlong : (root.below names).isTooLong with
    | true => simp [locate, Path.lookups, hzero, hlong, Bind.bind, Except.bind]
    | false =>
      have hlookups := lookups_eq_ok_iff.2 ⟨hzero, hlong, Path.below_ne_empty hne hnames, rfl⟩
      simp only [locate, hlookups, hstart, Bind.bind, Except.bind, hbelow, hzero, if_false,
        Bool.false_eq_true, false_or]

/-- Reading what a walk has found gives what opening it comes to. -/
theorem readBytes_found (hwf : fs.tree.WellFormed) (hroot : fs.locate root = .ok place)
    {found : Tree} (hfound : fs.tree.get? place = some found) {f : Tree.Found}
    (hpath : f.path = root.below f.names) (hget : found.get? f.names = some f.tree) :
    fs.readBytes f.path = f.opened := by
  have hbelow : fs.tree.get? (place ++ f.names) = some f.tree := by
    rw [Tree.get?_append, hfound, Option.bind_some, hget]
  have hlocate := locate_below hroot ((hwf.get? hfound).1.get? hget).2 hbelow
  rw [← hpath] at hlocate
  unfold readBytes resolve Tree.Found.opened
  rw [hlocate]
  by_cases hzero : '\x00' ∈ f.path.spelling.toList
  · simp [hzero, Bind.bind, Except.bind]
  · by_cases hlong : f.path.isTooLong ∨ ∃ name ∈ f.names, nameLimit < name.utf8ByteSize
    · simp only [hzero, if_false, if_pos hlong, Bind.bind, Except.bind]
    · cases htree : f.tree <;>
        simp only [hzero, if_false, if_neg hlong, Bind.bind, Except.bind, hbelow, htree]

end FileSystem

end Codemod
