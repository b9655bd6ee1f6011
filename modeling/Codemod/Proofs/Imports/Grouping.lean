import Codemod.Proofs.Imports.Commute
import Codemod.Proofs.Imports.Frame

/-!
# Grouping requests

A list of requests may be grouped before it is applied: all requests for one module become one, at
the place of the first of them that wants a name. The argument has two halves. Requests for one
module merge (`applyAll_merge`), because a declaration that has taken names takes more. Requests for
different modules pass each other (`applyAll_swap`) once the module is imported, because the
declaration is then extended where it stands.

Both need declarations as the language has them (`WellFormed`): one that takes no names has none.

Results:
* `ensure_of_takes`: where a declaration takes names, `ensure` extends it in place.
* `wellFormed_ensure`: `ensure` makes no other declarations.
* `applyAll_pull`: with the module imported, all its requests may be made first, as one.
* `applyAll_group`: the grouped requests leave the same body and add as many names.
-/
namespace Codemod.Imports

/-! ## Requests by module -/

/-- All names wanted from a module, in order. -/
def namesFor (m : String) (requests : List Request) : List String :=
  (requests.filter (·.module == m)).flatMap (·.names)

/-- The modules from which a name is wanted, in the order of the first requests that want one. -/
def wanted (requests : List Request) : List String :=
  ((requests.filter (!·.names.isEmpty)).map (·.module)).eraseDups

/-- One request for each module from which a name is wanted. -/
def group (requests : List Request) : List Request :=
  (wanted requests).map fun m => ⟨namesFor m requests, m⟩

theorem namesFor_cons_self (r : Request) (requests : List Request) :
    namesFor r.module (r :: requests) = r.names ++ namesFor r.module requests := by
  simp [namesFor]

theorem namesFor_cons_ne {m : String} {r : Request} (h : r.module ≠ m) (requests : List Request) :
    namesFor m (r :: requests) = namesFor m requests := by
  simp [namesFor, h]

theorem namesFor_filter_ne {m n : String} (h : m ≠ n) (requests : List Request) :
    namesFor m (requests.filter (·.module != n)) = namesFor m requests := by
  rw [namesFor, List.filter_filter, namesFor]
  congr 2
  funext r
  by_cases hr : r.module = m
  · simp [hr, h]
  · simp [hr]

theorem group_cons_of_empty {r : Request} (h : r.names = []) (requests : List Request) :
    group (r :: requests) = group requests := by
  have hw : wanted (r :: requests) = wanted requests := by simp [wanted, h]
  have hn : ∀ m, namesFor m (r :: requests) = namesFor m requests := by
    intro m
    by_cases hm : r.module = m
    · rw [← hm, namesFor_cons_self, h, List.nil_append]
    · exact namesFor_cons_ne hm requests
  simp only [group, hw, hn]

theorem wanted_cons {r : Request} (h : r.names ≠ []) (requests : List Request) :
    wanted (r :: requests) = r.module :: wanted (requests.filter (·.module != r.module)) := by
  rw [wanted, List.filter_cons_of_pos (by simpa using h), List.map_cons, List.eraseDups_cons,
    List.filter_map, List.filter_filter, wanted, List.filter_filter]
  congr 4
  funext s
  rw [Bool.and_comm]
  rfl

theorem mem_wanted {m : String} {requests : List Request} (h : m ∈ wanted requests) :
    ∃ r ∈ requests, r.module = m := by
  rw [wanted, List.mem_eraseDups, List.mem_map] at h
  obtain ⟨r, hr, hm⟩ := h
  exact ⟨r, (List.mem_filter.1 hr).1, hm⟩

theorem group_cons {r : Request} (h : r.names ≠ []) (requests : List Request) :
    group (r :: requests) =
      ⟨r.names ++ namesFor r.module requests, r.module⟩ ::
        group (requests.filter (·.module != r.module)) := by
  rw [group, wanted_cons h, List.map_cons, namesFor_cons_self, group]
  refine congrArg (_ :: ·) (List.map_congr_left fun m hm => ?_)
  obtain ⟨s, hs, rfl⟩ := mem_wanted hm
  have hne : s.module ≠ r.module := by simpa using (List.mem_filter.1 hs).2
  rw [namesFor_cons_ne (Ne.symm hne), namesFor_filter_ne hne]

/-! ## Declarations as the language has them -/

/-- A namespace binding stands without names, and so does a default binding beside `type`. -/
structure WellFormed (d : ImportDecl) : Prop where
  star : (∃ b, .star b ∈ d.specifiers) → d.named = []
  default : d.typeOnly = true → (∃ b, .default b ∈ d.specifiers) → d.named = []

theorem wellFormed_of_acceptsNames {d : ImportDecl} (h : acceptsNames d = true) : WellFormed d := by
  rw [acceptsNames_iff] at h
  exact ⟨fun ⟨b, hb⟩ => absurd hb (h.1 b), fun ht ⟨b, hb⟩ => absurd hb (h.2 ht b)⟩

/-- A declaration that takes no names has none. -/
theorem WellFormed.names_eq_nil {d : ImportDecl} (hw : WellFormed d) (h : acceptsNames d = false) :
    d.names = [] := by
  have hnamed : d.named = [] := by
    by_cases hstar : ∃ b, .star b ∈ d.specifiers
    · exact hw.star hstar
    · by_cases hdefault : d.typeOnly = true ∧ ∃ b, .default b ∈ d.specifiers
      · exact hw.default hdefault.1 hdefault.2
      · rw [(acceptsNames_iff d).2] at h
        · cases h
        · exact ⟨fun b hb => hstar ⟨b, hb⟩, fun ht b hb => hdefault ⟨ht, b, hb⟩⟩
  rw [ImportDecl.names, hnamed, List.map_nil]

theorem wellFormed_ensure (r : Request) {items : List Item}
    (hw : ∀ d ∈ declarations items, WellFormed d) :
    ∀ d ∈ declarations (ensure r items).items, WellFormed d := by
  have hnew : ∀ names, WellFormed (declarationOf r.module names) := fun names =>
    wellFormed_of_acceptsNames (acceptsNames_declarationOf _ _)
  have h := ensure_spec r items
  generalize ensure r items = done at h ⊢
  cases h with
  | unwanted => exact hw
  | fresh =>
    simp only [declarations_append, declarations_importing, List.forall_mem_append,
      List.forall_mem_cons] at hw ⊢
    exact ⟨hw.1, hnew _, hw.2⟩
  | present => exact hw
  | extend _ _ ha =>
    simp only [declarations_append, declarations_importing, List.forall_mem_append,
      List.forall_mem_cons] at hw ⊢
    exact ⟨hw.1, wellFormed_of_acceptsNames (acceptsNames_append _ ha), hw.2.2⟩
  | precede =>
    simp only [declarations_append, declarations_importing, List.forall_mem_append,
      List.forall_mem_cons] at hw ⊢
    exact ⟨hw.1, hnew _, hw.2⟩

/-! ## Extending in place -/

/-- The declaration with those of the names that it misses. -/
def extend (names : List String) (d : ImportDecl) : ImportDecl :=
  if missing d.names names = [] then d else append (missing d.names names) d

@[simp] theorem module_extend (names : List String) (d : ImportDecl) :
    (extend names d).module = d.module := by
  unfold extend; split
  · rfl
  · exact module_append _ d

theorem acceptsNames_extend (names : List String) {d : ImportDecl} (h : acceptsNames d = true) :
    acceptsNames (extend names d) = true := by
  unfold extend; split
  · exact h
  · exact acceptsNames_append _ h

theorem names_extend (names : List String) (d : ImportDecl) :
    (extend names d).names = d.names ++ missing d.names names := by
  unfold extend; split
  · rename_i h; rw [h, List.append_nil]
  · exact names_append _ d

theorem extend_extend (xs ys : List String) (d : ImportDecl) :
    extend ys (extend xs d) = extend (xs ++ ys) d := by
  have hall := missing_append d.names xs ys
  rw [← names_extend] at hall
  by_cases hx : missing d.names xs = []
  · have hd : extend xs d = d := if_pos hx
    rw [hx, List.nil_append, hd] at hall
    rw [hd, extend, extend, hall]
  · have hd : extend xs d = append (missing d.names xs) d := if_neg hx
    have hne : missing d.names (xs ++ ys) ≠ [] := by simp [hall, hx]
    have hright : extend (xs ++ ys) d = append (missing d.names (xs ++ ys)) d := if_neg hne
    rw [hright, hall, extend]
    split
    · rename_i hy; rw [hy, List.append_nil, hd]
    · rw [hd, append_append]

theorem extend_declarationOf (m : String) (xs ys : List String) :
    extend ys (declarationOf m xs) = declarationOf m (xs ++ missing xs ys) := by
  rw [extend, names_declarationOf]
  split
  · rename_i h; rw [h, List.append_nil]
  · exact append_declarationOf m xs _

/-- The module's first declaration is there and takes names. -/
def Takes (m : String) (items : List Item) : Prop :=
  ∃ d, find? m items = some d ∧ acceptsNames d = true

theorem takes_cut {m : String} {before : List Item} {d : ImportDecl} (hf : First m before d)
    (ha : acceptsNames d = true) (after : List Item) :
    Takes m (before ++ .importing d :: after) := ⟨d, find?_cut hf after, ha⟩

theorem ensure_cut_of_accepts {m : String} {before : List Item} {d : ImportDecl}
    (hf : First m before d) (ha : acceptsNames d = true) (names : List String)
    (after : List Item) :
    ensure ⟨names, m⟩ (before ++ .importing d :: after) =
      ⟨before ++ .importing (extend names d) :: after, some (extend names d),
        (missing d.names names).length⟩ := by
  by_cases hm : missing d.names names = []
  · have hd : extend names d = d := if_pos hm
    rw [ensure_present (r := ⟨names, m⟩) hf after (missing_eq_nil_iff.1 hm), hd, hm,
      List.length_nil]
  · have hd : extend names d = append (missing d.names names) d := if_neg hm
    rw [ensure_extend (r := ⟨names, m⟩) hf after hm ha, hd]

/-- Where a declaration takes names, `ensure` extends it in place. -/
theorem ensure_of_takes {m : String} {items : List Item} {d : ImportDecl}
    (hd : find? m items = some d) (ha : acceptsNames d = true) (names : List String) :
    ensure ⟨names, m⟩ items =
      ⟨replaceFirst m (fun d => [.importing (extend names d)]) items, some (extend names d),
        (missing d.names names).length⟩ := by
  rcases place m items with habs | ⟨before, e, after, rfl, hf⟩
  · rw [find?_of_absent habs] at hd; cases hd
  · rw [find?_cut hf, Option.some.injEq] at hd
    subst hd
    rw [ensure_cut_of_accepts hf ha, replaceFirst_cut hf]
    rfl

/-! ## One request after another -/

theorem applyAll_cons (r : Request) (requests : List Request) (items : List Item) :
    applyAll (r :: requests) items =
      ((applyAll requests (ensure r items).items).1,
        (ensure r items).added + (applyAll requests (ensure r items).items).2) := rfl

theorem ensure_of_empty {r : Request} (h : r.names = []) (items : List Item) :
    (ensure r items).items = items ∧ (ensure r items).added = 0 := by
  rcases place r.module items with habs | ⟨before, d, after, rfl, hf⟩
  · rw [ensure_unwanted habs h]; exact ⟨rfl, rfl⟩
  · rw [ensure_present hf after (by simp [h])]; exact ⟨rfl, rfl⟩

theorem applyAll_cons_of_empty {r : Request} (h : r.names = []) (requests : List Request)
    (items : List Item) : applyAll (r :: requests) items = applyAll requests items := by
  obtain ⟨hi, ha⟩ := ensure_of_empty h items
  rw [applyAll_cons, hi, ha, Nat.zero_add]

/-- Names wanted one after the other from a module are as good as wanted together. -/
theorem ensure_merge {m : String} {items : List Item}
    (hw : ∀ d, find? m items = some d → WellFormed d) (xs ys : List String) :
    (ensure ⟨ys, m⟩ (ensure ⟨xs, m⟩ items).items).items = (ensure ⟨xs ++ ys, m⟩ items).items ∧
      (ensure ⟨xs, m⟩ items).added + (ensure ⟨ys, m⟩ (ensure ⟨xs, m⟩ items).items).added =
        (ensure ⟨xs ++ ys, m⟩ items).added := by
  by_cases hxs : xs = []
  · obtain ⟨hi, ha⟩ := ensure_of_empty (r := ⟨xs, m⟩) hxs items
    rw [hi, ha, hxs, List.nil_append, Nat.zero_add]
    exact ⟨rfl, rfl⟩
  have hboth : xs ++ ys ≠ [] := List.append_ne_nil_of_left_ne_nil hxs ys
  have hx := missing_nil_ne_nil hxs
  have hxy := missing_nil_ne_nil hboth
  have hsum := missing_append [] xs ys
  rw [List.nil_append] at hsum
  rcases place m items with habs | ⟨before, d, after, rfl, hf⟩
  · obtain ⟨before, after, -, hb, he⟩ := insertLast_first habs
    rw [ensure_fresh (r := ⟨xs, m⟩) habs hxs, ensure_fresh (r := ⟨xs ++ ys, m⟩) habs hboth]
    dsimp only
    rw [he, he, ensure_cut_of_accepts (first_declarationOf hb _) (acceptsNames_declarationOf _ _),
      extend_declarationOf, names_declarationOf, hsum, List.length_append]
    exact ⟨rfl, rfl⟩
  · cases ha : acceptsNames d with
    | true =>
      have hf' : First m before (extend xs d) := ⟨hf.absent, by rw [module_extend, hf.module_eq]⟩
      rw [ensure_cut_of_accepts hf ha, ensure_cut_of_accepts hf ha,
        ensure_cut_of_accepts hf' (acceptsNames_extend xs ha), extend_extend, names_extend,
        missing_append d.names xs ys, List.length_append]
      exact ⟨rfl, rfl⟩
    | false =>
      have hd : d.names = [] := (hw d (find?_cut hf after)).names_eq_nil ha
      rw [ensure_precede (r := ⟨xs, m⟩) hf after (by rw [hd]; exact hx) ha,
        ensure_precede (r := ⟨xs ++ ys, m⟩) hf after (by rw [hd]; exact hxy) ha, hd]
      dsimp only
      rw [ensure_cut_of_accepts (first_declarationOf hf.absent _) (acceptsNames_declarationOf _ _),
        extend_declarationOf, names_declarationOf, hsum, List.length_append]
      exact ⟨rfl, rfl⟩

theorem applyAll_merge {m : String} {items : List Item}
    (hw : ∀ d, find? m items = some d → WellFormed d) (xs ys : List String)
    (requests : List Request) :
    applyAll (⟨xs, m⟩ :: ⟨ys, m⟩ :: requests) items = applyAll (⟨xs ++ ys, m⟩ :: requests) items := by
  obtain ⟨hi, ha⟩ := ensure_merge hw xs ys
  rw [applyAll_cons, applyAll_cons, applyAll_cons, hi, ← ha, Nat.add_assoc]

/-- With the module imported, its requests pass those for other modules. -/
theorem applyAll_swap {m : String} {items : List Item} (ht : Takes m items) {r : Request}
    (hne : r.module ≠ m) (xs : List String) (requests : List Request) :
    applyAll (r :: ⟨xs, m⟩ :: requests) items = applyAll (⟨xs, m⟩ :: r :: requests) items := by
  obtain ⟨d, hd, ha⟩ := ht
  have hd' : find? m (ensure r items).items = some d :=
    ((ensure_change r items).find?_ne (Ne.symm hne)).trans hd
  have hcomm := ensure_replaceFirst (inPlace_modify (module_extend xs)) hne items
  rw [applyAll_cons, applyAll_cons, applyAll_cons, applyAll_cons, ensure_of_takes hd' ha,
    ensure_of_takes hd ha, hcomm, Nat.add_left_comm]

/-! ## Bringing the requests of a module together -/

theorem takes_ensure {m : String} {items : List Item} (ht : Takes m items) (r : Request) :
    Takes m (ensure r items).items := by
  obtain ⟨d, hd, ha⟩ := ht
  by_cases hm : r.module = m
  · subst hm
    have hfind := find?_ensure r items
    rw [ensure_of_takes hd ha r.names] at hfind ⊢
    exact ⟨extend r.names d, hfind, acceptsNames_extend _ ha⟩
  · exact ⟨d, ((ensure_change r items).find?_ne (Ne.symm hm)).trans hd, ha⟩

/-- Once a name has been ensured, the module's first declaration takes names. -/
theorem takes_of_ensure {r : Request} {items : List Item}
    (hw : ∀ d, find? r.module items = some d → WellFormed d) (hn : r.names ≠ []) :
    Takes r.module (ensure r items).items := by
  rcases place r.module items with habs | ⟨before, d, after, rfl, hf⟩
  · obtain ⟨before, after, -, hb, he⟩ := insertLast_first habs
    rw [ensure_fresh habs hn, he]
    exact takes_cut (first_declarationOf hb _) (acceptsNames_declarationOf _ _) after
  · cases ha : acceptsNames d with
    | true => exact takes_ensure (takes_cut hf ha after) r
    | false =>
      have hd : d.names = [] := (hw d (find?_cut hf after)).names_eq_nil ha
      rw [ensure_precede hf after (by rw [hd]; exact missing_nil_ne_nil hn) ha]
      exact takes_cut (first_declarationOf hf.absent _) (acceptsNames_declarationOf _ _) _

/-- With the module imported, all its requests may be made first, as one. -/
theorem applyAll_pull {m : String} (requests : List Request) :
    ∀ {items : List Item}, Takes m items →
      applyAll requests items =
        applyAll (⟨namesFor m requests, m⟩ :: requests.filter (·.module != m)) items := by
  induction requests with
  | nil => intro items _; exact (applyAll_cons_of_empty rfl [] items).symm
  | cons r requests ih =>
    intro items ht
    have hrest := ih (takes_ensure ht r)
    by_cases hm : r.module = m
    · subst hm
      obtain ⟨d, hd, ha⟩ := ht
      have hw : ∀ e, find? r.module items = some e → WellFormed e := by
        intro e he
        rw [hd, Option.some.injEq] at he
        rw [← he]; exact wellFormed_of_acceptsNames ha
      rw [applyAll_cons, hrest, ← applyAll_cons, namesFor_cons_self,
        List.filter_cons_of_neg (by simp)]
      exact applyAll_merge hw r.names _ _
    · rw [applyAll_cons, hrest, ← applyAll_cons, namesFor_cons_ne hm,
        List.filter_cons_of_pos (by simpa using hm)]
      exact applyAll_swap ht hm _ _

/-! ## Grouping -/

theorem applyAll_eq_group (n : Nat) : ∀ (requests : List Request) (items : List Item),
    requests.length ≤ n → (∀ d ∈ declarations items, WellFormed d) →
      applyAll requests items = applyAll (group requests) items := by
  -- the requests left after a group has been made are fewer, though not a tail
  induction n with
  | zero =>
    intro requests items hlen _
    rw [List.length_eq_zero_iff.1 (Nat.le_zero.1 hlen)]; rfl
  | succ n ih =>
    intro requests items hlen hw
    cases requests with
    | nil => rfl
    | cons r requests =>
      rw [List.length_cons, Nat.succ_le_succ_iff] at hlen
      by_cases hn : r.names = []
      · rw [applyAll_cons_of_empty hn, group_cons_of_empty hn, ih requests items hlen hw]
      · have hfound : ∀ d, find? r.module items = some d → WellFormed d := fun d hd =>
          hw d (List.mem_of_find?_eq_some hd)
        have hmerge := applyAll_merge hfound r.names (namesFor r.module requests)
          (requests.filter (·.module != r.module))
        have hfilter : (requests.filter (·.module != r.module)).length ≤ n :=
          Nat.le_trans (List.length_filter_le _ _) hlen
        rw [group_cons hn, applyAll_cons, applyAll_pull requests (takes_of_ensure hfound hn),
          ← applyAll_cons]
        refine hmerge.trans ?_
        rw [applyAll_cons, applyAll_cons, ih _ _ hfilter (wellFormed_ensure _ hw)]

/-- Grouped requests leave the same body as the requests in their order and add as many names; two
requests for one module are as good as one for the names of both. -/
theorem applyAll_group (requests : List Request) (items : List Item)
    (hw : ∀ d ∈ declarations items, WellFormed d) :
    applyAll requests items = applyAll (group requests) items ∧
      ∀ m xs ys, applyAll [⟨xs, m⟩, ⟨ys, m⟩] items = apply ⟨xs ++ ys, m⟩ items := by
  refine ⟨applyAll_eq_group _ requests items (Nat.le_refl _) hw, fun m xs ys => ?_⟩
  exact applyAll_merge (fun d hd => hw d (List.mem_of_find?_eq_some hd)) xs ys []

/-- `import type { T } from 'n'`. -/
def typeImport : ImportDecl :=
  ⟨⟨none, true, .evaluation, [.named ⟨none, none, ⟨"T", none⟩, false⟩], ⟨"n", none, none⟩⟩, none⟩

/-- The first request for `m` wants nothing, so `m` stands behind `n`. -/
theorem applyAll_group_interleaved :
    (∀ d ∈ declarations [.importing namespaceImport, .importing typeImport], WellFormed d) ∧
      applyAll [⟨[], "m"⟩, ⟨["x"], "n"⟩, ⟨["a"], "m"⟩, ⟨["z"], "k"⟩, ⟨["b", "a"], "m"⟩,
          ⟨["x", "y"], "n"⟩] [.importing namespaceImport, .importing typeImport] =
        applyAll [⟨["x", "x", "y"], "n"⟩, ⟨["a", "b", "a"], "m"⟩, ⟨["z"], "k"⟩]
          [.importing namespaceImport, .importing typeImport] := by
  have hw : ∀ d ∈ declarations [.importing namespaceImport, .importing typeImport],
      WellFormed d := by
    simp only [declarations_importing, List.forall_mem_cons]
    refine ⟨⟨fun _ => rfl, fun ht => by cases ht⟩, ?_, by simp [declarations]⟩
    exact wellFormed_of_acceptsNames rfl
  exact ⟨hw, (applyAll_group _ _ hw).1⟩

end Codemod.Imports
