import Codemod.Proofs.Imports.Frame

/-!
# Removing twice

`remove` gives names up and, with the last one, the declaration. Once the declaration is gone the
next one of the module is the first, and a second removal works there: it deletes that declaration
if it has no names, and takes names out of it if it has some of them. So removing twice is removing
once only where no such declaration follows.

A body with one declaration for each module gets a second one when `ensure` puts names in front of a
declaration that takes none. The shape of what runs of `ensure` can build is `Built`.

Results:
* `remove_of_absent`, `remove_keep`, `remove_delete`: the three ways of `remove`.
* `remove_eq_self_iff`: when `remove` does nothing.
* `remove_remove_iff`: when a second removal does nothing, for any body.
* `built_run`: every run of `ensure` builds one declaration of a module, or one that takes names and
  behind it the module's only declaration at the start, which takes none.
* `remove_twice_iff`: when a second removal does nothing after such a run.
* `remove_twice_namespace`: a run after which a second removal deletes a namespace import.
-/
namespace Codemod.Imports

/-! ## A declaration without some names -/

def without (names : List String) (d : ImportDecl) : ImportDecl :=
  keepNamed (fun s => !names.contains s.importedText) d

theorem without_without (names : List String) (d : ImportDecl) :
    without names (without names d) = without names d := keepNamed_keepNamed _ d

theorem mem_names {x : String} {d : ImportDecl} :
    x ∈ d.names ↔ ∃ s ∈ d.named, s.importedText = x := List.mem_map

theorem forall_mem_names {P : String → Prop} {d : ImportDecl} :
    (∀ x ∈ d.names, P x) ↔ ∀ s ∈ d.named, P s.importedText := List.forall_mem_map

theorem without_named_eq_nil_iff (names : List String) (d : ImportDecl) :
    (without names d).named = [] ↔ ∀ x ∈ d.names, x ∈ names := by
  rw [without, named_keepNamed, List.filter_eq_nil_iff, forall_mem_names]
  simp

theorem without_eq_self_iff (names : List String) (d : ImportDecl) :
    without names d = d ↔ ∀ x ∈ d.names, x ∉ names := by
  rw [without, keepNamed_eq_self_iff, forall_mem_names]
  simp

/-! ## The three ways -/

theorem remove_of_absent {m : String} {items : List Item} (h : Absent m items)
    (names : List String) : remove m names items = (items, 0) := by
  simp [remove, find?_of_absent h]

section
variable {m : String} {before : List Item} {d : ImportDecl} (hf : First m before d)
  {names : List String} (after : List Item)
include hf

theorem remove_cut :
    remove m names (before ++ .importing d :: after) =
      (before ++ ((if (without names d).named.isEmpty then [] else [.importing (without names d)]) ++
        after), dropped d (without names d)) := by
  rw [remove, find?_cut hf]
  dsimp only
  rw [replaceFirst_cut hf]
  rfl

theorem remove_keep (h : ¬ ∀ x ∈ d.names, x ∈ names) :
    remove m names (before ++ .importing d :: after) =
      (before ++ .importing (without names d) :: after, dropped d (without names d)) := by
  rw [remove_cut hf, if_neg (by rw [List.isEmpty_iff, without_named_eq_nil_iff]; exact h)]
  rfl

theorem remove_delete (h : ∀ x ∈ d.names, x ∈ names) :
    remove m names (before ++ .importing d :: after) =
      (before ++ after, dropped d (without names d)) := by
  rw [remove_cut hf, if_pos (by rw [List.isEmpty_iff, without_named_eq_nil_iff]; exact h)]
  rfl

end

/-! ## Removing nothing -/

/-- The declaration has no names, or has one of the names. -/
def Struck (names : List String) (d : ImportDecl) : Prop := d.named = [] ∨ ∃ x ∈ d.names, x ∈ names

theorem struck_of_subset {names : List String} {d : ImportDecl} (h : ∀ x ∈ d.names, x ∈ names) :
    Struck names d := by
  by_cases hn : d.named = []
  · exact Or.inl hn
  · obtain ⟨s, hs⟩ := List.exists_mem_of_ne_nil _ hn
    have hx := mem_names.2 ⟨s, hs, rfl⟩
    exact Or.inr ⟨_, hx, h _ hx⟩

/-- `remove` does nothing exactly when the module is not imported or its first declaration has names
and none of these. -/
theorem remove_eq_self_iff (m : String) (names : List String) (items : List Item) :
    remove m names items = (items, 0) ↔ ∀ d, find? m items = some d → ¬ Struck names d := by
  rcases place m items with habs | ⟨before, d, after, rfl, hf⟩
  · rw [remove_of_absent habs, find?_of_absent habs]
    exact iff_of_true rfl (by simp)
  · simp only [find?_cut hf, Option.some.injEq, forall_eq']
    by_cases hall : ∀ x ∈ d.names, x ∈ names
    · refine iff_of_false ?_ (fun h => h (struck_of_subset hall))
      rw [remove_delete hf after hall]
      intro he
      have hlen := congrArg (fun p => p.1.length) he
      simp only [List.length_append, List.length_cons] at hlen
      omega
    · have hnamed : d.named ≠ [] := by
        intro hn
        refine hall fun x hx => ?_
        obtain ⟨s, hs, -⟩ := mem_names.1 hx
        rw [hn] at hs; cases hs
      rw [remove_keep hf after hall]
      constructor
      · intro he
        have hitems := congrArg Prod.fst he
        simp only [List.append_cancel_left_eq, List.cons.injEq, Item.importing.injEq,
          and_true] at hitems
        rintro (hn | ⟨x, hx, hin⟩)
        · exact hnamed hn
        · exact (without_eq_self_iff names d).1 hitems x hx hin
      · intro hs
        have hsame : without names d = d :=
          (without_eq_self_iff names d).2 fun x hx hin => hs (Or.inr ⟨x, hx, hin⟩)
        rw [hsame, dropped, Nat.sub_self]

/-- A second removal does nothing exactly when no declaration that it would strike comes to the
front with the first. -/
theorem remove_remove_iff (m : String) (names : List String) (items : List Item) :
    remove m names (remove m names items).1 = ((remove m names items).1, 0) ↔
      ¬ ∃ d e rest, declarationsOf m items = d :: e :: rest ∧ (∀ x ∈ d.names, x ∈ names) ∧
        Struck names e := by
  rw [remove_eq_self_iff]
  rcases place m items with habs | ⟨before, d, after, rfl, hf⟩
  · rw [remove_of_absent habs, find?_of_absent habs, (absent_iff_declarationsOf m items).1 habs]
    simp
  · rw [declarationsOf_cut hf]
    by_cases hall : ∀ x ∈ d.names, x ∈ names
    · rw [remove_delete hf after hall, find?_behind hf.absent, find?_eq_head?]
      constructor
      · rintro h ⟨d', e, rest, he, -, hs⟩
        rw [(List.cons.inj he).2] at h
        exact h e rfl hs
      · intro h e he hs
        obtain ⟨rest, hrest⟩ := List.head?_eq_some_iff.1 he
        exact h ⟨d, e, rest, by rw [hrest], hall, hs⟩
    · -- what is left has names, and none of these
      rw [remove_keep hf after hall, find?_cut (d := without names d) ⟨hf.absent, hf.module_eq⟩]
      refine iff_of_true ?_ ?_
      · intro e he
        rw [← Option.some.inj he]
        rintro (hn | ⟨x, hx, hin⟩)
        · exact hall ((without_named_eq_nil_iff names d).1 hn)
        · exact (without_eq_self_iff names _).1 (without_without names d) x hx hin
      · rintro ⟨d', e, rest, he, hsub, -⟩
        rw [← (List.cons.inj he).1] at hsub
        exact hall hsub

/-! ## What runs of `ensure` build -/

/-- At most one declaration for each module. -/
def AtMostOnce (items : List Item) : Prop := ∀ m, (declarationsOf m items).length ≤ 1

def Edit.isEnsure : Edit → Bool
  | .single _ (.ensure _) => true
  | .single _ (.apply _) => true
  | .single _ _ => false
  | .applyAll _ => true

def ensureDeclarations (r : Request) : List ImportDecl → List ImportDecl
  | [] => if r.names = [] then [] else [declarationOf r.module (missing [] r.names)]
  | d :: rest =>
    if missing d.names r.names = [] then d :: rest
    else if acceptsNames d then append (missing d.names r.names) d :: rest
    else declarationOf r.module (missing d.names r.names) :: d :: rest

theorem declarationsOf_ensure (r : Request) (items : List Item) :
    declarationsOf r.module (ensure r items).items =
      ensureDeclarations r (declarationsOf r.module items) := by
  have h := ensure_spec r items
  generalize ensure r items = done at h ⊢
  cases h with
  | unwanted habs hn =>
    rw [(absent_iff_declarationsOf _ _).1 habs, ensureDeclarations, if_pos hn]
  | @fresh before after habs _ hn =>
    have hnil := (absent_iff_declarationsOf _ _).1 habs
    rw [absent_append] at habs
    rw [hnil, declarationsOf_cut (first_declarationOf habs.1 _),
      (absent_iff_declarationsOf _ _).1 habs.2, ensureDeclarations, if_neg hn]
  | present hf hall =>
    rw [declarationsOf_cut hf, ensureDeclarations, if_pos (missing_eq_nil_iff.2 hall)]
  | extend hf hm ha =>
    rw [declarationsOf_cut hf, declarationsOf_cut (hf.append _), ensureDeclarations, if_neg hm,
      if_pos ha]
  | precede hf hm ha =>
    rw [declarationsOf_cut hf, declarationsOf_cut (first_declarationOf hf.absent _),
      declarationsOf_importing, if_pos hf.module_eq, ensureDeclarations, if_neg hm,
      if_neg (by simp [ha])]

/-- What runs of `ensure` make of the declarations of a module, `start`, when there is at most one.
A declaration that takes no names is the one of the start, and stands last. -/
inductive Built (start : List ImportDecl) : List ImportDecl → Prop
  | none : Built start []
  | one {d : ImportDecl} (h : acceptsNames d = false → start = [d]) : Built start [d]
  | two {d e : ImportDecl} (hd : acceptsNames d = true) (he : acceptsNames e = false)
      (h : start = [e]) : Built start [d, e]

theorem built_start {start : List ImportDecl} (h : start.length ≤ 1) : Built start start := by
  match start, h with
  | [], _ => exact .none
  | [d], _ => exact .one fun _ => rfl

theorem built_ensureDeclarations {start ds : List ImportDecl} (r : Request) (h : Built start ds) :
    Built start (ensureDeclarations r ds) := by
  have hnew : ∀ names, acceptsNames (declarationOf r.module names) = true :=
    acceptsNames_declarationOf r.module
  cases h with
  | none =>
    rw [ensureDeclarations]
    split
    · exact .none
    · exact .one fun ha => by rw [hnew] at ha; cases ha
  | @one d h =>
    rw [ensureDeclarations]
    split
    · exact .one h
    · cases ha : acceptsNames d with
      | true =>
        rw [if_pos rfl]
        exact .one fun hb => by rw [acceptsNames_append _ ha] at hb; cases hb
      | false => rw [if_neg (by simp)]; exact .two (hnew _) ha (h ha)
  | @two d e hd he h =>
    rw [ensureDeclarations]
    split
    · exact .two hd he h
    · exact .two (acceptsNames_append _ hd) he h

theorem ensures_induction {P : List Item → Prop} (h : ∀ r items, P items → P (ensure r items).items) :
    ∀ (edits : List Edit) (items : List Item), (∀ edit ∈ edits, edit.isEnsure = true) →
      P items → P (run edits items) := by
  intro edits
  induction edits with
  | nil => exact fun _ _ hP => hP
  | cons edit edits ih =>
    intro items he hP
    rw [List.forall_mem_cons] at he
    refine ih (edit.run items) he.2 ?_
    match edit, he.1 with
    | .single m (.ensure names), _ => exact h ⟨names, m⟩ items hP
    | .single m (.apply names), _ => exact h ⟨names, m⟩ items hP
    | .applyAll requests, _ => exact applyAll_induction h requests items hP

theorem built_run {items : List Item} (hu : AtMostOnce items) {edits : List Edit}
    (he : ∀ edit ∈ edits, edit.isEnsure = true) (m : String) :
    Built (declarationsOf m items) (declarationsOf m (run edits items)) := by
  refine ensures_induction (P := fun body => Built (declarationsOf m items) (declarationsOf m body))
    (fun r body hb => ?_) edits items he (built_start (hu m))
  by_cases hm : r.module = m
  · subst hm
    rw [declarationsOf_ensure]
    exact built_ensureDeclarations r hb
  · rw [(ensure_change r body).declarationsOf_ne (Ne.symm hm)]
    exact hb

/-! ## Removing twice after such a run -/

/-- After a run of `ensure` on a body with at most one declaration for each module, removing names
twice is removing them once, and the second time none is found, unless the run has put a declaration
in front of one that takes no names, all the names of the new one are removed, and the old one has
no names or has one of them. -/
theorem remove_twice_iff (items : List Item) (hu : AtMostOnce items) (edits : List Edit)
    (he : ∀ edit ∈ edits, edit.isEnsure = true) (m : String) (names : List String) :
    remove m names (remove m names (run edits items)).1 =
        ((remove m names (run edits items)).1, 0) ↔
      ¬ ∃ d e, declarationsOf m items = [e] ∧ acceptsNames e = false ∧
        declarationsOf m (run edits items) = [d, e] ∧ (∀ x ∈ d.names, x ∈ names) ∧
        (e.named = [] ∨ ∃ x ∈ e.names, x ∈ names) := by
  rw [remove_remove_iff]
  refine not_congr ⟨?_, ?_⟩
  · rintro ⟨d, e, rest, hds, hsub, hs⟩
    have hb := built_run hu he m
    rw [hds] at hb
    generalize hstart : declarationsOf m items = start at hb
    cases hb with
    | two _ hacc h => exact ⟨d, e, h, hacc, hds, hsub, hs⟩
  · rintro ⟨d, e, -, -, hds, hsub, hs⟩
    exact ⟨d, e, [], hds, hsub, hs⟩

theorem atMostOnce_singleton (item : Item) : AtMostOnce [item] := fun _ =>
  Nat.le_trans (List.length_filter_le _ _) (List.length_filterMap_le _ _)

/-- One of two ensured names is removed: the second time nothing happens. -/
theorem remove_twice_name_left :
    AtMostOnce [.importing namespaceImport] ∧
      remove "m" ["a"] (remove "m" ["a"]
          (run [.single "m" (.ensure ["a"]), .applyAll [⟨["a", "b"], "m"⟩]]
            [.importing namespaceImport])).1 =
        ([.importing (declarationOf "m" ["b"]), .importing namespaceImport], 0) := by
  refine ⟨atMostOnce_singleton _,
    (remove_twice_iff _ (atMostOnce_singleton _) _ (by decide) "m" ["a"]).2 ?_⟩
  rintro ⟨d, e, -, -, hds, hsub, -⟩
  have hd : declarationOf "m" ["a", "b"] = d := (List.cons.inj hds).1
  have hb := hsub "b" (by rw [← hd]; decide)
  revert hb
  decide

/-- The only ensured name is removed, and the declaration with it. The second time the one that is
found binds the namespace, has no names and goes too. -/
theorem remove_twice_namespace :
    AtMostOnce [.importing namespaceImport] ∧
      (remove "m" ["a"] (run [.single "m" (.ensure ["a"])] [.importing namespaceImport])).1 =
        [.importing namespaceImport] ∧
      remove "m" ["a"]
          (remove "m" ["a"] (run [.single "m" (.ensure ["a"])] [.importing namespaceImport])).1 =
        ([], 0) :=
  ⟨atMostOnce_singleton _, rfl, rfl⟩

end Codemod.Imports
