import Codemod.Proofs.Imports.Counts

/-!
# Pruning

`prune` takes the names that nothing refers to out of the first declaration of a module, and the
declaration too when that leaves it without specifiers. What stays is told by `stays`: default and
namespace bindings always do, and a name does when the code refers to what it is bound to.

Pruning changes no code, so what is referred to is the same before and after, and in a whole run of
prunings one test decides. Whatever the run, each item of the start is left whole, is left without
its unused names, or has gone because all its specifiers were unused names (`Pruned`).

Results:
* `prune_keep`, `prune_delete`: the two ways of `prune`.
* `length_unused`: `prune` takes out as many names as `unused` lists.
* `Pruned.trans`, `prune_pruned`, `prunes_pruned`: what a pruning leaves, and a run of prunings.
* `Pruned.cut`: a declaration of which something stays, or that has nothing, stands in its place.
* `unused_prune`: what is unused after a pruning.
* `prune_eq_self`: nothing happens where nothing is unused.
* `prune_exact`: all of this together.
-/
namespace Codemod.Imports

/-! ## What stays -/

/-- Does the specifier stay, when the names in use are these? -/
def stays (used : String → Bool) : ImportSpecifier → Bool
  | .named s => used s.binding.text
  | .default _ => true
  | .star _ => true

theorem thinned_eq_filter (used : String → Bool) (d : ImportDecl) :
    thinned used d = { d with specifiers := d.specifiers.filter (stays used) } := by
  have hfilter : (thinned used d).specifiers = d.specifiers.filter (stays used) := by
    refine List.filter_congr fun s _ => ?_
    cases s <;> rfl
  exact congrArg (fun specifiers => { d with specifiers := specifiers }) hfilter

theorem specifiers_thinned (used : String → Bool) (d : ImportDecl) :
    (thinned used d).specifiers = d.specifiers.filter (stays used) := by
  rw [thinned_eq_filter]

theorem named_thinned (used : String → Bool) (d : ImportDecl) :
    (thinned used d).named = d.named.filter fun s => used s.binding.text := named_keepNamed _ d

theorem thinned_thinned (used : String → Bool) (d : ImportDecl) :
    thinned used (thinned used d) = thinned used d := keepNamed_keepNamed _ d

/-- The names of the declaration whose specifiers do not stay. -/
def unusedNames (used : String → Bool) (d : ImportDecl) : List String :=
  (d.named.filter fun s => !used s.binding.text).map (·.importedText)

theorem dropped_thinned (used : String → Bool) (d : ImportDecl) :
    dropped d (thinned used d) = (unusedNames used d).length := by
  rw [thinned, dropped_keepNamed, List.countP_eq_length_filter, unusedNames, List.length_map]

theorem unusedNames_thinned (used : String → Bool) (d : ImportDecl) :
    unusedNames used (thinned used d) = [] := by
  rw [unusedNames, named_thinned, List.filter_filter]
  simp

/-- The declaration has specifiers, and none of them stays. -/
def Emptied (used : String → Bool) (d : ImportDecl) : Prop :=
  d.specifiers ≠ [] ∧ (thinned used d).specifiers = []

/-- A declaration is emptied when something is dropped and nothing is left. -/
theorem emptied_iff (used : String → Bool) (d : ImportDecl) :
    Emptied used d ↔ 0 < dropped d (thinned used d) ∧ (thinned used d).specifiers = [] := by
  refine and_congr_left fun hnil => ?_
  have hsum := length_thinned_add_dropped used d
  rw [hnil, List.length_nil, Nat.zero_add] at hsum
  rw [hsum, List.length_pos_iff]

/-! ## The two ways -/

theorem first_thinned {m : String} {before : List Item} {d : ImportDecl} (hf : First m before d)
    (used : String → Bool) : First m before (thinned used d) := ⟨hf.absent, hf.module_eq⟩

section
variable {m : String} {before : List Item} {d : ImportDecl} (hf : First m before d)
  (after : List Item) {used : String → Bool}
  (hused : isReferenced (before ++ .importing d :: after) = used)
include hf hused

theorem prune_delete (h : Emptied used d) :
    prune m (before ++ .importing d :: after) = (before ++ after, dropped d (thinned used d)) := by
  obtain ⟨hpos, hnil⟩ := (emptied_iff used d).1 h
  rw [prune_cut hf after hused, if_pos (by simp [hpos, hnil])]
  rfl

theorem prune_keep (h : ¬ Emptied used d) :
    prune m (before ++ .importing d :: after) =
      (before ++ .importing (thinned used d) :: after, dropped d (thinned used d)) := by
  rw [emptied_iff] at h
  rw [prune_cut hf after hused, if_neg (by simpa using h)]
  rfl

/-- The declaration goes exactly when names are taken out and no specifier is left. -/
theorem prune_found :
    (0 < (prune m (before ++ .importing d :: after)).2 ∧ (thinned used d).specifiers = [] →
        (prune m (before ++ .importing d :: after)).1 = before ++ after) ∧
      (¬ (0 < (prune m (before ++ .importing d :: after)).2 ∧ (thinned used d).specifiers = []) →
        (prune m (before ++ .importing d :: after)).1 =
          before ++ .importing (thinned used d) :: after) := by
  by_cases he : Emptied used d
  · rw [prune_delete hf after hused he]
    exact ⟨fun _ => rfl, fun h => absurd ((emptied_iff used d).1 he) h⟩
  · rw [prune_keep hf after hused he]
    exact ⟨fun h => absurd ((emptied_iff used d).2 h) he, fun _ => rfl⟩

theorem unused_cut : unused m (before ++ .importing d :: after) = unusedNames used d := by
  rw [unused, find?_cut hf, hused]
  rfl

end

theorem unused_of_absent {m : String} {items : List Item} (h : Absent m items) :
    unused m items = [] := by
  rw [unused, find?_of_absent h]

/-- `prune` takes out as many names as `unused` lists. -/
theorem length_unused (m : String) (items : List Item) :
    (prune m items).2 = (unused m items).length := by
  rcases place m items with habs | ⟨before, d, after, rfl, hf⟩
  · rw [prune_of_absent habs, unused_of_absent habs, List.length_nil]
  · rw [prune_cut hf after rfl, unused_cut hf after rfl, dropped_thinned]

/-! ## Runs of prunings -/

/-- What prunings leave of a body, item by item, when the names in use are these. -/
inductive Pruned (used : String → Bool) : List Item → List Item → Prop
  | nil : Pruned used [] []
  | whole {items left : List Item} (item : Item) (h : Pruned used items left) :
      Pruned used (item :: items) (item :: left)
  | thinned {items left : List Item} (d : ImportDecl) (h : Pruned used items left) :
      Pruned used (.importing d :: items) (.importing (Imports.thinned used d) :: left)
  | gone {items left : List Item} {d : ImportDecl} (he : Emptied used d)
      (h : Pruned used items left) : Pruned used (.importing d :: items) left

theorem Pruned.refl (used : String → Bool) : ∀ items : List Item, Pruned used items items
  | [] => .nil
  | item :: items => .whole item (.refl used items)

theorem Pruned.behind {used : String → Bool} {items left : List Item} (h : Pruned used items left) :
    ∀ before : List Item, Pruned used (before ++ items) (before ++ left)
  | [] => h
  | item :: before => .whole item (h.behind before)

theorem Pruned.trans {used : String → Bool} {xs ys zs : List Item} (hxy : Pruned used xs ys)
    (hyz : Pruned used ys zs) : Pruned used xs zs := by
  induction hxy generalizing zs with
  | nil => exact hyz
  | whole item _ ih =>
    cases hyz with
    | whole _ h => exact .whole item (ih h)
    | thinned d h => exact .thinned d (ih h)
    | gone he h => exact .gone he (ih h)
  | thinned d _ ih =>
    cases hyz with
    | whole _ h => exact .thinned d (ih h)
    | thinned _ h => rw [thinned_thinned]; exact .thinned d (ih h)
    | gone he h =>
      -- what is left whole after a first thinning is not emptied by a second
      have hnil := he.2
      rw [thinned_thinned] at hnil
      exact absurd hnil he.1
  | gone he _ ih => exact .gone he (ih hyz)

/-- One pruning. -/
theorem prune_pruned (m : String) (items : List Item) :
    Pruned (isReferenced items) items (prune m items).1 := by
  rcases place m items with habs | ⟨before, d, after, rfl, hf⟩
  · rw [prune_of_absent habs]
    exact .refl _ items
  · obtain ⟨used, hused⟩ : ∃ used, isReferenced (before ++ .importing d :: after) = used := ⟨_, rfl⟩
    rw [hused]
    by_cases he : Emptied used d
    · rw [prune_delete hf after hused he]
      exact Pruned.behind (.gone he (.refl used after)) before
    · rw [prune_keep hf after hused he]
      exact Pruned.behind (.thinned d (.refl used after)) before

/-- Prunings for several modules, one after the other. -/
def prunes (ms : List String) (items : List Item) : List Item :=
  run (ms.map fun m => .single m .prune) items

/-- A run of prunings. -/
theorem prunes_pruned (ms : List String) (items : List Item) :
    Pruned (isReferenced items) items (prunes ms items) := by
  induction ms generalizing items with
  | nil => exact .refl _ items
  | cons m ms ih =>
    have hrest := ih (prune m items).1
    rw [(prune_change m items).isReferenced_eq] at hrest
    exact (prune_pruned m items).trans hrest

/-- A declaration that has nothing, or of which something stays, stands in its place, with all of it
that stays. -/
theorem Pruned.cut {used : String → Bool} {before after left : List Item} {d : ImportDecl}
    (h : Pruned used (before ++ .importing d :: after) left) (he : ¬ Emptied used d) :
    ∃ before' e after', left = before' ++ .importing e :: after' ∧ Pruned used before before' ∧
      Pruned used after after' ∧ (e = d ∨ e = Imports.thinned used d) := by
  induction before generalizing left with
  | nil =>
    cases h with
    | whole _ h => exact ⟨[], d, _, rfl, .nil, h, Or.inl rfl⟩
    | thinned _ h => exact ⟨[], _, _, rfl, .nil, h, Or.inr rfl⟩
    | gone hd _ => exact absurd hd he
  | cons item before ih =>
    cases h with
    | whole _ h =>
      obtain ⟨before', e, after', rfl, hb, ha, hor⟩ := ih h
      exact ⟨item :: before', e, after', rfl, .whole item hb, ha, hor⟩
    | thinned c h =>
      obtain ⟨before', e, after', rfl, hb, ha, hor⟩ := ih h
      exact ⟨_ :: before', e, after', rfl, .thinned c hb, ha, hor⟩
    | gone hc h =>
      obtain ⟨before', e, after', rfl, hb, ha, hor⟩ := ih h
      exact ⟨before', e, after', rfl, .gone hc hb, ha, hor⟩

theorem not_emptied_iff (used : String → Bool) (d : ImportDecl) :
    ¬ Emptied used d ↔ d.specifiers = [] ∨ ∃ s ∈ d.specifiers, stays used s = true := by
  rw [Emptied, specifiers_thinned, List.filter_eq_nil_iff]
  simp [Classical.or_iff_not_imp_left]

/-! ## Pruning twice -/

theorem unused_eq_nil {m : String} {items : List Item}
    (h : ∀ e, find? m items = some e → e.named = []) : unused m items = [] := by
  unfold unused
  split
  · rfl
  · rename_i e he
    rw [h e he]
    rfl

/-- No unused name is left where no declaration with names comes to the front. -/
theorem unused_prune {m : String} {items : List Item}
    (h : ∀ e ∈ (declarationsOf m items).tail, e.named = []) : unused m (prune m items).1 = [] := by
  rcases place m items with habs | ⟨before, d, after, rfl, hf⟩
  · rw [prune_of_absent habs, unused_of_absent habs]
  · have hsame := (prune_change m (before ++ .importing d :: after)).isReferenced_eq
    obtain ⟨used, hused⟩ : ∃ used, isReferenced (before ++ .importing d :: after) = used := ⟨_, rfl⟩
    rw [hused] at hsame
    by_cases he : Emptied used d
    · rw [declarationsOf_cut hf, List.tail_cons] at h
      rw [prune_delete hf after hused he]
      refine unused_eq_nil fun e hfound => h e ?_
      rw [find?_behind hf.absent, find?_eq_head?] at hfound
      exact List.mem_of_head? hfound
    · rw [prune_keep hf after hused he] at hsame ⊢
      rw [unused_cut (first_thinned hf used) after hsame, unusedNames_thinned]

theorem prune_eq_self {m : String} {items : List Item} (h : unused m items = []) :
    prune m items = (items, 0) := by
  have hzero : (prune m items).2 = 0 := by rw [length_unused, h, List.length_nil]
  exact Prod.ext ((countsChanges_prune m items).1 hzero) hzero

/-! ## All together -/

/-- Pruning a module takes the unused names out of its first declaration and nothing else, as many
as `unused` lists; the declaration goes exactly when names were taken out and no specifier of any
kind is left. Any run of prunings leaves the items in their order, each whole or without its unused
names, but for declarations that had nothing else. So a declaration without specifiers, or of which
something stays, stands between what is left of the items before it and of those behind it, with all
that stays. Where only the first declaration of the module has names, none is unused afterwards, and
a second pruning does nothing. -/
theorem prune_exact (m : String) (items : List Item) :
    (prune m items).2 = (unused m items).length ∧
      (find? m items = none → (prune m items).1 = items) ∧
      (∀ d, find? m items = some d →
        ∃ before after kept, items = before ++ .importing d :: after ∧ First m before d ∧
          kept = d.specifiers.filter (stays (isReferenced items)) ∧
          (0 < (prune m items).2 ∧ kept = [] → (prune m items).1 = before ++ after) ∧
          (¬ (0 < (prune m items).2 ∧ kept = []) →
            (prune m items).1 = before ++ .importing { d with specifiers := kept } :: after)) ∧
      (∀ ms, Pruned (isReferenced items) items (prunes ms items)) ∧
      (∀ ms before d after, items = before ++ .importing d :: after →
        d.specifiers = [] ∨ (∃ s ∈ d.specifiers, stays (isReferenced items) s = true) →
        ∃ before' e after', prunes ms items = before' ++ .importing e :: after' ∧
          Pruned (isReferenced items) before before' ∧ Pruned (isReferenced items) after after' ∧
          { e with specifiers := d.specifiers } = d ∧
          (d.specifiers.filter (stays (isReferenced items))).Sublist e.specifiers) ∧
      ((∀ e ∈ (declarationsOf m items).tail, e.named = []) →
        unused m (prune m items).1 = [] ∧
          prune m (prune m items).1 = ((prune m items).1, 0)) := by
  refine ⟨length_unused m items, fun hnone => ?_, fun d hd => ?_,
    fun ms => prunes_pruned ms items, ?_,
    fun h => ⟨unused_prune h, prune_eq_self (unused_prune h)⟩⟩
  · rw [prune_of_absent (absent_of_find?_eq_none hnone)]
  · rcases place m items with habs | ⟨before, d', after, rfl, hf⟩
    · rw [find?_of_absent habs] at hd
      cases hd
    · obtain rfl : d' = d := Option.some.inj ((find?_cut hf after).symm.trans hd)
      refine ⟨before, after, _, rfl, hf, rfl, ?_⟩
      rw [← specifiers_thinned]
      exact prune_found hf after rfl
  · rintro ms before d after rfl hd
    obtain ⟨before', e, after', hleft, hb, ha, he⟩ :=
      (prunes_pruned ms _).cut ((not_emptied_iff _ d).2 hd)
    refine ⟨before', e, after', hleft, hb, ha, ?_⟩
    rcases he with rfl | rfl
    · exact ⟨rfl, List.filter_sublist⟩
    · rw [thinned_eq_filter]
      exact ⟨rfl, List.Sublist.refl _⟩

/-- A declaration with names that comes to the front has its own unused ones. -/
example :
    prune "m" [.importing (declarationOf "m" ["a"]), .importing (declarationOf "m" ["b"])] =
        ([.importing (declarationOf "m" ["b"])], 1) ∧
      unused "m" [.importing (declarationOf "m" ["b"])] = ["b"] :=
  ⟨rfl, rfl⟩

end Codemod.Imports
