import Codemod.Command.Run
import Codemod.Proofs.Imports.Grouping
import Codemod.Proofs.Imports.RemoveTwice

/-!
# Counting changes

An edit of a file returns how many changes it has made, and the file is written only when there are
some. A change that was not counted would be lost, so the count has to be zero for no other body
than the one the edit started from (`CountsChanges`).

Adding and pruning count specifiers, so their counts are differences of `specifierCount`, the number
of specifiers in the body. Removing is different: a declaration without names goes although no
specifier was asked for, and the edit counts the items that have gone as well.

Results:
* `dropped_keepNamed`: the specifiers that are dropped are named ones that fail the test.
* `dropped_keepNamed_eq_zero_iff`: no specifier is dropped exactly when the declaration stays as it
  is.
* `specifierCount_ensure`, `specifierCount_prune`: what the counts of adding and pruning measure.
* `length_remove_le`: removing never makes a body longer, so the items that have gone can be
  counted.
* `countsChanges_apply`, `countsChanges_removeEdit`, `countsChanges_prune`: the three counts are
  zero only when nothing has changed.
* `change_counts_exact`: all of this together.
-/
namespace Codemod.Imports

/-- The count of an edit is zero exactly when the edit leaves the body as it was. -/
def CountsChanges (edit : Command.Edit) : Prop :=
  ∀ items, (edit items).2 = 0 ↔ (edit items).1 = items

/-! ## Specifiers of a body -/

/-- The number of specifiers of all import declarations of a body. -/
def specifierCount (items : List Item) : Nat :=
  ((declarations items).flatMap (·.specifiers)).length

@[simp] theorem specifierCount_append (xs ys : List Item) :
    specifierCount (xs ++ ys) = specifierCount xs + specifierCount ys := by
  simp [specifierCount]

@[simp] theorem specifierCount_importing (d : ImportDecl) (items : List Item) :
    specifierCount (.importing d :: items) = d.specifiers.length + specifierCount items := by
  simp [specifierCount]

@[simp] theorem length_specifiers_declarationOf (m : String) (names : List String) :
    (declarationOf m names).specifiers.length = names.length := by
  simp [declarationOf]

@[simp] theorem length_specifiers_append (names : List String) (d : ImportDecl) :
    (append names d).specifiers.length = d.specifiers.length + names.length := by
  have hspread : (spreadType d).specifiers.length = d.specifiers.length := by
    unfold spreadType
    split
    · exact List.length_map ..
    · rfl
  simp [append, hspread]

/-! ## Specifiers of a declaration that are dropped -/

theorem sublist_keepNamed (test : NamedSpecifier → Bool) (d : ImportDecl) :
    (keepNamed test d).specifiers.Sublist d.specifiers := List.filter_sublist

theorem length_keepNamed_add_dropped (test : NamedSpecifier → Bool) (d : ImportDecl) :
    (keepNamed test d).specifiers.length + dropped d (keepNamed test d) = d.specifiers.length := by
  have hle := (sublist_keepNamed test d).length_le
  unfold dropped
  omega

/-- What is dropped are the named specifiers that fail the test. -/
theorem dropped_keepNamed (test : NamedSpecifier → Bool) (d : ImportDecl) :
    dropped d (keepNamed test d) = d.named.countP (!test ·) := by
  have hsum : d.specifiers.length =
      (keepNamed test d).specifiers.length + d.named.countP (!test ·) := by
    rw [ImportClause.named, List.countP_filterMap, keepNamed, ← List.countP_eq_length_filter]
    refine (List.length_eq_countP_add_countP _).trans (congrArg _ (List.countP_congr fun s _ => ?_))
    cases s <;> simp [ImportSpecifier.named?]
  rw [dropped]
  omega

theorem dropped_keepNamed_eq_zero_iff (test : NamedSpecifier → Bool) (d : ImportDecl) :
    dropped d (keepNamed test d) = 0 ↔ keepNamed test d = d := by
  constructor
  · intro h
    have hlen := length_keepNamed_add_dropped test d
    have hsame : (keepNamed test d).specifiers = d.specifiers :=
      (sublist_keepNamed test d).eq_of_length (by omega)
    exact congrArg (fun specifiers => { d with specifiers := specifiers }) hsame
  · intro h
    rw [h, dropped, Nat.sub_self]

/-! ## Adding -/

theorem specifierCount_ensure (r : Request) (items : List Item) :
    specifierCount (ensure r items).items = specifierCount items + (ensure r items).added := by
  have h := ensure_spec r items
  generalize ensure r items = done at h ⊢
  cases h with
  | unwanted => rfl
  | fresh =>
    simp only [specifierCount_append, specifierCount_importing, length_specifiers_declarationOf]
    omega
  | present => rfl
  | extend =>
    simp only [specifierCount_append, specifierCount_importing, length_specifiers_append]
    omega
  | precede =>
    simp only [specifierCount_append, specifierCount_importing, length_specifiers_declarationOf]
    omega

theorem items_ensure_of_added_eq_zero {r : Request} {items : List Item}
    (h0 : (ensure r items).added = 0) : (ensure r items).items = items := by
  have h := ensure_spec r items
  generalize ensure r items = done at h h0 ⊢
  cases h with
  | unwanted => rfl
  | fresh _ _ hn => exact absurd (List.length_eq_zero_iff.1 h0) (missing_nil_ne_nil hn)
  | present => rfl
  | extend _ hm => exact absurd (List.length_eq_zero_iff.1 h0) hm
  | precede _ hm => exact absurd (List.length_eq_zero_iff.1 h0) hm

theorem countsChanges_apply (r : Request) : CountsChanges (apply r) := by
  intro items
  refine ⟨items_ensure_of_added_eq_zero, fun hsame => ?_⟩
  have hcount := specifierCount_ensure r items
  rw [show (ensure r items).items = items from hsame] at hcount
  show (ensure r items).added = 0
  omega

/-! ## Pruning -/

theorem prune_of_absent {m : String} {items : List Item} (h : Absent m items) :
    prune m items = (items, 0) := by
  simp [prune, find?_of_absent h]

/-- The declaration without the names that are not used. -/
def thinned (used : String → Bool) (d : ImportDecl) : ImportDecl :=
  keepNamed (fun s => used s.binding.text) d

theorem length_thinned_add_dropped (used : String → Bool) (d : ImportDecl) :
    (thinned used d).specifiers.length + dropped d (thinned used d) = d.specifiers.length :=
  length_keepNamed_add_dropped _ d

/-- `prune` on a body cut at the declaration it works on, which stays without its unused names
unless it had no other specifiers. -/
theorem prune_cut {m : String} {before : List Item} {d : ImportDecl} (hf : First m before d)
    (after : List Item) {used : String → Bool}
    (hused : isReferenced (before ++ .importing d :: after) = used) :
    prune m (before ++ .importing d :: after) =
      (before ++ ((if dropped d (thinned used d) > 0 && (thinned used d).specifiers.isEmpty then []
        else [.importing (thinned used d)]) ++ after), dropped d (thinned used d)) := by
  subst hused
  rw [prune, find?_cut hf]
  dsimp only
  rw [replaceFirst_cut hf]
  rfl

theorem specifierCount_prune (m : String) (items : List Item) :
    specifierCount items = specifierCount (prune m items).1 + (prune m items).2 := by
  rcases place m items with habs | ⟨before, d, after, rfl, hf⟩
  · rw [prune_of_absent habs]; rfl
  · have hsum := length_thinned_add_dropped (isReferenced (before ++ .importing d :: after)) d
    rw [prune_cut hf after rfl]
    split
    · -- the declaration has gone, and with it none but the specifiers that were dropped
      rename_i hgone
      rw [Bool.and_eq_true, List.isEmpty_iff] at hgone
      rw [hgone.2, List.length_nil] at hsum
      simp only [specifierCount_append, specifierCount_importing, List.nil_append]
      omega
    · simp only [specifierCount_append, specifierCount_importing, List.cons_append,
        List.nil_append]
      omega

theorem countsChanges_prune (m : String) : CountsChanges (prune m) := by
  intro items
  constructor
  · intro h0
    rcases place m items with habs | ⟨before, d, after, rfl, hf⟩
    · rw [prune_of_absent habs]
    · rw [prune_cut hf after rfl] at h0 ⊢
      have hzero : dropped d (thinned (isReferenced (before ++ .importing d :: after)) d) = 0 := h0
      have hsame : thinned (isReferenced (before ++ .importing d :: after)) d = d :=
        (dropped_keepNamed_eq_zero_iff _ d).1 hzero
      rw [hzero, if_neg (by simp), hsame]
      rfl
  · intro hsame
    have hcount := specifierCount_prune m items
    rw [hsame] at hcount
    omega

/-! ## Removing -/

theorem length_remove_le (m : String) (names : List String) (items : List Item) :
    (remove m names items).1.length ≤ items.length := by
  rcases place m items with habs | ⟨before, d, after, rfl, hf⟩
  · exact Nat.le_of_eq (by rw [remove_of_absent habs])
  · by_cases hall : ∀ x ∈ d.names, x ∈ names
    · rw [remove_delete hf after hall]
      simp
    · rw [remove_keep hf after hall]
      simp

theorem countsChanges_removeEdit (m : String) (names : List String) :
    CountsChanges (Command.removeEdit m names) := by
  intro items
  simp only [Command.removeEdit]
  rcases place m items with habs | ⟨before, d, after, rfl, hf⟩
  · rw [remove_of_absent habs]
    simp
  · by_cases hall : ∀ x ∈ d.names, x ∈ names
    · -- the item that has gone is counted, whatever was dropped with it
      rw [remove_delete hf after hall]
      refine iff_of_false ?_ ?_
      · simp only [List.length_append, List.length_cons]
        omega
      · intro hsame
        have hlen := congrArg List.length hsame
        simp only [List.length_append, List.length_cons] at hlen
        omega
    · rw [remove_keep hf after hall]
      simp only [List.length_append, List.length_cons, Nat.sub_self, Nat.add_zero,
        List.append_cancel_left_eq, List.cons.injEq, Item.importing.injEq, and_true]
      exact dropped_keepNamed_eq_zero_iff _ d

/-! ## The three counts -/

/-- The counts of adding, removing and pruning are zero exactly when the body is as it was. Adding
counts the specifiers that have come and pruning those that have gone; removing counts the items
that have gone beside the specifiers, and their number is no truncated difference. -/
theorem change_counts_exact (m : String) (names : List String) :
    CountsChanges (apply ⟨names, m⟩) ∧ CountsChanges (Command.removeEdit m names) ∧
      CountsChanges (prune m) ∧ ∀ items,
        ((Command.removeEdit m names items).1 = (remove m names items).1 ∧
          (remove m names items).1.length ≤ items.length ∧
          (Command.removeEdit m names items).2 + (remove m names items).1.length =
            (remove m names items).2 + items.length) ∧
        specifierCount (apply ⟨names, m⟩ items).1 =
          specifierCount items + (apply ⟨names, m⟩ items).2 ∧
        specifierCount items = specifierCount (prune m items).1 + (prune m items).2 := by
  refine ⟨countsChanges_apply _, countsChanges_removeEdit m names, countsChanges_prune m,
    fun items => ⟨⟨rfl, length_remove_le m names items, ?_⟩,
      specifierCount_ensure ⟨names, m⟩ items, specifierCount_prune m items⟩⟩
  have hle := length_remove_le m names items
  simp only [Command.removeEdit]
  omega

end Codemod.Imports
