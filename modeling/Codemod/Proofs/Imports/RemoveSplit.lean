import Codemod.Proofs.Imports.Counts

/-!
# Removing names in several goes

Where a module has one declaration at most, removing names is one thing, however the names are dealt
out: in one go or in two, in any order, with repeats or without. Deleting the declaration with its
last name does not spoil this, as a declaration is deleted only when no name is left to be removed
in the second go. With more declarations it does: the second go would work on the next one.

Results:
* `without_append`, `dropped_add`: giving names up in two goes, and how many specifiers go.
* `remove_congr`: only which names there are matters.
* `remove_remove`: two goes are one go.
* `find?_remove`: what is found afterwards.
* `remove_splits`: all of this together.
-/
namespace Codemod.Imports

/-! ## One declaration -/

theorem without_append (xs ys : List String) (d : ImportDecl) :
    without ys (without xs d) = without (xs ++ ys) d := by
  rw [without, without, keepNamed_comp]
  exact keepNamed_congr fun s _ => by simp [Bool.and_comm]

theorem without_congr {xs ys : List String} (h : ∀ x, x ∈ xs ↔ x ∈ ys) (d : ImportDecl) :
    without xs d = without ys d := by
  have hcontains : ∀ x, xs.contains x = ys.contains x := by
    intro x
    rw [Bool.eq_iff_iff, List.contains_iff_mem, List.contains_iff_mem]
    exact h x
  simp only [without, hcontains]

theorem dropped_add (xs ys : List String) (d : ImportDecl) :
    dropped d (without xs d) + dropped (without xs d) (without ys (without xs d)) =
      dropped d (without ys (without xs d)) := by
  have hx := (sublist_keepNamed (fun s => !xs.contains s.importedText) d).length_le
  have hy := (sublist_keepNamed (fun s => !ys.contains s.importedText) (without xs d)).length_le
  unfold dropped without at *
  omega

theorem first_without {m : String} {before : List Item} {d : ImportDecl} (hf : First m before d)
    (names : List String) : First m before (without names d) := ⟨hf.absent, hf.module_eq⟩

/-! ## A body with one declaration of the module -/

theorem remove_congr {m : String} {xs ys : List String} (h : ∀ x, x ∈ xs ↔ x ∈ ys)
    (items : List Item) : remove m xs items = remove m ys items := by
  rcases place m items with habs | ⟨before, d, after, rfl, hf⟩
  · rw [remove_of_absent habs, remove_of_absent habs]
  · rw [remove_cut hf, remove_cut hf, without_congr h]

/-- The body of a module with one declaration can be cut so that none is left on either side. -/
theorem absent_after {m : String} {before : List Item} {d : ImportDecl} (hf : First m before d)
    {after : List Item}
    (h : (declarationsOf m (before ++ .importing d :: after)).length ≤ 1) : Absent m after := by
  rw [declarationsOf_cut hf, List.length_cons] at h
  exact (absent_iff_declarationsOf m after).2 (List.length_eq_zero_iff.1 (by omega))

theorem remove_remove {m : String} {items : List Item} (h : (declarationsOf m items).length ≤ 1)
    (xs ys : List String) :
    remove m (xs ++ ys) items =
      ((remove m ys (remove m xs items).1).1,
        (remove m xs items).2 + (remove m ys (remove m xs items).1).2) := by
  rcases place m items with habs | ⟨before, d, after, rfl, hf⟩
  · simp only [remove_of_absent habs]
  · by_cases hall : ∀ x ∈ d.names, x ∈ xs
    · -- the declaration goes in the first go and leaves no other to be found in the second
      have hgone : Absent m (before ++ after) :=
        (absent_append m before after).2 ⟨hf.absent, absent_after hf h⟩
      have hnone : (without xs d).named = [] := (without_named_eq_nil_iff xs d).2 hall
      have hsame : without (xs ++ ys) d = without xs d := by
        rw [← without_append, without_eq_self_iff, ImportDecl.names, hnone]
        simp
      rw [remove_delete hf after hall, remove_of_absent hgone,
        remove_delete hf after fun x hx => List.mem_append_left ys (hall x hx), hsame]
      rfl
    · rw [remove_keep hf after hall, remove_cut (first_without hf xs), remove_cut hf,
        ← without_append, ← dropped_add]

/-- The declaration that is found after removing names is the old one without them, and is gone
exactly when none of its names is left. -/
theorem find?_remove {m : String} {items : List Item} (h : (declarationsOf m items).length ≤ 1)
    (names : List String) :
    find? m (remove m names items).1 =
      (find? m items).bind fun d => if (without names d).named = [] then none
        else some (without names d) := by
  rcases place m items with habs | ⟨before, d, after, rfl, hf⟩
  · rw [remove_of_absent habs, find?_of_absent habs]
    rfl
  · rw [find?_cut hf, Option.bind_some]
    by_cases hall : ∀ x ∈ d.names, x ∈ names
    · rw [remove_delete hf after hall, if_pos ((without_named_eq_nil_iff names d).2 hall),
        find?_behind hf.absent, find?_of_absent (absent_after hf h)]
    · rw [remove_keep hf after hall, if_neg fun hn => hall ((without_named_eq_nil_iff names d).1 hn),
        find?_cut (first_without hf names)]

/-! ## Splitting a removal -/

/-- Is the specifier a named one that asks for one of the names? -/
def asksFor (names : List String) : ImportSpecifier → Bool
  | .named s => names.contains s.importedText
  | _ => false

theorem without_eq_filter (names : List String) (d : ImportDecl) :
    without names d = { d with specifiers := d.specifiers.filter (!asksFor names ·) } := by
  have hfilter : (without names d).specifiers = d.specifiers.filter (!asksFor names ·) := by
    refine List.filter_congr fun s _ => ?_
    cases s <;> rfl
  exact congrArg (fun specifiers => { d with specifiers := specifiers }) hfilter

/-- Where a module has at most one declaration, removing the names of two lists at once is removing
those of the one and then those of the other, and the numbers of removed names add up; only which
names they are matters. What is found afterwards is the old declaration without the specifiers that
ask for one of the names, and it has a name left; nothing is found exactly when the module was not
imported, or all names of its declaration were removed. -/
theorem remove_splits (m : String) (items : List Item) (h : (declarationsOf m items).length ≤ 1)
    (xs ys : List String) :
    remove m (xs ++ ys) items =
        ((remove m ys (remove m xs items).1).1,
          (remove m xs items).2 + (remove m ys (remove m xs items).1).2) ∧
      (∀ zs, (∀ x, x ∈ zs ↔ x ∈ xs ++ ys) → remove m zs items = remove m (xs ++ ys) items) ∧
      (∀ e, find? m (remove m (xs ++ ys) items).1 = some e →
        ∃ d, find? m items = some d ∧
          e = { d with specifiers := d.specifiers.filter (!asksFor (xs ++ ys) ·) } ∧ e.named ≠ []) ∧
      (find? m (remove m (xs ++ ys) items).1 = none ↔
        find? m items = none ∨
          ∃ d, find? m items = some d ∧ ∀ s ∈ d.named, s.importedText ∈ xs ++ ys) := by
  refine ⟨remove_remove h xs ys, fun zs hzs => remove_congr hzs items, ?_, ?_⟩
  · intro e he
    rw [find?_remove h, Option.bind_eq_some_iff] at he
    obtain ⟨d, hd, he⟩ := he
    split at he
    · cases he
    · rename_i hleft
      obtain rfl := Option.some.inj he
      exact ⟨d, hd, without_eq_filter _ d, hleft⟩
  · rw [find?_remove h]
    cases find? m items with
    | none => simp
    | some d =>
      simp only [Option.bind_some, ite_eq_left_iff, reduceCtorEq, imp_false, Classical.not_not,
        false_or, Option.some.injEq, exists_eq_left']
      rw [without_named_eq_nil_iff, forall_mem_names]

/-- `import D, { a, "b-c" as b, a as e, d } from 'm'`. -/
def mixedNames : ImportDecl :=
  ⟨⟨none, false, .evaluation,
    [.default ⟨"D", none⟩, .named ⟨none, none, ⟨"a", none⟩, false⟩,
      .named ⟨none, some (.string ⟨"b-c", none, none⟩), ⟨"b", none⟩, false⟩,
      .named ⟨none, some (.ident ⟨"a", none⟩), ⟨"e", none⟩, false⟩,
      .named ⟨none, none, ⟨"d", none⟩, false⟩],
    ⟨"m", none, none⟩⟩, none⟩

/-- Both specifiers for `a` go with the first list, the one for `b-c` with the second, and `d` is
left beside the default binding. -/
theorem remove_splits_mixed :
    (declarationsOf "m" [.importing mixedNames]).length ≤ 1 ∧
      remove "m" (["a", "a"] ++ ["b-c", "b"]) [.importing mixedNames] =
        ([.importing { mixedNames with
            specifiers := [.default ⟨"D", none⟩, .named ⟨none, none, ⟨"d", none⟩, false⟩] }],
          2 + 1) :=
  ⟨atMostOnce_singleton _ "m",
    (remove_splits "m" [.importing mixedNames] (atMostOnce_singleton _ "m") ["a", "a"]
      ["b-c", "b"]).1⟩

end Codemod.Imports
