import Codemod.Proofs.Imports.Prune
import Codemod.Proofs.Imports.RemoveSplit

/-!
# Pruning beside the other edits

`prune` picks specifiers by what they are bound to, `remove` by the name they ask for, and the two
delete a declaration for different reasons: `prune` when nothing at all is left of it, `remove` when
no name is. Listing the unused names and removing them is therefore pruning only where the
specifiers for one name are all used or all unused, and where the two reasons come to the same.

Names that nothing refers to do not survive a pruning. So ensuring such names before it makes no
difference, where pruning can undo all that `ensure` has done: it takes the names out again, but
does not put a `type` back, and it deletes a declaration that had no specifiers before.

Results:
* `without_unusedNames_eq_iff`: when giving up the unused names is the same as thinning.
* `emptied_iff_nameless_iff`: when the two reasons for deleting come to the same.
* `prune_eq_remove_iff`: when pruning is removing what is listed as unused.
* `thinned_append`, `emptied_append_iff`: pruning a declaration that has got unused names.
* `prune_ensure_unused`: when ensuring unused names is not seen after a pruning.
-/
namespace Codemod.Imports

/-! ## Giving up the unused names -/

theorem mem_unusedNames {used : String → Bool} {d : ImportDecl} {x : String} :
    x ∈ unusedNames used d ↔ ∃ s ∈ d.named, used s.binding.text = false ∧ s.importedText = x := by
  simp [unusedNames, and_assoc]

/-- Specifiers that ask for one name are all used or all unused. -/
def UsedTogether (used : String → Bool) (d : ImportDecl) : Prop :=
  ∀ s ∈ d.named, ∀ t ∈ d.named, s.importedText = t.importedText →
    used s.binding.text = used t.binding.text

/-- Giving up the unused names goes at least as far as thinning. -/
theorem without_unusedNames_thinned (used : String → Bool) (d : ImportDecl) :
    without (unusedNames used d) (thinned used d) = without (unusedNames used d) d := by
  rw [without, thinned, keepNamed_comp]
  refine keepNamed_congr fun s hs => ?_
  cases hu : used s.binding.text with
  | true => rw [Bool.and_true]
  | false =>
    have hmem : s.importedText ∈ unusedNames used d := mem_unusedNames.2 ⟨s, hs, hu, rfl⟩
    simp [hmem]

theorem without_unusedNames_eq_iff (used : String → Bool) (d : ImportDecl) :
    without (unusedNames used d) d = thinned used d ↔ UsedTogether used d := by
  rw [← without_unusedNames_thinned, without_eq_self_iff, forall_mem_names, named_thinned]
  simp only [List.mem_filter, mem_unusedNames]
  constructor
  · intro h s hs t ht hst
    cases hsu : used s.binding.text with
    | true =>
      cases htu : used t.binding.text with
      | true => rfl
      | false => exact absurd ⟨t, ht, htu, hst.symm⟩ (h s ⟨hs, hsu⟩)
    | false =>
      cases htu : used t.binding.text with
      | true => exact absurd ⟨s, hs, hsu, hst⟩ (h t ⟨ht, htu⟩)
      | false => rfl
  · rintro h s ⟨hs, hsu⟩ ⟨t, ht, htu, hts⟩
    rw [h s hs t ht hts.symm, htu] at hsu
    cases hsu

/-- As many specifiers go only if the same ones go. -/
theorem without_unusedNames_of_dropped {used : String → Bool} {d : ImportDecl}
    (h : dropped d (thinned used d) = dropped d (without (unusedNames used d) d)) :
    without (unusedNames used d) d = thinned used d := by
  have hthin := length_thinned_add_dropped used d
  have hgive : (without (unusedNames used d) d).specifiers.length +
      dropped d (without (unusedNames used d) d) = d.specifiers.length :=
    length_keepNamed_add_dropped _ d
  have hzero : dropped (thinned used d) (without (unusedNames used d) (thinned used d)) = 0 := by
    rw [without_unusedNames_thinned, dropped]
    omega
  rw [← without_unusedNames_thinned]
  exact (dropped_keepNamed_eq_zero_iff _ _).1 hzero

/-! ## Pruning as removing -/

/-- Nothing at all is left just when no name is: there is a used name, or there were only names, and
at least one. -/
theorem emptied_iff_nameless_iff (used : String → Bool) (d : ImportDecl) :
    (Emptied used d ↔ (thinned used d).named = []) ↔
      (∃ s ∈ d.named, used s.binding.text = true) ∨
        d.named ≠ [] ∧ ∀ s ∈ d.specifiers, ∃ n, s = .named n := by
  by_cases hu : ∃ s ∈ d.named, used s.binding.text = true
  · obtain ⟨s, hs, hsu⟩ := hu
    have hleft : s ∈ (thinned used d).named := by
      rw [named_thinned]
      exact List.mem_filter.2 ⟨hs, hsu⟩
    have he : ¬ Emptied used d := fun he => List.ne_nil_of_mem (mem_named.1 hleft) he.2
    exact iff_of_true (iff_of_false he (List.ne_nil_of_mem hleft)) (Or.inl ⟨s, hs, hsu⟩)
  · have hnone : (thinned used d).named = [] := by
      rw [named_thinned, List.filter_eq_nil_iff]
      exact fun s hs hsu => hu ⟨s, hs, hsu⟩
    rw [iff_true_right hnone, or_iff_right hu, Emptied, specifiers_thinned, List.filter_eq_nil_iff]
    constructor
    · rintro ⟨hne, hgo⟩
      have hall : ∀ s ∈ d.specifiers, ∃ n, s = .named n := by
        intro s hs
        cases s with
        | named n => exact ⟨n, rfl⟩
        | default b => exact absurd rfl (hgo _ hs)
        | star b => exact absurd rfl (hgo _ hs)
      obtain ⟨s, hs⟩ := List.exists_mem_of_ne_nil _ hne
      obtain ⟨n, rfl⟩ := hall s hs
      exact ⟨List.ne_nil_of_mem (mem_named.2 hs), hall⟩
    · rintro ⟨hne, hall⟩
      obtain ⟨n, hn⟩ := List.exists_mem_of_ne_nil _ hne
      refine ⟨List.ne_nil_of_mem (mem_named.1 hn), fun s hs hstays => ?_⟩
      obtain ⟨t, rfl⟩ := hall s hs
      exact hu ⟨t, mem_named.2 hs, hstays⟩

theorem prune_eq_remove_cut_iff {m : String} {before : List Item} {d : ImportDecl}
    (hf : First m before d) (after : List Item) {used : String → Bool}
    (hused : isReferenced (before ++ .importing d :: after) = used) :
    prune m (before ++ .importing d :: after) =
        remove m (unused m (before ++ .importing d :: after)) (before ++ .importing d :: after) ↔
      UsedTogether used d ∧ (Emptied used d ↔ (thinned used d).named = []) := by
  rw [unused_cut hf after hused, ← without_unusedNames_eq_iff]
  constructor
  · intro h
    have hsame : without (unusedNames used d) d = thinned used d := by
      refine without_unusedNames_of_dropped ?_
      rw [prune_cut hf after hused, remove_cut hf] at h
      exact congrArg Prod.snd h
    refine ⟨hsame, ?_⟩
    rw [remove_cut hf, hsame] at h
    have hlen := congrArg (fun p => p.1.length) h
    by_cases he : Emptied used d
    · by_cases hn : (thinned used d).named = []
      · exact iff_of_true he hn
      · simp [prune_delete hf after hused he, hn] at hlen
    · by_cases hn : (thinned used d).named = []
      · simp [prune_keep hf after hused he, hn] at hlen
      · exact iff_of_false he hn
  · rintro ⟨hsame, hiff⟩
    rw [remove_cut hf, hsame]
    by_cases he : Emptied used d
    · rw [prune_delete hf after hused he, if_pos (by rw [List.isEmpty_iff]; exact hiff.1 he)]
      rfl
    · rw [prune_keep hf after hused he, if_neg (by rw [List.isEmpty_iff]; exact mt hiff.2 he)]
      rfl

/-- Pruning a module is removing the names that are listed as unused, with the same count, exactly
when the module is not imported, or the specifiers of its first declaration for one name are all
used or all unused, and the declaration has a used name, or has names and nothing else. -/
theorem prune_eq_remove_iff (m : String) (items : List Item) :
    prune m items = remove m (unused m items) items ↔
      ∀ d, find? m items = some d →
        (∀ s ∈ d.named, ∀ t ∈ d.named, s.importedText = t.importedText →
          isReferenced items s.binding.text = isReferenced items t.binding.text) ∧
        ((∃ s ∈ d.named, isReferenced items s.binding.text = true) ∨
          d.named ≠ [] ∧ ∀ s ∈ d.specifiers, ∃ n, s = .named n) := by
  rcases place m items with habs | ⟨before, d, after, rfl, hf⟩
  · rw [prune_of_absent habs, remove_of_absent habs, find?_of_absent habs]
    simp
  · simp only [find?_cut hf, Option.some.injEq, forall_eq']
    rw [prune_eq_remove_cut_iff hf after rfl, emptied_iff_nameless_iff]
    rfl

/-! ## Pruning after ensuring -/

section
variable {used : String → Bool} {names : List String} (hun : ∀ x ∈ names, used x = false)
include hun

theorem filter_stays_specifierOf : (names.map specifierOf).filter (stays used) = [] := by
  rw [List.filter_eq_nil_iff]
  simpa [specifierOf, stays] using hun

theorem emptied_declarationOf (hne : names ≠ []) (m : String) :
    Emptied used (declarationOf m names) := by
  refine ⟨by simpa [declarationOf] using hne, ?_⟩
  rw [specifiers_thinned]
  exact filter_stays_specifierOf hun

variable {d : ImportDecl} (hv : d.typeOnly = false)
include hv

theorem thinned_append : thinned used (append names d) = thinned used d := by
  rw [thinned_eq_filter, thinned_eq_filter, append, spreadType_of_value hv]
  simp only [List.filter_append, filter_stays_specifierOf hun, List.append_nil]

/-- A declaration that had specifiers is emptied with new names just when it would be without. -/
theorem emptied_append_iff (hs : d.specifiers ≠ []) :
    Emptied used (append names d) ↔ Emptied used d := by
  have hs' : (append names d).specifiers ≠ [] := by
    rw [append, spreadType_of_value hv]
    simp [hs]
  rw [Emptied, Emptied, thinned_append hun hv]
  exact and_congr_left fun _ => iff_of_true hs' hs

end

/-- A declaration for values takes names unless it binds a namespace. -/
theorem exists_star_of_value {d : ImportDecl} (hv : d.typeOnly = false)
    (ha : acceptsNames d = false) : ∃ b, .star b ∈ d.specifiers := by
  rcases (acceptsNames_eq_false_iff d).1 ha with hstar | ⟨ht, -⟩
  · exact hstar
  · rw [hv] at ht
    cases ht

theorem items_prune_ensure {r : Request} {items : List Item}
    (hstar : ∀ d ∈ declarations items, (∃ b, .star b ∈ d.specifiers) → d.named = [])
    (hun : ∀ x ∈ r.names, isReferenced items x = false)
    (hfirst : ∀ d, find? r.module items = some d → d.typeOnly = false ∧ d.specifiers ≠ []) :
    (prune r.module (ensure r items).items).1 = (prune r.module items).1 := by
  have hused := (ensure_change r items).isReferenced_eq
  have hmissing : ∀ present, ∀ x ∈ missing present r.names, isReferenced items x = false :=
    fun present x hx => hun x (mem_missing.1 hx).1
  have h := ensure_spec r items
  generalize ensure r items = done at h hused ⊢
  cases h with
  | unwanted => rfl
  | @fresh before after habs _ hn =>
    -- the new declaration goes as it came
    have hnew := first_declarationOf ((absent_append _ _ _).1 habs).1 (missing [] r.names)
    have he := emptied_declarationOf (hmissing []) (missing_nil_ne_nil hn) r.module
    rw [prune_delete hnew after hused he, prune_of_absent habs]
  | present => rfl
  | @extend before after d hf hm ha =>
    obtain ⟨hv, hs⟩ := hfirst d (find?_cut hf after)
    have hiff := emptied_append_iff (hmissing d.names) hv hs
    by_cases he : Emptied (isReferenced (before ++ .importing d :: after)) d
    · rw [prune_delete (hf.append _) after hused (hiff.2 he), prune_delete hf after rfl he]
    · rw [prune_keep (hf.append _) after hused (mt hiff.1 he), prune_keep hf after rfl he,
        thinned_append (hmissing d.names) hv]
  | @precede before after d hf hm ha =>
    -- the declaration behind binds a namespace, so it has no names to be pruned
    obtain ⟨hv, -⟩ := hfirst d (find?_cut hf after)
    have hnamed : d.named = [] := hstar d (by simp) (exists_star_of_value hv ha)
    have hself : unused r.module (before ++ .importing d :: after) = [] := by
      refine unused_eq_nil fun e he => ?_
      rw [find?_cut hf] at he
      rw [← Option.some.inj he]
      exact hnamed
    have hnew := first_declarationOf hf.absent (missing d.names r.names)
    have he := emptied_declarationOf (hmissing d.names) hm r.module
    rw [prune_delete hnew _ hused he, prune_eq_self hself]

/-- In a body where no declaration has names beside a namespace binding, ensuring names that nothing
refers to and then pruning the module leaves what pruning alone leaves, and takes out the added
names beside the others, when the module is not imported or its first declaration is for values and
has specifiers. -/
theorem prune_ensure_unused (r : Request) (items : List Item)
    (hstar : ∀ d ∈ declarations items, (∃ b, .star b ∈ d.specifiers) → d.named = [])
    (hun : ∀ x ∈ r.names, isReferenced items x = false)
    (hfirst : ∀ d, find? r.module items = some d → d.typeOnly = false ∧ d.specifiers ≠ []) :
    (prune r.module (ensure r items).items).1 = (prune r.module items).1 ∧
      (prune r.module (ensure r items).items).2 =
        (prune r.module items).2 + (ensure r items).added := by
  have hbody := items_prune_ensure hstar hun hfirst
  refine ⟨hbody, ?_⟩
  have hadded := specifierCount_ensure r items
  have hboth := specifierCount_prune r.module (ensure r items).items
  have halone := specifierCount_prune r.module items
  rw [hbody] at hboth
  omega

/-- `import D, { a, "b-c" as b, a as e, d } from 'm'; e;`. -/
def oneUsed : List Item :=
  [.importing mixedNames, .code (.terminated ⟨0, 2⟩ (.ident ⟨0, 1⟩ "e"))]

theorem isReferenced_oneUsed (x : String) : isReferenced oneUsed x = decide (x = "e") := by
  have hident : (Node.ident ⟨0, 1⟩ "e").identifiers = ["e"] := by
    rw [Node.identifiers_eq]
    rfl
  have hstmt : (Node.terminated ⟨0, 2⟩ (.ident ⟨0, 1⟩ "e")).identifiers = ["e"] := by
    have hchildren : (Node.terminated ⟨0, 2⟩ (.ident ⟨0, 1⟩ "e")).children =
        [.ident ⟨0, 1⟩ "e"] := rfl
    rw [Node.identifiers_eq, hchildren, List.flatMap_singleton, hident]
    rfl
  simp [oneUsed, isReferenced, hstmt]

/-- Two of three names are added beside the four that are there, of which one is used. -/
theorem prune_ensure_unused_mixed :
    (∀ d ∈ declarations oneUsed, (∃ b, .star b ∈ d.specifiers) → d.named = []) ∧
      (∀ x ∈ ["x", "a", "y"], isReferenced oneUsed x = false) ∧
      find? "m" oneUsed = some mixedNames ∧
      (ensure ⟨["x", "a", "y"], "m"⟩ oneUsed).added = 2 ∧
      (prune "m" (ensure ⟨["x", "a", "y"], "m"⟩ oneUsed).items).1 = (prune "m" oneUsed).1 ∧
      (prune "m" (ensure ⟨["x", "a", "y"], "m"⟩ oneUsed).items).2 = (prune "m" oneUsed).2 + 2 := by
  have hstar : ∀ d ∈ declarations oneUsed, (∃ b, .star b ∈ d.specifiers) → d.named = [] := by
    refine List.forall_mem_singleton.2 fun ⟨b, hb⟩ => ?_
    simp [mixedNames] at hb
  have hun : ∀ x ∈ ["x", "a", "y"], isReferenced oneUsed x = false := by
    simp [isReferenced_oneUsed]
  have hfirst : ∀ d, find? "m" oneUsed = some d → d.typeOnly = false ∧ d.specifiers ≠ [] := by
    intro d hd
    obtain rfl : mixedNames = d := Option.some.inj hd
    exact ⟨rfl, List.cons_ne_nil _ _⟩
  obtain ⟨hbody, hcount⟩ := prune_ensure_unused ⟨["x", "a", "y"], "m"⟩ oneUsed hstar hun hfirst
  exact ⟨hstar, hun, rfl, rfl, hbody, hcount⟩

/-- A declaration without specifiers stays, but not when it has got names. -/
example :
    (prune "m" [.importing (declarationOf "m" [])]).1 = [.importing (declarationOf "m" [])] ∧
      (prune "m" (ensure ⟨["x"], "m"⟩ [.importing (declarationOf "m" [])]).items).1 = [] :=
  ⟨rfl, rfl⟩

end Codemod.Imports
