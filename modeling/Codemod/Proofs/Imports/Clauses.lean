import Codemod.Proofs.Imports.Actions
import Codemod.Proofs.Imports.Grouping

/-!
# The grammar of import clauses

What stands between `import` and `from` has a grammar (`Grammatical`): a default binding comes
first, a namespace binding stands without names, and a clause for types has either a default binding
alone or no default binding. Edits take specifiers out and put names behind those that are there,
and never where the grammar has no room for them.

Results:
* `Grammatical.sublist`: taking specifiers out keeps the grammar.
* `Grammatical.append`: so does putting names behind those of a declaration that takes names.
* `run_grammatical`: every run keeps the grammar of all declarations.
-/
namespace Codemod

/-- Does the specifier bind the namespace of a module? -/
def ImportSpecifier.isStar : ImportSpecifier → Bool
  | .star _ => true
  | _ => false

namespace Imports

/-- The grammar of import clauses. Beside what `WellFormed` says of names: at most one default
binding, which comes first; at most one namespace binding; and in a clause for types no namespace
binding beside a default binding, and no name with a `type` of its own. -/
structure Grammatical (d : ImportDecl) : Prop extends WellFormed d where
  defaultFirst : ∀ b, .default b ∉ d.specifiers.tail
  starOnce : d.specifiers.countP (·.isStar) ≤ 1
  typeDefault : d.typeOnly = true → (∃ b, .default b ∈ d.specifiers) → ∀ b, .star b ∉ d.specifiers
  typeNames : d.typeOnly = true → ∀ s ∈ d.named, s.typeOnly = false

/-! ## Fewer specifiers -/

theorem Grammatical.sublist {d : ImportDecl} (h : Grammatical d) {specifiers : List ImportSpecifier}
    (hs : specifiers.Sublist d.specifiers) : Grammatical { d with specifiers := specifiers } := by
  have hnamed : (specifiers.filterMap ImportSpecifier.named?).Sublist d.named := hs.filterMap _
  exact {
    star := fun ⟨b, hb⟩ =>
      List.sublist_nil.1 (h.star ⟨b, hs.subset hb⟩ ▸ hnamed)
    default := fun ht ⟨b, hb⟩ =>
      List.sublist_nil.1 (h.default ht ⟨b, hs.subset hb⟩ ▸ hnamed)
    defaultFirst := fun b hb => h.defaultFirst b (hs.tail.subset hb)
    starOnce := Nat.le_trans hs.countP_le h.starOnce
    typeDefault := fun ht ⟨b, hb⟩ c hc => h.typeDefault ht ⟨b, hs.subset hb⟩ c (hs.subset hc)
    typeNames := fun ht s hmem => h.typeNames ht s (hnamed.subset hmem) }

/-! ## More names -/

theorem mem_tail_append {α : Type} {x : α} {xs ys : List α} (h : x ∈ (xs ++ ys).tail) :
    x ∈ xs.tail ∨ x ∈ ys := by
  cases xs with
  | nil => exact Or.inr (List.mem_of_mem_tail h)
  | cons y xs => exact List.mem_append.1 h

theorem default_mem_tail_spreadType {b : Name} {d : ImportDecl}
    (h : .default b ∈ (spreadType d).specifiers.tail) : .default b ∈ d.specifiers.tail := by
  unfold spreadType at h
  split at h
  · rw [← List.map_tail, List.mem_map] at h
    obtain ⟨s, hs, he⟩ := h
    cases s <;> simp only [markType, reduceCtorEq] at he
    rw [he] at hs; exact hs
  · exact h

theorem Grammatical.of_value {d : ImportDecl} (hv : d.typeOnly = false) (ha : acceptsNames d = true)
    (hd : ∀ b, .default b ∉ d.specifiers.tail) : Grammatical d := by
  have hstar : d.specifiers.countP (·.isStar) = 0 := by
    rw [List.countP_eq_zero]
    intro s hs hb
    cases s with
    | star b => exact ((acceptsNames_iff d).1 ha).1 b hs
    | named n => cases hb
    | default b => cases hb
  exact {
    toWellFormed := wellFormed_of_acceptsNames ha
    defaultFirst := hd
    starOnce := by omega
    typeDefault := fun ht => by rw [hv] at ht; cases ht
    typeNames := fun ht => by rw [hv] at ht; cases ht }

theorem default_not_mem_specifierOf (b : Name) (names : List String) :
    .default b ∉ names.map specifierOf := by
  simp [specifierOf]

theorem Grammatical.append {d : ImportDecl} (h : Grammatical d) (names : List String)
    (ha : acceptsNames d = true) : Grammatical (Imports.append names d) := by
  refine .of_value (typeOnly_append names d) (acceptsNames_append names ha) fun b hb => ?_
  rcases mem_tail_append hb with hb | hb
  · exact h.defaultFirst b (default_mem_tail_spreadType hb)
  · exact default_not_mem_specifierOf b names hb

theorem grammatical_declarationOf (m : String) (names : List String) :
    Grammatical (declarationOf m names) :=
  .of_value rfl (acceptsNames_declarationOf m names) fun b hb =>
    default_not_mem_specifierOf b names (List.mem_of_mem_tail hb)

/-! ## Runs -/

theorem Replacement.grammatical {m : String} {d : ImportDecl} {new : List ImportDecl}
    (h : Replacement m d new) (hd : Grammatical d) : ∀ e ∈ new, Grammatical e := by
  cases h with
  | same => exact List.forall_mem_singleton.2 hd
  | extend names ha => exact List.forall_mem_singleton.2 (hd.append names ha)
  | precede names =>
    exact List.forall_mem_cons.2 ⟨grammatical_declarationOf m names, List.forall_mem_singleton.2 hd⟩
  | thin test => exact List.forall_mem_singleton.2 (hd.sublist List.filter_sublist)
  | clear => exact List.forall_mem_singleton.2 (hd.sublist (List.nil_sublist _))
  | delete => exact List.forall_mem_nil _

/-- Every run leaves all declarations in the grammar when they were in it at the start. -/
theorem run_grammatical (edits : List Edit) (items : List Item)
    (h : ∀ d ∈ declarations items, Grammatical d) :
    ∀ d ∈ declarations (run edits items), Grammatical d :=
  run_forall_declarations grammatical_declarationOf (fun _ _ _ hr hd => hr.grammatical hd) edits
    items h

theorem grammatical_namespaceImport : Grammatical namespaceImport where
  star _ := rfl
  default ht := by cases ht
  defaultFirst b hb := by simp [namespaceImport] at hb
  starOnce := by decide
  typeDefault ht := by cases ht
  typeNames ht := by cases ht

theorem grammatical_typeImport : Grammatical typeImport where
  toWellFormed := wellFormed_of_acceptsNames rfl
  defaultFirst b hb := by simp [typeImport] at hb
  starOnce := by decide
  typeDefault _ h := by simp [typeImport] at h
  typeNames _ s hs := by rw [List.mem_singleton.1 hs]

/-- Names go in front of a namespace, behind those of a clause for types, and out again. -/
def mixedEdits : List Edit :=
  [.single "m" (.ensure ["a", "b"]), .applyAll [⟨["x"], "n"⟩, ⟨["y"], "k"⟩],
    .single "m" (.remove ["a"]), .single "k" .prune]

theorem run_grammatical_mixed :
    (∀ d ∈ declarations [.importing namespaceImport, .importing typeImport], Grammatical d) ∧
      run mixedEdits [.importing namespaceImport, .importing typeImport] =
        [.importing (declarationOf "m" ["b"]), .importing namespaceImport,
          .importing (append ["x"] typeImport)] ∧
      ∀ d ∈ declarations (run mixedEdits [.importing namespaceImport, .importing typeImport]),
        Grammatical d := by
  have h : ∀ d ∈ declarations [.importing namespaceImport, .importing typeImport],
      Grammatical d :=
    List.forall_mem_cons.2 ⟨grammatical_namespaceImport,
      List.forall_mem_singleton.2 grammatical_typeImport⟩
  exact ⟨h, rfl, run_grammatical _ _ h⟩

end Imports

end Codemod
