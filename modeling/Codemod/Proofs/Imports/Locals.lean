import Mathlib.Data.List.Nodup
import Codemod.Proofs.Imports.Ensure

/-!
# Local names of a clause

A specifier asks for a name of another module and binds a local one, and an alias makes the two
different. `ensure` looks at the first to see what is missing, and binds what it adds under the
second. So a name can be missing among the names asked for and be taken among the local ones, by an
alias or by the default binding, and then the extended clause binds it twice.

Results:
* `nodup_missing`: the missing names are different ones.
* `locals_append`, `locals_declarationOf`: the local names of an extended and of a new declaration.
* `distinct_append_iff`: when an extended declaration binds no name twice.
* `ensure_distinct_iff`: `ensure` keeps local names apart, clause by clause, exactly when no missing
  name is taken in the declaration that it extends (`Clashes`).
* `ensure_distinct_alias`: a name that an alias has taken.
-/
namespace Codemod.Imports

/-- The local names that a declaration binds, in order. -/
def locals (d : ImportDecl) : List String := d.specifiers.map (·.binding.text)

/-- The declaration binds no local name twice. -/
def Distinct (d : ImportDecl) : Prop := (locals d).Nodup

instance (d : ImportDecl) : Decidable (Distinct d) := inferInstanceAs (Decidable (locals d).Nodup)

/-! ## Local names of edited declarations -/

theorem nodup_missing (present xs : List String) : (missing present xs).Nodup := by
  induction xs generalizing present with
  | nil => exact List.nodup_nil
  | cons x xs ih =>
    rw [missing]
    split
    · exact ih present
    · -- with `x` present it is missing no more
      exact List.nodup_cons.2
        ⟨fun hx => (mem_missing.1 hx).2 List.mem_cons_self, ih (x :: present)⟩

theorem locals_specifierOf (names : List String) :
    (names.map specifierOf).map (·.binding.text) = names := by
  rw [List.map_map]
  exact List.map_id names

theorem locals_declarationOf (m : String) (names : List String) :
    locals (declarationOf m names) = names := locals_specifierOf names

theorem locals_spreadType (d : ImportDecl) : locals (spreadType d) = locals d := by
  have hmark : ∀ s : ImportSpecifier, (markType s).binding.text = s.binding.text := by
    intro s
    cases s <;> rfl
  unfold spreadType
  split
  · simp only [locals, List.map_map, Function.comp_def, hmark]
  · rfl

theorem locals_append (names : List String) (d : ImportDecl) :
    locals (append names d) = locals d ++ names := by
  have hsplit : locals (append names d) =
      locals (spreadType d) ++ (names.map specifierOf).map (·.binding.text) := List.map_append
  rw [hsplit, locals_spreadType, locals_specifierOf]

theorem distinct_declarationOf (m : String) (present xs : List String) :
    Distinct (declarationOf m (missing present xs)) := by
  rw [Distinct, locals_declarationOf]
  exact nodup_missing present xs

theorem distinct_append_iff {d : ImportDecl} (hd : Distinct d) (present xs : List String) :
    Distinct (append (missing present xs) d) ↔ ∀ x ∈ xs, x ∉ present → x ∉ locals d := by
  rw [Distinct, locals_append, List.nodup_append']
  constructor
  · rintro ⟨-, -, hapart⟩ x hx hp hl
    exact hapart hl (mem_missing.2 ⟨hx, hp⟩)
  · intro h
    refine ⟨hd, nodup_missing present xs, fun x hl hx => ?_⟩
    obtain ⟨hx, hp⟩ := mem_missing.1 hx
    exact h x hx hp hl

/-! ## Ensuring names -/

/-- A wanted name is missing in the declaration that takes it, and is bound there already. -/
def Clashes (r : Request) (items : List Item) : Prop :=
  ∃ d, find? r.module items = some d ∧ acceptsNames d = true ∧
    ∃ x ∈ r.names, x ∉ d.names ∧ x ∈ locals d

theorem clashes_cut {r : Request} {before : List Item} {d : ImportDecl}
    (hf : First r.module before d) (after : List Item) :
    Clashes r (before ++ .importing d :: after) ↔
      acceptsNames d = true ∧ ∃ x ∈ r.names, x ∉ d.names ∧ x ∈ locals d := by
  rw [Clashes, find?_cut hf]
  simp

theorem not_clashes_of_absent {r : Request} {items : List Item} (h : Absent r.module items) :
    ¬ Clashes r items := by
  rintro ⟨d, hd, -⟩
  rw [find?_of_absent h] at hd
  cases hd

/-- Where no clause binds a local name twice, none does after `ensure`, unless a wanted name that
the declaration has to take is the local name of another of its specifiers. Then the extended clause
binds that name twice. -/
theorem ensure_distinct_iff (r : Request) (items : List Item)
    (h : ∀ d ∈ declarations items, Distinct d) :
    (∀ d ∈ declarations (ensure r items).items, Distinct d) ↔ ¬ Clashes r items := by
  have hspec := ensure_spec r items
  generalize ensure r items = done at hspec ⊢
  cases hspec with
  | unwanted habs => exact iff_of_true h (not_clashes_of_absent habs)
  | fresh habs =>
    refine iff_of_true ?_ (not_clashes_of_absent habs)
    simp only [declarations_append, declarations_importing, List.forall_mem_append,
      List.forall_mem_cons] at h ⊢
    exact ⟨h.1, distinct_declarationOf _ _ _, h.2⟩
  | present hf hall =>
    refine iff_of_true h fun hc => ?_
    obtain ⟨-, x, hx, hmissing, -⟩ := (clashes_cut hf _).1 hc
    exact hmissing (hall x hx)
  | extend hf hm ha =>
    rw [clashes_cut hf]
    simp only [declarations_append, declarations_importing, List.forall_mem_append,
      List.forall_mem_cons] at h ⊢
    rw [distinct_append_iff h.2.1]
    constructor
    · rintro ⟨-, hapart, -⟩ ⟨-, x, hx, hmissing, hlocal⟩
      exact hapart x hx hmissing hlocal
    · intro hc
      exact ⟨h.1, fun x hx hmissing hlocal => hc ⟨ha, x, hx, hmissing, hlocal⟩, h.2.2⟩
  | precede hf hm ha =>
    -- the new declaration stands apart from the names that are taken
    refine iff_of_true ?_ fun hc => ?_
    · simp only [declarations_append, declarations_importing, List.forall_mem_append,
        List.forall_mem_cons] at h ⊢
      exact ⟨h.1, distinct_declarationOf _ _ _, h.2⟩
    · have htakes := ((clashes_cut hf _).1 hc).1
      rw [ha] at htakes
      cases htakes

/-! ## Taken names -/

/-- `import D, { a as b } from 'm'`. -/
def aliasImport : ImportDecl :=
  ⟨⟨none, false, .evaluation,
    [.default ⟨"D", none⟩, .named ⟨none, some (.ident ⟨"a", none⟩), ⟨"b", none⟩, false⟩],
    ⟨"m", none, none⟩⟩, none⟩

theorem distinct_aliasImport : ∀ d ∈ declarations [.importing aliasImport], Distinct d :=
  List.forall_mem_singleton.2 (by decide)

/-- The name `a` is there and `c` is free. -/
theorem ensure_distinct_free :
    (∀ d ∈ declarations [.importing aliasImport], Distinct d) ∧
      ¬ Clashes ⟨["a", "c"], "m"⟩ [.importing aliasImport] ∧
      ∀ d ∈ declarations (ensure ⟨["a", "c"], "m"⟩ [.importing aliasImport]).items, Distinct d := by
  have hfree : ¬ Clashes ⟨["a", "c"], "m"⟩ [.importing aliasImport] := by
    rintro ⟨d, hd, -, hx⟩
    obtain rfl : aliasImport = d := Option.some.inj hd
    revert hx
    decide
  exact ⟨distinct_aliasImport, hfree, (ensure_distinct_iff _ _ distinct_aliasImport).2 hfree⟩

/-- Wanting `b`, which the alias has taken, or `D`, which the default binding has: the clause binds
the name twice. -/
theorem ensure_distinct_alias :
    (∀ d ∈ declarations [.importing aliasImport], Distinct d) ∧
      declarations (ensure ⟨["b"], "m"⟩ [.importing aliasImport]).items =
        [append ["b"] aliasImport] ∧
      locals (append ["b"] aliasImport) = ["D", "b", "b"] ∧
      locals (append ["D"] aliasImport) = ["D", "b", "D"] ∧
      ¬ ∀ d ∈ declarations (ensure ⟨["b"], "m"⟩ [.importing aliasImport]).items, Distinct d :=
  ⟨distinct_aliasImport, rfl, rfl, rfl, fun h => absurd (h _ List.mem_cons_self) (by decide)⟩

end Codemod.Imports
