import Codemod.Proofs.Imports.Names
import Codemod.Proofs.Imports.Places

/-!
# Ensuring names

`ensure` goes one of five ways, each an equation on the body cut at the first declaration of the
module: nothing is wanted, a new declaration behind the last import, nothing is missing, the names
join the declaration, or a new declaration goes in front of one that takes no names.

Results:
* `ensure_unwanted`, `ensure_fresh`, `ensure_present`, `ensure_extend`, `ensure_precede`: the five
  ways.
* `ensure_spec`: there is no other (`Ensures`).
* `find?_ensure`: the declaration that `ensure` returns is the one found afterwards.
* `decl_ensure_eq_none_iff`: it returns none only if nothing is wanted and nothing was there.
* `ensure_stable_iff`: that declaration holds all wanted names, and ensuring them again changes
  nothing, unless the request is split (`Splits`): the declaration found has a part of the names and
  takes no more, so the rest goes to a new declaration in front, where the part is missing again.
* `ensure_mixed_type`: a request that is split.
-/
namespace Codemod.Imports

/-! ## The five ways -/

theorem ensure_unwanted {r : Request} {items : List Item} (h : Absent r.module items)
    (hn : r.names = []) : ensure r items = ⟨items, none, 0⟩ := by
  simp [ensure, find?_of_absent h, hn]

theorem ensure_fresh {r : Request} {items : List Item} (h : Absent r.module items)
    (hn : r.names ≠ []) :
    ensure r items =
      ⟨insertLast (declarationOf r.module (missing [] r.names)) items,
        some (declarationOf r.module (missing [] r.names)), (missing [] r.names).length⟩ := by
  simp [ensure, find?_of_absent h, hn]

section
variable {r : Request} {before : List Item} {d : ImportDecl} (hf : First r.module before d)
  (after : List Item)
include hf

theorem ensure_present (h : ∀ x ∈ r.names, x ∈ d.names) :
    ensure r (before ++ .importing d :: after) =
      ⟨before ++ .importing d :: after, some d, 0⟩ := by
  simp [ensure, find?_cut hf, missing_eq_nil_iff.2 h]

theorem ensure_extend (hm : missing d.names r.names ≠ []) (ha : acceptsNames d = true) :
    ensure r (before ++ .importing d :: after) =
      ⟨before ++ .importing (append (missing d.names r.names) d) :: after,
        some (append (missing d.names r.names) d), (missing d.names r.names).length⟩ := by
  simp [ensure, find?_cut hf, hm, ha, replaceFirst_cut hf]

theorem ensure_precede (hm : missing d.names r.names ≠ []) (ha : acceptsNames d = false) :
    ensure r (before ++ .importing d :: after) =
      ⟨before ++ .importing (declarationOf r.module (missing d.names r.names)) ::
          .importing d :: after,
        some (declarationOf r.module (missing d.names r.names)),
        (missing d.names r.names).length⟩ := by
  simp [ensure, find?_cut hf, hm, ha, replaceFirst_cut hf]

end

theorem First.append {m : String} {before : List Item} {d : ImportDecl} (hf : First m before d)
    (names : List String) : First m before (Imports.append names d) :=
  ⟨hf.absent, by rw [module_append]; exact hf.module_eq⟩

theorem first_declarationOf {m : String} {before : List Item} (h : Absent m before)
    (names : List String) : First m before (declarationOf m names) := ⟨h, rfl⟩

/-- A declaration put behind the last import of a body without its module is the first one. -/
theorem insertLast_first {m : String} {items : List Item} (h : Absent m items) :
    ∃ before after, items = before ++ after ∧ Absent m before ∧
      ∀ decl, insertLast decl items = before ++ .importing decl :: after := by
  obtain ⟨before, after, rfl, -, he⟩ := insertLast_cut items
  exact ⟨before, after, rfl, ((absent_append m before after).1 h).1, he⟩

/-- What `ensure` does, on the body cut where it works. -/
inductive Ensures (r : Request) : List Item → Ensured → Prop
  | unwanted {items : List Item} (habs : Absent r.module items) (hn : r.names = []) :
      Ensures r items ⟨items, none, 0⟩
  | fresh {before after : List Item} (habs : Absent r.module (before ++ after))
      (hb : BehindImports before after) (hn : r.names ≠ []) :
      Ensures r (before ++ after)
        ⟨before ++ .importing (declarationOf r.module (missing [] r.names)) :: after,
          some (declarationOf r.module (missing [] r.names)), (missing [] r.names).length⟩
  | present {before after : List Item} {d : ImportDecl} (hf : First r.module before d)
      (h : ∀ x ∈ r.names, x ∈ d.names) :
      Ensures r (before ++ .importing d :: after) ⟨before ++ .importing d :: after, some d, 0⟩
  | extend {before after : List Item} {d : ImportDecl} (hf : First r.module before d)
      (hm : missing d.names r.names ≠ []) (ha : acceptsNames d = true) :
      Ensures r (before ++ .importing d :: after)
        ⟨before ++ .importing (append (missing d.names r.names) d) :: after,
          some (append (missing d.names r.names) d), (missing d.names r.names).length⟩
  | precede {before after : List Item} {d : ImportDecl} (hf : First r.module before d)
      (hm : missing d.names r.names ≠ []) (ha : acceptsNames d = false) :
      Ensures r (before ++ .importing d :: after)
        ⟨before ++ .importing (declarationOf r.module (missing d.names r.names)) ::
            .importing d :: after,
          some (declarationOf r.module (missing d.names r.names)),
          (missing d.names r.names).length⟩

theorem ensure_spec (r : Request) (items : List Item) : Ensures r items (ensure r items) := by
  rcases place r.module items with habs | ⟨before, d, after, rfl, hf⟩
  · by_cases hn : r.names = []
    · rw [ensure_unwanted habs hn]; exact .unwanted habs hn
    · obtain ⟨before, after, rfl, hb, he⟩ := insertLast_cut items
      rw [ensure_fresh habs hn, he]
      exact .fresh habs hb hn
  · by_cases hm : missing d.names r.names = []
    · rw [ensure_present hf after (missing_eq_nil_iff.1 hm)]
      exact .present hf (missing_eq_nil_iff.1 hm)
    · cases ha : acceptsNames d with
      | true => rw [ensure_extend hf after hm ha]; exact .extend hf hm ha
      | false => rw [ensure_precede hf after hm ha]; exact .precede hf hm ha

/-! ## What is found afterwards -/

theorem find?_ensure (r : Request) (items : List Item) :
    find? r.module (ensure r items).items = (ensure r items).decl := by
  have h := ensure_spec r items
  generalize ensure r items = done at h ⊢
  cases h with
  | unwanted habs => exact find?_of_absent habs
  | fresh habs =>
    exact find?_cut (first_declarationOf ((absent_append _ _ _).1 habs).1 _) _
  | present hf => exact find?_cut hf _
  | extend hf => exact find?_cut (hf.append _) _
  | precede hf => exact find?_cut (first_declarationOf hf.absent _) _

theorem decl_ensure_eq_none_iff (r : Request) (items : List Item) :
    (ensure r items).decl = none ↔ r.names = [] ∧ find? r.module items = none := by
  have h := ensure_spec r items
  generalize ensure r items = done at h ⊢
  cases h with
  | unwanted habs hn => simp [hn, find?_of_absent habs]
  | fresh _ _ hn => simp [hn]
  | present hf => simp [find?_cut hf]
  | extend hf => simp [find?_cut hf]
  | precede hf => simp [find?_cut hf]

/-! ## Ensuring twice -/

/-- The declaration that is found takes no names, and has some of the wanted ones but not all. -/
def Splits (r : Request) (items : List Item) : Prop :=
  ∃ d, find? r.module items = some d ∧ acceptsNames d = false ∧
    (∃ x ∈ r.names, x ∈ d.names) ∧ ∃ x ∈ r.names, x ∉ d.names

/-- The declaration that `ensure` returns holds all wanted names. -/
def Holds (r : Request) (items : List Item) : Prop :=
  ∀ d, (ensure r items).decl = some d → ∀ x ∈ r.names, x ∈ d.names

theorem not_splits_of_absent {r : Request} {items : List Item} (h : Absent r.module items) :
    ¬ Splits r items := by
  rintro ⟨d, hd, -⟩
  rw [find?_of_absent h] at hd; cases hd

theorem splits_cut {r : Request} {before : List Item} {d : ImportDecl}
    (hf : First r.module before d) (after : List Item) :
    Splits r (before ++ .importing d :: after) ↔
      acceptsNames d = false ∧ (∃ x ∈ r.names, x ∈ d.names) ∧ ∃ x ∈ r.names, x ∉ d.names := by
  rw [Splits, find?_cut hf]
  simp

theorem holds_iff (r : Request) (items : List Item) : Holds r items ↔ ¬ Splits r items := by
  have h := ensure_spec r items
  unfold Holds
  generalize ensure r items = done at h ⊢
  cases h with
  | unwanted habs hn => exact iff_of_true (by simp) (not_splits_of_absent habs)
  | fresh habs _ hn =>
    refine iff_of_true ?_ (not_splits_of_absent habs)
    intro d hd x hx
    rw [← Option.some.inj hd, names_declarationOf, mem_missing]
    exact ⟨hx, List.not_mem_nil⟩
  | present hf hall =>
    rw [splits_cut hf]
    refine iff_of_true ?_ fun ⟨_, _, x, hx, hn⟩ => hn (hall x hx)
    intro e he
    rw [← Option.some.inj he]; exact hall
  | @extend before after d hf hm ha =>
    rw [splits_cut hf]
    refine iff_of_true ?_ (by simp [ha])
    intro e he x hx
    rw [← Option.some.inj he, names_append, List.mem_append, mem_missing]
    by_cases hxd : x ∈ d.names
    · exact Or.inl hxd
    · exact Or.inr ⟨hx, hxd⟩
  | precede hf hm ha =>
    obtain ⟨y, hy⟩ := List.exists_mem_of_ne_nil _ hm
    rw [splits_cut hf]
    constructor
    · -- a name that `d` has is not among the missing ones
      rintro h ⟨-, ⟨x, hx, hxd⟩, -⟩
      have := h _ rfl x hx
      rw [names_declarationOf, mem_missing] at this
      exact this.2 hxd
    · intro h e he x hx
      rw [← Option.some.inj he, names_declarationOf, mem_missing]
      exact ⟨hx, fun hxd => h ⟨ha, ⟨x, hx, hxd⟩, y, mem_missing.1 hy⟩⟩

theorem ensure_of_found {r : Request} {items : List Item} {d : ImportDecl}
    (hd : find? r.module items = some d) (h : ∀ x ∈ r.names, x ∈ d.names) :
    ensure r items = ⟨items, some d, 0⟩ := by
  simp [ensure, hd, missing_eq_nil_iff.2 h]

theorem ensure_ensure_of_holds {r : Request} {items : List Item} (h : Holds r items) :
    (ensure r (ensure r items).items).added = 0 ∧
      (ensure r (ensure r items).items).items = (ensure r items).items := by
  have hfind := find?_ensure r items
  cases hd : (ensure r items).decl with
  | some d =>
    rw [hd] at hfind
    rw [ensure_of_found hfind (h d hd)]
    exact ⟨rfl, rfl⟩
  | none =>
    obtain ⟨hn, hnone⟩ := (decl_ensure_eq_none_iff r items).1 hd
    have habs := absent_of_find?_eq_none hnone
    rw [ensure_unwanted habs hn, ensure_unwanted habs hn]
    exact ⟨rfl, rfl⟩

theorem added_pos_of_splits {r : Request} {items : List Item} (h : Splits r items) :
    0 < (ensure r (ensure r items).items).added := by
  rcases place r.module items with habs | ⟨before, d, after, rfl, hf⟩
  · exact absurd h (not_splits_of_absent habs)
  · obtain ⟨ha, ⟨x, hx, hxd⟩, y, hy, hyd⟩ := (splits_cut hf after).1 h
    have hm : missing d.names r.names ≠ [] := List.ne_nil_of_mem (mem_missing.2 ⟨hy, hyd⟩)
    have hf' := first_declarationOf hf.absent (missing d.names r.names)
    have hx' : x ∈ missing (declarationOf r.module (missing d.names r.names)).names r.names := by
      rw [names_declarationOf, mem_missing, mem_missing]
      exact ⟨hx, fun hmem => hmem.2 hxd⟩
    rw [ensure_precede hf after hm ha]
    rw [ensure_extend hf' _ (List.ne_nil_of_mem hx') (acceptsNames_declarationOf _ _)]
    exact List.length_pos_of_mem hx'

/-- `ensure` returns the declaration that is found afterwards, and none only when nothing is wanted
and nothing was there. The declaration holds all the wanted names, and ensuring them again adds
nothing and changes nothing, exactly when the request is not split. -/
theorem ensure_stable_iff (r : Request) (items : List Item) :
    find? r.module (ensure r items).items = (ensure r items).decl ∧
      ((ensure r items).decl = none ↔ r.names = [] ∧ find? r.module items = none) ∧
      ((∀ d, (ensure r items).decl = some d → ∀ x ∈ r.names, x ∈ d.names) ↔ ¬ Splits r items) ∧
      ((ensure r (ensure r items).items).added = 0 ∧
        (ensure r (ensure r items).items).items = (ensure r items).items ↔ ¬ Splits r items) := by
  refine ⟨find?_ensure r items, decl_ensure_eq_none_iff r items, holds_iff r items, ?_⟩
  constructor
  · rintro ⟨hadded, -⟩ hs
    have := added_pos_of_splits hs
    omega
  · exact fun hs => ensure_ensure_of_holds ((holds_iff r items).2 hs)

/-! ## Declarations that take no names -/

/-- `import * as ns from 'm'`. -/
def namespaceImport : ImportDecl :=
  ⟨⟨none, false, .evaluation, [.star ⟨"ns", none⟩], ⟨"m", none, none⟩⟩, none⟩

/-- `import type D, { A } from 'm'`. -/
def mixedType : ImportDecl :=
  ⟨⟨none, true, .evaluation, [.default ⟨"D", none⟩, .named ⟨none, none, ⟨"A", none⟩, false⟩],
    ⟨"m", none, none⟩⟩, none⟩

/-- Wanting `A` and `B` from `m` puts `B` alone in front of the declaration, so `A` is not where it
is looked for; the second time it is missing there and is added. -/
theorem ensure_mixed_type :
    (ensure ⟨["A", "B"], "m"⟩ [.importing mixedType]).decl = some (declarationOf "m" ["B"]) ∧
      (ensure ⟨["A", "B"], "m"⟩ [.importing mixedType]).items =
        [.importing (declarationOf "m" ["B"]), .importing mixedType] ∧
      (ensure ⟨["A", "B"], "m"⟩ (ensure ⟨["A", "B"], "m"⟩ [.importing mixedType]).items).added = 1 ∧
      (ensure ⟨["A", "B"], "m"⟩ (ensure ⟨["A", "B"], "m"⟩ [.importing mixedType]).items).items =
        [.importing (declarationOf "m" ["B", "A"]), .importing mixedType] :=
  ⟨rfl, rfl, rfl, rfl⟩

end Codemod.Imports
