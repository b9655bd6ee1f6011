import Codemod.Proofs.Imports.Effect
import Codemod.Proofs.Imports.RemoveSplit

/-!
# Taking back what was added

Removing the names that `ensure` has added takes back what it has done, whichever way it went
(`undone`). A new declaration goes with its last name, wherever it was put. A declaration that was
extended gives up the names it has got and no others, as none of them is one that it had. Two things
do not come back: the `type` of an extended declaration stays on its names, where `ensure` has moved
it, and an extended declaration that had no names is deleted when those it has got are removed.

Results:
* `dropped_without`: removing drops the specifiers that ask for one of the names.
* `without_append_self`: giving up what was appended.
* `remove_declarationOf`, `remove_append`, `remove_append_bare`: the ways back.
* `remove_undoes_ensure`: what is left of any body, and how many names are removed.
-/
namespace Codemod.Imports

/-! ## Names that come and go -/

theorem dropped_without (names : List String) (d : ImportDecl) :
    dropped d (without names d) = d.names.countP names.contains := by
  rw [without, dropped_keepNamed, ImportDecl.names, List.countP_map]
  simp only [Bool.not_not, Function.comp_def]

theorem countP_contains_append {xs names : List String} (h : ∀ x ∈ xs, x ∉ names) :
    (xs ++ names).countP names.contains = names.length := by
  have hxs : xs.countP names.contains = 0 := List.countP_eq_zero.2 (by simpa using h)
  have hnames : names.countP names.contains = names.length := List.countP_eq_length.2 (by simp)
  rw [List.countP_append, hxs, hnames, Nat.zero_add]

section
variable {names : List String} {d : ImportDecl} (h : ∀ x ∈ d.names, x ∉ names)
include h

theorem dropped_append_self :
    dropped (append names d) (without names (append names d)) = names.length := by
  rw [dropped_without, names_append]
  exact countP_contains_append h

/-- A declaration that gives up the names it has got is the one it was, but for its `type`. -/
theorem without_append_self : without names (append names d) = spreadType d := by
  have hold : (spreadType d).specifiers.filter (!asksFor names ·) = (spreadType d).specifiers := by
    have hself : without names (spreadType d) = spreadType d :=
      (without_eq_self_iff names _).2 (by rw [names_spreadType]; exact h)
    rw [without_eq_filter] at hself
    exact congrArg (·.specifiers) hself
  have hnew : (names.map specifierOf).filter (!asksFor names ·) = [] := by
    rw [List.filter_eq_nil_iff]
    simp [specifierOf, asksFor, NamedSpecifier.importedText]
  rw [without_eq_filter, append]
  simp only [List.filter_append, hold, hnew, List.append_nil]

end

/-! ## The ways back -/

/-- A new declaration goes with its names. -/
theorem remove_declarationOf {m : String} {before : List Item} (h : Absent m before)
    (names : List String) (after : List Item) :
    remove m names (before ++ .importing (declarationOf m names) :: after) =
      (before ++ after, names.length) := by
  have hdropped : dropped (declarationOf m names) (without names (declarationOf m names)) =
      names.length := by
    rw [dropped_without, names_declarationOf]
    exact List.countP_eq_length.2 (by simp)
  rw [remove_delete (first_declarationOf h names) after (by simp), hdropped]

section
variable {m : String} {before : List Item} {d : ImportDecl} (hf : First m before d)
  {names : List String} (h : ∀ x ∈ d.names, x ∉ names) (after : List Item)
include hf h

/-- A declaration that had names stays, without those that it has got. -/
theorem remove_append (hn : d.named ≠ []) :
    remove m names (before ++ .importing (append names d) :: after) =
      (before ++ .importing (spreadType d) :: after, names.length) := by
  have hleft : ¬ ∀ x ∈ (append names d).names, x ∈ names := by
    obtain ⟨s, hs⟩ := List.exists_mem_of_ne_nil _ hn
    have hx := mem_names.2 ⟨s, hs, rfl⟩
    intro hall
    refine h _ hx (hall _ ?_)
    rw [names_append]
    exact List.mem_append_left names hx
  rw [remove_keep (hf.append names) after hleft, dropped_append_self h, without_append_self h]

/-- A declaration that had no names does not stay. -/
theorem remove_append_bare (hn : d.named = []) :
    remove m names (before ++ .importing (append names d) :: after) =
      (before ++ after, names.length) := by
  have hnone : d.names = [] := by rw [ImportDecl.names, hn, List.map_nil]
  have hall : ∀ x ∈ (append names d).names, x ∈ names := by
    rw [names_append, hnone]
    exact fun x hx => hx
  rw [remove_delete (hf.append names) after hall, dropped_append_self h]

end

/-! ## Back and forth -/

/-- A body after the names of a request were ensured and those that were added removed, and how many
were removed. -/
def undone (r : Request) (items : List Item) : List Item × Nat :=
  remove r.module (lacking r items) (ensure r items).items

theorem undone_of_absent {r : Request} {items : List Item} (habs : Absent r.module items)
    (hadds : lacking r items ≠ []) : undone r items = (items, (lacking r items).length) := by
  rw [lacking_of_absent habs] at hadds
  have hn : r.names ≠ [] := by
    intro hn
    exact hadds (by rw [hn]; rfl)
  obtain ⟨before, after, rfl, hbefore, he⟩ := insertLast_first habs
  rw [undone, ensure_fresh habs hn, he, lacking_of_absent habs, remove_declarationOf hbefore]

theorem not_mem_missing {present xs : List String} : ∀ x ∈ present, x ∉ missing present xs :=
  fun _ hx hm => (mem_missing.1 hm).2 hx

section
variable {r : Request} {before : List Item} {d : ImportDecl} (hf : First r.module before d)
  {after : List Item} (hadds : lacking r (before ++ .importing d :: after) ≠ [])
include hf hadds

theorem undone_precede (ha : acceptsNames d = false) :
    undone r (before ++ .importing d :: after) =
      (before ++ .importing d :: after, (lacking r (before ++ .importing d :: after)).length) := by
  rw [undone]
  rw [lacking_cut hf] at hadds ⊢
  rw [ensure_precede hf after hadds ha, remove_declarationOf hf.absent]

theorem undone_extend (ha : acceptsNames d = true) (hn : d.named ≠ []) :
    undone r (before ++ .importing d :: after) =
      (before ++ .importing (spreadType d) :: after,
        (lacking r (before ++ .importing d :: after)).length) := by
  rw [undone]
  rw [lacking_cut hf] at hadds ⊢
  rw [ensure_extend hf after hadds ha, remove_append hf not_mem_missing after hn]

theorem undone_extend_bare (ha : acceptsNames d = true) (hn : d.named = []) :
    undone r (before ++ .importing d :: after) =
      (before ++ after, (lacking r (before ++ .importing d :: after)).length) := by
  rw [undone]
  rw [lacking_cut hf] at hadds ⊢
  rw [ensure_extend hf after hadds ha, remove_append_bare hf not_mem_missing after hn]

end

/-- What `ensure` adds are the names that were lacking, at the end of the declaration it returns. -/
theorem ensure_adds_lacking {r : Request} {items : List Item} (hadds : lacking r items ≠ []) :
    ∃ e, (ensure r items).decl = some e ∧ lacking r items <:+ e.names ∧
      (ensure r items).added = (lacking r items).length := by
  have h := ensure_spec r items
  generalize ensure r items = done at h ⊢
  cases h with
  | unwanted habs hn =>
    rw [lacking_of_absent habs, hn] at hadds
    exact absurd rfl hadds
  | fresh habs =>
    rw [lacking_of_absent habs]
    exact ⟨_, rfl, ⟨[], (names_declarationOf _ _).symm⟩, rfl⟩
  | present hf hall =>
    rw [lacking_cut hf, missing_eq_nil_iff.2 hall] at hadds
    exact absurd rfl hadds
  | extend hf =>
    rw [lacking_cut hf]
    exact ⟨_, rfl, ⟨_, (names_append _ _).symm⟩, rfl⟩
  | precede hf =>
    rw [lacking_cut hf]
    exact ⟨_, rfl, ⟨[], (names_declarationOf _ _).symm⟩, rfl⟩

/-- Where `ensure` adds names, removing these from the body that it leaves removes as many as were
added. It gives back the body from before when the module was not imported, when its first
declaration takes no names, and when this has names and no `type`. If it takes names and has some
beside a `type`, the `type` is on each of them afterwards; if it had none, it has gone. -/
theorem remove_undoes_ensure (r : Request) (items : List Item) (hadds : lacking r items ≠ []) :
    (∃ e, (ensure r items).decl = some e ∧ lacking r items <:+ e.names ∧
        (ensure r items).added = (lacking r items).length) ∧
      (undone r items).2 = (lacking r items).length ∧
      (find? r.module items = none → (undone r items).1 = items) ∧
      ∀ d, find? r.module items = some d →
        (acceptsNames d = false → (undone r items).1 = items) ∧
        (acceptsNames d = true → d.named ≠ [] → d.typeOnly = false → (undone r items).1 = items) ∧
        (acceptsNames d = true → d.named ≠ [] → d.typeOnly = true →
          ∃ before after, items = before ++ .importing d :: after ∧ First r.module before d ∧
            (undone r items).1 = before ++
              .importing { d with typeOnly := false, specifiers := d.specifiers.map markType } ::
                after) ∧
        (acceptsNames d = true → d.named = [] →
          (undone r items).1 = (removeDeclaration r.module items).1) := by
  refine ⟨ensure_adds_lacking hadds, ?_⟩
  rcases place r.module items with habs | ⟨before, d, after, rfl, hf⟩
  · rw [undone_of_absent habs hadds, find?_of_absent habs]
    exact ⟨rfl, fun _ => rfl, by simp⟩
  · rw [find?_cut hf]
    refine ⟨?_, by simp, ?_⟩
    · cases ha : acceptsNames d with
      | false => rw [undone_precede hf hadds ha]
      | true =>
        by_cases hn : d.named = []
        · rw [undone_extend_bare hf hadds ha hn]
        · rw [undone_extend hf hadds ha hn]
    · rintro e he
      obtain rfl := Option.some.inj he
      refine ⟨fun ha => ?_, fun ha hn ht => ?_, fun ha hn ht => ?_, fun ha hn => ?_⟩
      · rw [undone_precede hf hadds ha]
      · rw [undone_extend hf hadds ha hn, spreadType_of_value ht]
      · refine ⟨before, after, rfl, hf, ?_⟩
        rw [undone_extend hf hadds ha hn, spreadType, if_pos ht]
      · rw [undone_extend_bare hf hadds ha hn, removeDeclaration, replaceFirst_cut hf]
        rfl

/-- `import type { T, a as b } from 'm'`. -/
def aliasedType : ImportDecl :=
  ⟨⟨none, true, .evaluation,
    [.named ⟨none, none, ⟨"T", none⟩, false⟩,
      .named ⟨none, some (.ident ⟨"a", none⟩), ⟨"b", none⟩, false⟩],
    ⟨"m", none, none⟩⟩, none⟩

/-- The alias `b` is no name of the declaration, so `b` is added, and it is not taken for the alias
when it is removed. -/
theorem remove_undoes_ensure_alias :
    lacking ⟨["b", "T", "c", "b"], "m"⟩ [.importing aliasedType] = ["b", "c"] ∧
      acceptsNames aliasedType = true ∧ aliasedType.named ≠ [] ∧ aliasedType.typeOnly = true ∧
      (undone ⟨["b", "T", "c", "b"], "m"⟩ [.importing aliasedType]).2 = 2 ∧
      (undone ⟨["b", "T", "c", "b"], "m"⟩ [.importing aliasedType]).1 =
        [.importing { aliasedType with
          typeOnly := false
          specifiers :=
            [.named ⟨none, none, ⟨"T", none⟩, true⟩,
              .named ⟨none, some (.ident ⟨"a", none⟩), ⟨"b", none⟩, true⟩] }] := by
  have hadds : lacking ⟨["b", "T", "c", "b"], "m"⟩ [.importing aliasedType] = ["b", "c"] := rfl
  have hne : lacking ⟨["b", "T", "c", "b"], "m"⟩ [.importing aliasedType] ≠ [] := by
    rw [hadds]; exact List.cons_ne_nil _ _
  have h := remove_undoes_ensure ⟨["b", "T", "c", "b"], "m"⟩ [.importing aliasedType] hne
  refine ⟨hadds, rfl, List.cons_ne_nil _ _, rfl, h.2.1, ?_⟩
  obtain ⟨before, after, hitems, -, hbody⟩ :=
    (h.2.2.2 aliasedType rfl).2.2.1 rfl (List.cons_ne_nil _ _) rfl
  -- the declaration is the whole body
  cases before with
  | nil =>
    obtain rfl : [] = after := (List.cons.inj hitems).2
    exact hbody
  | cons item rest => simp at hitems

end Codemod.Imports
