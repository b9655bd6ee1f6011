import Codemod.Proofs.Imports.Ensure

/-!
# The exact effect of ensuring names

What `ensure` does is said here without its own helpers. The names it brings are the wanted ones
that the module's first declaration lacks, each where it is wanted first (`lacking`): filtering and
then erasing repeats, where `missing` keeps a growing list of names met. A new declaration has these
names and nothing else (`Plain`), and an extended one has all it had, save where `type` stands, and
then these names (`Extended`).

Results:
* `missing_eq_eraseDups`: the growing list comes to filtering and erasing repeats.
* `plain_declarationOf`, `extended_append`: the new and the extended declaration.
* `ensure_effect`: what is returned and what the body is afterwards, for every body and request.
-/
namespace Codemod.Imports

/-! ## Names that are lacking -/

theorem missing_eq_eraseDups (present xs : List String) :
    missing present xs = (xs.filter fun x => !present.contains x).eraseDups := by
  induction xs generalizing present with
  | nil => rfl
  | cons x xs ih =>
    rw [missing, List.filter_cons]
    cases hx : present.contains x with
    | true => exact ih present
    | false =>
      -- erasing the later `x`s is filtering with `x` present as well
      have hfilter : (xs.filter fun y => !(x :: present).contains y) =
          (xs.filter fun y => !present.contains y).filter fun y => !(y == x) := by
        rw [List.filter_filter]
        refine List.filter_congr fun y _ => ?_
        rw [List.contains_cons, Bool.not_or]
      simp only [Bool.false_eq_true, if_false, Bool.not_false, if_true]
      rw [List.eraseDups_cons, ih (x :: present), hfilter]

/-- The names of a module's first declaration, if it has one. -/
def namesFound (m : String) (items : List Item) : List String :=
  ((find? m items).map ImportDecl.names).getD []

/-- The wanted names that the module's first declaration has not: first occurrences, in order. -/
def lacking (r : Request) (items : List Item) : List String :=
  (r.names.filter fun x => !(namesFound r.module items).contains x).eraseDups

theorem lacking_of_absent {r : Request} {items : List Item} (h : Absent r.module items) :
    lacking r items = missing [] r.names := by
  rw [lacking, namesFound, find?_of_absent h, missing_eq_eraseDups]
  rfl

theorem lacking_cut {r : Request} {before : List Item} {d : ImportDecl}
    (hf : First r.module before d) (after : List Item) :
    lacking r (before ++ .importing d :: after) = missing d.names r.names := by
  rw [lacking, namesFound, find?_cut hf, missing_eq_eraseDups]
  rfl

/-! ## Declarations with names -/

/-- Specifiers for names, without alias and for values. -/
def plainSpecifiers (names : List String) : List ImportSpecifier :=
  names.map fun x => .named ⟨none, none, ⟨x, none⟩, false⟩

/-- A declaration for values that has just these names of the module. -/
structure Plain (m : String) (names : List String) (d : ImportDecl) : Prop where
  module_eq : d.module = m
  value : d.typeOnly = false
  phase_eq : d.phase = .evaluation
  specifiers_eq : d.specifiers = plainSpecifiers names
  attributes_eq : d.attributes = none

/-- A declaration for values that is another one with more names at its end: the specifiers of the
other one stand in their order, each as it was but for its `type`. -/
structure Extended (names : List String) (d d' : ImportDecl) : Prop where
  value : d'.typeOnly = false
  rest_eq : { d' with typeOnly := d.typeOnly, specifiers := d.specifiers } = d
  specifiers_eq : ∃ kept, d'.specifiers = kept ++ plainSpecifiers names ∧
    kept.map unmarked = d.specifiers.map unmarked ∧ (d.typeOnly = false → kept = d.specifiers)

theorem plain_declarationOf (m : String) (names : List String) :
    Plain m names (declarationOf m names) := ⟨rfl, rfl, rfl, rfl, rfl⟩

theorem extended_append (names : List String) (d : ImportDecl) :
    Extended names d (append names d) := by
  refine ⟨typeOnly_append names d, ?_, (spreadType d).specifiers, rfl, ?_, fun hv => ?_⟩
  · unfold append spreadType
    split <;> rfl
  · unfold spreadType
    split
    · simp only [List.map_map, Function.comp_def, unmarked_markType]
    · rfl
  · rw [spreadType_of_value hv]

/-! ## The effect -/

/-- Ensuring names returns how many are lacking, and leaves the body alone if none is. Where the
module is not imported, a declaration of the lacking names goes behind the last import, or to the
front. Where its first declaration binds a namespace, or has a default binding beside `type`, such a
declaration goes right before it. Any other first declaration is extended by the lacking names. -/
theorem ensure_effect (r : Request) (items : List Item) :
    (lacking r items = [] → apply r items = (items, 0)) ∧
      (lacking r items ≠ [] →
        (apply r items).2 = (lacking r items).length ∧
        (find? r.module items = none →
          ∃ before after new, items = before ++ after ∧ BehindImports before after ∧
            Plain r.module (lacking r items) new ∧
            (apply r items).1 = before ++ .importing new :: after) ∧
        ∀ d, find? r.module items = some d →
          ∃ before after, items = before ++ .importing d :: after ∧ First r.module before d ∧
            ((∃ b, .star b ∈ d.specifiers) ∨ d.typeOnly = true ∧ (∃ b, .default b ∈ d.specifiers) →
              ∃ new, Plain r.module (lacking r items) new ∧
                (apply r items).1 = before ++ .importing new :: .importing d :: after) ∧
            (¬ ((∃ b, .star b ∈ d.specifiers) ∨
                d.typeOnly = true ∧ ∃ b, .default b ∈ d.specifiers) →
              ∃ d', Extended (lacking r items) d d' ∧
                (apply r items).1 = before ++ .importing d' :: after)) := by
  simp only [← acceptsNames_eq_false_iff, Bool.not_eq_false]
  rcases place r.module items with habs | ⟨before, d, after, rfl, hf⟩
  · rw [lacking_of_absent habs, find?_of_absent habs]
    by_cases hn : r.names = []
    · simp [hn, missing, apply, ensure_unwanted habs hn]
    · have hne := missing_nil_ne_nil hn
      obtain ⟨before, after, rfl, hb, he⟩ := insertLast_cut items
      refine ⟨fun h => absurd h hne, fun _ => ?_⟩
      simp only [apply, ensure_fresh habs hn, he]
      exact ⟨trivial, fun _ => ⟨before, after, _, rfl, hb, plain_declarationOf _ _, rfl⟩, by simp⟩
  · rw [lacking_cut hf, find?_cut hf]
    refine ⟨fun hm => ?_, fun hm => ?_⟩
    · rw [apply, ensure_present hf after (missing_eq_nil_iff.1 hm)]
    · refine ⟨?_, by simp, ?_⟩
      · cases ha : acceptsNames d with
        | true => rw [apply, ensure_extend hf after hm ha]
        | false => rw [apply, ensure_precede hf after hm ha]
      · rintro e he
        obtain rfl := Option.some.inj he
        refine ⟨before, after, rfl, hf, fun ha => ?_, fun ha => ?_⟩
        · exact ⟨_, plain_declarationOf _ _, by rw [apply, ensure_precede hf after hm ha]⟩
        · exact ⟨_, extended_append _ _, by rw [apply, ensure_extend hf after hm ha]⟩

end Codemod.Imports
