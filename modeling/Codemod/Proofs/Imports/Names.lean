import Codemod.Imports.Edit

/-!
# The names of a declaration

What the small edits of one declaration do to its names: taking up missing names (`missing`,
`append`), standing as a new declaration (`declarationOf`) and giving names up (`keepNamed`).

Results:
* `mem_missing`, `missing_append`: the missing names are the requested ones that are not there, and
  those of `xs ++ ys` are those of `xs`, then those of `ys` that `xs` has not brought.
* `append_append`: names appended in two goes stand as if appended in one; the `type` of the
  declaration is spread by the first.
* `acceptsNames_append`: a declaration that takes names goes on taking them.
* `keepNamed_congr`, `keepNamed_comp`: giving names up by two tests.
* `keepNamed_eq_self_iff`: nothing is given up exactly when every named specifier passes.
-/
namespace Codemod.Imports

/-! ## Missing names -/

theorem mem_missing {x : String} {present xs : List String} :
    x ∈ missing present xs ↔ x ∈ xs ∧ x ∉ present := by
  induction xs generalizing present with
  | nil => simp [missing]
  | cons y ys ih =>
    by_cases hy : y ∈ present
    · rw [missing, if_pos (by simpa using hy), ih, List.mem_cons]
      constructor
      · exact fun ⟨hx, hp⟩ => ⟨Or.inr hx, hp⟩
      · rintro ⟨rfl | hx, hp⟩
        · exact absurd hy hp
        · exact ⟨hx, hp⟩
    · rw [missing, if_neg (by simpa using hy), List.mem_cons, ih, List.mem_cons, List.mem_cons]
      by_cases hxy : x = y
      · subst hxy; simp [hy]
      · simp [hxy]

theorem missing_eq_nil_iff {present xs : List String} :
    missing present xs = [] ↔ ∀ x ∈ xs, x ∈ present := by
  simp only [List.eq_nil_iff_forall_not_mem, mem_missing, not_and, Classical.not_not]

theorem missing_nil_ne_nil {xs : List String} (h : xs ≠ []) : missing [] xs ≠ [] := by
  obtain ⟨x, hx⟩ := List.exists_mem_of_ne_nil xs h
  exact List.ne_nil_of_mem (mem_missing.2 ⟨hx, List.not_mem_nil⟩)

theorem missing_congr {p q : List String} (h : ∀ x, x ∈ p ↔ x ∈ q) (xs : List String) :
    missing p xs = missing q xs := by
  induction xs generalizing p q with
  | nil => rfl
  | cons y ys ih =>
    have hc : p.contains y = q.contains y := by
      rw [Bool.eq_iff_iff, List.contains_iff_mem, List.contains_iff_mem]; exact h y
    rw [missing, missing, hc, ih h, ih (p := y :: p) (q := y :: q)]
    intro x
    rw [List.mem_cons, List.mem_cons, h x]

/-- The second part of a list only misses what the first has not brought. -/
theorem missing_append (present xs ys : List String) :
    missing present (xs ++ ys) = missing present xs ++ missing (present ++ missing present xs) ys := by
  induction xs generalizing present with
  | nil => rw [List.nil_append, missing, List.append_nil, List.nil_append]
  | cons x xs ih =>
    rw [List.cons_append, missing, missing]
    split
    · exact ih present
    · rw [ih (x :: present), List.cons_append]
      refine congrArg (x :: ·) (congrArg (missing (x :: present) xs ++ ·) (missing_congr ?_ ys))
      intro y
      simp only [List.mem_cons, List.mem_append]
      exact or_left_comm

/-- Names that are missing among `present` are still missing, and each once, where less is
present. -/
theorem missing_missing {present met : List String} (h : ∀ x ∈ met, x ∈ present)
    (xs : List String) : missing met (missing present xs) = missing present xs := by
  induction xs generalizing present met with
  | nil => rfl
  | cons x xs ih =>
    rw [missing]
    split
    · exact ih h
    · rename_i hx
      have hmet : ¬ met.contains x = true := by
        simp only [List.contains_iff_mem] at hx ⊢
        exact fun hm => hx (h x hm)
      rw [missing, if_neg hmet, ih (List.cons_subset_cons x h)]

/-! ## Declarations of names only -/

theorem names_specifierOf (names : List String) :
    ((names.map specifierOf).filterMap ImportSpecifier.named?).map (·.importedText) = names := by
  induction names with
  | nil => rfl
  | cons x xs ih => rw [List.map_cons, List.filterMap_cons]; exact congrArg (x :: ·) ih

@[simp] theorem module_declarationOf (m : String) (names : List String) :
    (declarationOf m names).module = m := rfl

@[simp] theorem names_declarationOf (m : String) (names : List String) :
    (declarationOf m names).names = names := names_specifierOf names

@[simp] theorem acceptsNames_declarationOf (m : String) (names : List String) :
    acceptsNames (declarationOf m names) = true := by
  simp [acceptsNames, declarationOf, specifierOf]

/-! ## Appending -/

@[simp] theorem typeOnly_spreadType (d : ImportDecl) : (spreadType d).typeOnly = false := by
  unfold spreadType
  split
  · rfl
  · rename_i h; simpa using h

theorem spreadType_of_value {d : ImportDecl} (h : d.typeOnly = false) : spreadType d = d := by
  rw [spreadType, if_neg (by simp [h])]

@[simp] theorem module_spreadType (d : ImportDecl) : (spreadType d).module = d.module := by
  unfold spreadType; split <;> rfl

/-- The specifier without a `type` of its own. -/
def unmarked : ImportSpecifier → ImportSpecifier
  | .named s => .named { s with typeOnly := false }
  | s => s

theorem unmarked_markType (s : ImportSpecifier) : unmarked (markType s) = unmarked s := by
  cases s <;> rfl

theorem importedText_markType (s : ImportSpecifier) :
    (markType s).named?.map (·.importedText) = s.named?.map (·.importedText) := by
  cases s <;> rfl

theorem names_markType (specifiers : List ImportSpecifier) :
    ((specifiers.map markType).filterMap ImportSpecifier.named?).map (·.importedText) =
      (specifiers.filterMap ImportSpecifier.named?).map (·.importedText) := by
  simp only [List.map_filterMap, List.filterMap_map, Function.comp_def, importedText_markType]

@[simp] theorem names_spreadType (d : ImportDecl) : (spreadType d).names = d.names := by
  unfold spreadType
  split
  · exact names_markType d.specifiers
  · rfl

@[simp] theorem typeOnly_append (names : List String) (d : ImportDecl) :
    (append names d).typeOnly = false := typeOnly_spreadType d

@[simp] theorem module_append (names : List String) (d : ImportDecl) :
    (append names d).module = d.module := module_spreadType d

@[simp] theorem names_append (names : List String) (d : ImportDecl) :
    (append names d).names = d.names ++ names := by
  show ((((spreadType d).specifiers ++ names.map specifierOf).filterMap
    ImportSpecifier.named?).map (·.importedText)) = _
  rw [List.filterMap_append, List.map_append, names_specifierOf]
  exact congrArg (· ++ names) (names_spreadType d)

theorem append_append (xs ys : List String) (d : ImportDecl) :
    append ys (append xs d) = append (xs ++ ys) d := by
  have hs : spreadType (append xs d) = append xs d := spreadType_of_value (typeOnly_append xs d)
  rw [append, hs]
  simp [append]

theorem append_declarationOf (m : String) (xs ys : List String) :
    append ys (declarationOf m xs) = declarationOf m (xs ++ ys) := by
  have hs : spreadType (declarationOf m xs) = declarationOf m xs := spreadType_of_value rfl
  rw [append, hs]
  simp [declarationOf]

/-- A declaration takes names exactly when it has no namespace binding, and no default binding
beside its `type`. -/
theorem acceptsNames_iff (d : ImportDecl) :
    acceptsNames d = true ↔
      (∀ b, .star b ∉ d.specifiers) ∧ (d.typeOnly = true → ∀ b, .default b ∉ d.specifiers) := by
  rw [acceptsNames, List.all_eq_true]
  constructor
  · intro h
    refine ⟨fun b hb => ?_, fun ht b hb => ?_⟩
    · cases h _ hb
    · simpa [ht] using h _ hb
  · rintro ⟨hstar, hdefault⟩ s hs
    cases s with
    | named n => rfl
    | default b =>
      cases ht : d.typeOnly with
      | false => rfl
      | true => exact absurd hs (hdefault ht b)
    | star b => exact absurd hs (hstar b)

/-- A declaration takes no names when it binds a namespace, or has a default binding beside
`type`. -/
theorem acceptsNames_eq_false_iff (d : ImportDecl) :
    acceptsNames d = false ↔
      (∃ b, .star b ∈ d.specifiers) ∨ d.typeOnly = true ∧ ∃ b, .default b ∈ d.specifiers := by
  rw [← Bool.not_eq_true, acceptsNames_iff, Classical.not_and_iff_not_or_not, Classical.not_imp]
  simp only [Classical.not_forall, Classical.not_not]

theorem star_mem_spreadType {b : Name} {d : ImportDecl} :
    .star b ∈ (spreadType d).specifiers ↔ .star b ∈ d.specifiers := by
  unfold spreadType
  split
  · simp only [List.mem_map]
    constructor
    · rintro ⟨s, hs, he⟩
      cases s <;> simp only [markType, reduceCtorEq] at he
      rw [he] at hs; exact hs
    · exact fun h => ⟨_, h, rfl⟩
  · rfl

theorem acceptsNames_append {d : ImportDecl} (names : List String) (h : acceptsNames d = true) :
    acceptsNames (append names d) = true := by
  rw [acceptsNames_iff] at h ⊢
  refine ⟨fun b hb => ?_, fun ht => ?_⟩
  · have hspread : .star b ∈ (spreadType d).specifiers := by
      rcases List.mem_append.1 hb with hb | hb
      · exact hb
      · simp [specifierOf] at hb
    exact h.1 b (star_mem_spreadType.1 hspread)
  · rw [typeOnly_append] at ht; cases ht

/-! ## Giving names up -/

theorem mem_named {n : NamedSpecifier} {d : ImportDecl} : n ∈ d.named ↔ .named n ∈ d.specifiers := by
  rw [ImportClause.named, List.mem_filterMap]
  constructor
  · rintro ⟨s, hs, he⟩
    cases s with
    | named _ => rw [← Option.some.inj he]; exact hs
    | default b => cases he
    | star b => cases he
  · exact fun h => ⟨_, h, rfl⟩

@[simp] theorem module_keepNamed (test : NamedSpecifier → Bool) (d : ImportDecl) :
    (keepNamed test d).module = d.module := rfl

@[simp] theorem named_keepNamed (test : NamedSpecifier → Bool) (d : ImportDecl) :
    (keepNamed test d).named = d.named.filter test := by
  show List.filterMap ImportSpecifier.named? (d.specifiers.filter _) = _
  rw [ImportClause.named]
  induction d.specifiers with
  | nil => rfl
  | cons s rest ih =>
    cases s with
    | named n => cases h : test n <;> simp [h, ih, ImportSpecifier.named?]
    | default b => exact ih
    | star b => exact ih

/-- Only what the test says of the declaration's own names matters. -/
theorem keepNamed_congr {p q : NamedSpecifier → Bool} {d : ImportDecl}
    (h : ∀ s ∈ d.named, p s = q s) : keepNamed p d = keepNamed q d := by
  have hs : (keepNamed p d).specifiers = (keepNamed q d).specifiers := by
    refine List.filter_congr fun s hs => ?_
    cases s with
    | named n => exact h n (mem_named.2 hs)
    | default b => rfl
    | star b => rfl
  exact congrArg (fun specifiers => { d with specifiers := specifiers }) hs

theorem keepNamed_comp (p q : NamedSpecifier → Bool) (d : ImportDecl) :
    keepNamed q (keepNamed p d) = keepNamed (fun s => q s && p s) d := by
  have hs : (keepNamed q (keepNamed p d)).specifiers =
      (keepNamed (fun s => q s && p s) d).specifiers := by
    refine List.filter_filter.trans (List.filter_congr fun s _ => ?_)
    cases s <;> rfl
  exact congrArg (fun specifiers => { d with specifiers := specifiers }) hs

theorem keepNamed_keepNamed (test : NamedSpecifier → Bool) (d : ImportDecl) :
    keepNamed test (keepNamed test d) = keepNamed test d := by
  rw [keepNamed_comp]
  exact keepNamed_congr fun s _ => Bool.and_self (test s)

/-- Nothing is given up exactly when every named specifier passes. -/
theorem keepNamed_eq_self_iff (test : NamedSpecifier → Bool) (d : ImportDecl) :
    keepNamed test d = d ↔ ∀ s ∈ d.named, test s = true := by
  constructor
  · intro h s hs
    rw [← h, named_keepNamed] at hs
    exact (List.mem_filter.1 hs).2
  · intro h
    have hs : (keepNamed test d).specifiers = d.specifiers := by
      refine List.filter_eq_self.2 fun s hs => ?_
      cases s with
      | named n => exact h n (mem_named.2 hs)
      | default b => rfl
      | star b => rfl
    exact congrArg (fun specifiers => { d with specifiers := specifiers }) hs

end Codemod.Imports
