import Codemod.Proofs.Imports.Ensure

/-!
# Edits of different modules

An edit that puts declarations of a module in the place of the module's first declaration
(`InPlace`) does not meet an edit for another module: neither moves, hides or shows what the other
looks for.

Results:
* `find?_replaceFirst_of_ne`: the first declaration of another module is still found.
* `replaceFirst_comm`: two replacements commute.
* `insertLast_replaceFirst`: so do a replacement and an insertion behind the last import.
* `ensure_replaceFirst`: so do a replacement and `ensure`, which returns the same and adds as many.
-/
namespace Codemod.Imports

/-- What is put in the place of a declaration of `m` is one or more declarations of `m`. -/
structure InPlace (m : String) (new : ImportDecl → List Item) : Prop where
  imports : ∀ d, d.module = m → ∃ e, ∃ es : List ImportDecl, new d = .importing e :: es.map .importing
  own : ∀ d, d.module = m → ∀ n, n ≠ m → Absent n (new d)

theorem inPlace_modify {m : String} {f : ImportDecl → ImportDecl}
    (h : ∀ d, (f d).module = d.module) : InPlace m fun d => [.importing (f d)] where
  imports d _ := ⟨f d, [], rfl⟩
  own d hd n hn := by simp [h, hd, Ne.symm hn]

/-! ## Lookup -/

theorem find?_replaceFirst_of_ne {m n : String} {new : ImportDecl → List Item}
    (hown : ∀ d, d.module = m → Absent n (new d)) (hne : m ≠ n) (items : List Item) :
    find? n (replaceFirst m new items) = find? n items := by
  rcases place m items with habs | ⟨before, d, after, rfl, hf⟩
  · rw [replaceFirst_of_absent new habs]
  · have hcons : declarationsOf n (.importing d :: after) = declarationsOf n after := by
      rw [declarationsOf_importing, if_neg (by rw [hf.module_eq]; exact hne)]
    have hnew := (absent_iff_declarationsOf n _).1 (hown d hf.module_eq)
    rw [replaceFirst_cut hf, find?_eq_head?, find?_eq_head?]
    simp only [declarationsOf_append, hcons, hnew, List.nil_append]

/-! ## Replacing -/

theorem replaceFirst_importing_self {m : String} {d : ImportDecl} (h : d.module = m)
    (new : ImportDecl → List Item) (items : List Item) :
    replaceFirst m new (.importing d :: items) = new d ++ items := by
  rw [replaceFirst, if_pos (by simp [h])]

theorem replaceFirst_importing_ne {m : String} {d : ImportDecl} (h : d.module ≠ m)
    (new : ImportDecl → List Item) (items : List Item) :
    replaceFirst m new (.importing d :: items) = .importing d :: replaceFirst m new items := by
  rw [replaceFirst, if_neg (by simp [h])]

/-- Two replacements commute when neither makes declarations of the other's module. -/
theorem replaceFirst_comm {m n : String} {f g : ImportDecl → List Item}
    (hf : ∀ d, d.module = m → Absent n (f d)) (hg : ∀ d, d.module = n → Absent m (g d))
    (hne : m ≠ n) (items : List Item) :
    replaceFirst n g (replaceFirst m f items) = replaceFirst m f (replaceFirst n g items) := by
  induction items with
  | nil => rfl
  | cons item rest ih =>
    cases item with
    | importing d =>
      by_cases hm : d.module = m
      · have hn : d.module ≠ n := by rw [hm]; exact hne
        rw [replaceFirst_importing_self hm, replaceFirst_importing_ne hn,
          replaceFirst_importing_self hm, replaceFirst_behind g _ (hf d hm)]
      · by_cases hn : d.module = n
        · rw [replaceFirst_importing_ne hm, replaceFirst_importing_self hn,
            replaceFirst_importing_self hn, replaceFirst_behind f _ (hg d hn)]
        · rw [replaceFirst_importing_ne hm, replaceFirst_importing_ne hn,
            replaceFirst_importing_ne hn, replaceFirst_importing_ne hm, ih]
    | code node => simp only [replaceFirst, ih]

/-! ## Inserting -/

theorem insertLast_importing (decl d : ImportDecl) (items : List Item) :
    insertLast decl (.importing d :: items) = .importing d :: insertLast decl items := by
  rw [insertLast, if_pos (by simp [Item.isImport, Item.import?])]

theorem insertLast_imports (decl : ImportDecl) (es : List ImportDecl) (items : List Item) :
    insertLast decl (es.map .importing ++ items) = es.map .importing ++ insertLast decl items := by
  induction es with
  | nil => rfl
  | cons e es ih => rw [List.map_cons, List.cons_append, insertLast_importing, ih, List.cons_append]

theorem any_isImport_replaceFirst {m : String} {new : ImportDecl → List Item}
    (hp : InPlace m new) (items : List Item) :
    (replaceFirst m new items).any Item.isImport = items.any Item.isImport := by
  rcases place m items with habs | ⟨before, d, after, rfl, hf⟩
  · rw [replaceFirst_of_absent new habs]
  · obtain ⟨e, es, he⟩ := hp.imports d hf.module_eq
    rw [replaceFirst_cut hf, he]
    simp [Item.isImport, Item.import?]

theorem insertLast_replaceFirst {m : String} {new : ImportDecl → List Item} (hp : InPlace m new)
    {decl : ImportDecl} (hne : decl.module ≠ m) (items : List Item) :
    insertLast decl (replaceFirst m new items) = replaceFirst m new (insertLast decl items) := by
  induction items with
  | nil => rw [replaceFirst, insertLast, replaceFirst_importing_ne hne, replaceFirst]
  | cons item rest ih =>
    cases item with
    | importing d =>
      rw [insertLast_importing]
      by_cases hm : d.module = m
      · obtain ⟨e, es, he⟩ := hp.imports d hm
        rw [replaceFirst_importing_self hm, replaceFirst_importing_self hm, he]
        exact insertLast_imports decl (e :: es) rest
      · rw [replaceFirst_importing_ne hm, replaceFirst_importing_ne hm, insertLast_importing, ih]
    | code node =>
      -- the declaration goes behind the code exactly when an import does
      have hany : (.code node :: replaceFirst m new rest).any Item.isImport =
          (.code node :: rest).any Item.isImport := by
        rw [List.any_cons, List.any_cons, any_isImport_replaceFirst hp]
      rw [replaceFirst, insertLast, insertLast, hany]
      split
      · rw [ih, replaceFirst]
      · rw [replaceFirst_importing_ne hne, replaceFirst]

/-! ## Ensuring -/

/-- `ensure` and a replacement for another module commute. -/
theorem ensure_replaceFirst {m : String} {new : ImportDecl → List Item} (hp : InPlace m new)
    {r : Request} (hne : r.module ≠ m) (items : List Item) :
    ensure r (replaceFirst m new items) =
      { ensure r items with items := replaceFirst m new (ensure r items).items } := by
  have hfind : find? r.module (replaceFirst m new items) = find? r.module items :=
    find?_replaceFirst_of_ne (fun d hd => hp.own d hd r.module hne) (Ne.symm hne) items
  -- a replacement that `ensure` makes itself has declarations of `r.module` only
  have hcomm : ∀ g : ImportDecl → List Item, (∀ d, d.module = r.module → Absent m (g d)) →
      replaceFirst r.module g (replaceFirst m new items) =
        replaceFirst m new (replaceFirst r.module g items) := fun g hg =>
    replaceFirst_comm (fun d hd => hp.own d hd r.module hne) hg (Ne.symm hne) items
  unfold ensure
  rw [hfind]
  cases hd : find? r.module items with
  | none =>
    dsimp only
    split
    · rfl
    · rw [insertLast_replaceFirst hp (by simpa using hne)]
  | some d =>
    have hdm := find?_module hd
    dsimp only
    split
    · rfl
    · split
      · rw [hcomm]
        intro e _
        simp [hdm, hne]
      · rw [hcomm]
        intro e he
        simp [he, hne]

end Codemod.Imports
