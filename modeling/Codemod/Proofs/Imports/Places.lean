import Codemod.Imports.Edit

/-!
# Where an edit takes place

Every edit for a module looks for the module's first declaration and works there. A body is
therefore cut at that declaration, `before ++ .importing d :: after`, and the edits are read off the
cut: `First m before d` says that `d` is the first declaration of `m` when it stands behind
`before`.

Results:
* `place`: a body either has no declaration of a module or can be cut at the first one.
* `find?_cut`, `replaceFirst_cut`: what is found at a cut, and what replacing it leaves.
* `insertLast_cut`: a new declaration goes to a cut with no import behind it, and with an import or
  nothing right in front of it.
* `declarationsOf_cut`: the declarations of a module are the one at the cut and those behind it.
-/
namespace Codemod.Imports

/-- No item imports the module. -/
def Absent (m : String) (items : List Item) : Prop := ∀ item ∈ items, imports m item = false

/-- `d` imports the module, and nothing before it does. -/
structure First (m : String) (before : List Item) (d : ImportDecl) : Prop where
  absent : Absent m before
  module_eq : d.module = m

def declarationsOf (m : String) (items : List Item) : List ImportDecl :=
  (declarations items).filter (·.module == m)

/-! ## Bodies without the module -/

@[simp] theorem absent_nil (m : String) : Absent m [] := by simp [Absent]

@[simp] theorem absent_cons (m : String) (item : Item) (items : List Item) :
    Absent m (item :: items) ↔ imports m item = false ∧ Absent m items := by
  simp [Absent]

@[simp] theorem absent_append (m : String) (xs ys : List Item) :
    Absent m (xs ++ ys) ↔ Absent m xs ∧ Absent m ys := by
  simp [Absent, or_imp, forall_and]

@[simp] theorem imports_importing (m : String) (d : ImportDecl) :
    imports m (.importing d) = (d.module == m) := rfl

@[simp] theorem imports_code (m : String) (node : Node) : imports m (.code node) = false := rfl

/-- A body either has no declaration of the module or can be cut at the first one. -/
theorem place (m : String) (items : List Item) :
    Absent m items ∨ ∃ before d after, items = before ++ .importing d :: after ∧ First m before d := by
  induction items with
  | nil => exact Or.inl (absent_nil m)
  | cons item rest ih =>
    cases hi : imports m item with
    | true =>
      right
      cases item with
      | importing d => exact ⟨[], d, rest, rfl, absent_nil m, by simpa using hi⟩
      | code node => simp at hi
    | false =>
      rcases ih with habs | ⟨before, d, after, rfl, hf⟩
      · exact Or.inl ((absent_cons m item rest).2 ⟨hi, habs⟩)
      · exact Or.inr ⟨item :: before, d, after, rfl, (absent_cons m item before).2 ⟨hi, hf.absent⟩,
          hf.module_eq⟩

/-! ## Declarations of a module -/

@[simp] theorem declarations_append (xs ys : List Item) :
    declarations (xs ++ ys) = declarations xs ++ declarations ys := by
  simp [declarations]

@[simp] theorem declarations_importing (d : ImportDecl) (items : List Item) :
    declarations (.importing d :: items) = d :: declarations items := rfl

@[simp] theorem declarations_code (node : Node) (items : List Item) :
    declarations (.code node :: items) = declarations items := rfl

@[simp] theorem declarationsOf_append (m : String) (xs ys : List Item) :
    declarationsOf m (xs ++ ys) = declarationsOf m xs ++ declarationsOf m ys := by
  simp [declarationsOf]

theorem declarationsOf_importing (m : String) (d : ImportDecl) (items : List Item) :
    declarationsOf m (.importing d :: items) =
      if d.module = m then d :: declarationsOf m items else declarationsOf m items := by
  by_cases h : d.module = m <;> simp [declarationsOf, h]

theorem absent_iff_declarationsOf (m : String) (items : List Item) :
    Absent m items ↔ declarationsOf m items = [] := by
  induction items with
  | nil => simp [declarationsOf, declarations]
  | cons item rest ih =>
    cases item with
    | importing d =>
      rw [absent_cons, declarationsOf_importing, ih]
      by_cases h : d.module = m <;> simp [h]
    | code node => simp [ih, declarationsOf]

theorem declarationsOf_cut {m : String} {before : List Item} {d : ImportDecl} (hf : First m before d)
    (after : List Item) :
    declarationsOf m (before ++ .importing d :: after) = d :: declarationsOf m after := by
  rw [declarationsOf_append, (absent_iff_declarationsOf m before).1 hf.absent,
    declarationsOf_importing, if_pos hf.module_eq, List.nil_append]

theorem find?_eq_head? (m : String) (items : List Item) :
    find? m items = (declarationsOf m items).head? := by
  rw [find?, declarationsOf, List.head?_filter]

theorem find?_of_absent {m : String} {items : List Item} (h : Absent m items) :
    find? m items = none := by
  rw [find?_eq_head?, (absent_iff_declarationsOf m items).1 h, List.head?_nil]

theorem absent_of_find?_eq_none {m : String} {items : List Item} (h : find? m items = none) :
    Absent m items := by
  rw [find?_eq_head?, List.head?_eq_none_iff] at h
  exact (absent_iff_declarationsOf m items).2 h

theorem find?_cut {m : String} {before : List Item} {d : ImportDecl} (hf : First m before d)
    (after : List Item) : find? m (before ++ .importing d :: after) = some d := by
  rw [find?_eq_head?, declarationsOf_cut hf, List.head?_cons]

theorem find?_behind {m : String} {before : List Item} (h : Absent m before) (after : List Item) :
    find? m (before ++ after) = find? m after := by
  rw [find?_eq_head?, declarationsOf_append, (absent_iff_declarationsOf m before).1 h,
    List.nil_append, find?_eq_head?]

theorem find?_module {m : String} {items : List Item} {d : ImportDecl}
    (h : find? m items = some d) : d.module = m := by
  simpa using List.find?_some h

/-! ## Replacing the first declaration -/

theorem replaceFirst_of_absent {m : String} (new : ImportDecl → List Item) :
    ∀ {items : List Item}, Absent m items → replaceFirst m new items = items
  | [], _ => rfl
  | .importing d :: rest, h => by
    rw [absent_cons, imports_importing] at h
    rw [replaceFirst, if_neg (by simp [h.1]), replaceFirst_of_absent new h.2]
  | .code node :: rest, h => by
    rw [absent_cons] at h
    rw [replaceFirst, replaceFirst_of_absent new h.2]

theorem replaceFirst_behind {m : String} (new : ImportDecl → List Item) (after : List Item) :
    ∀ {before : List Item}, Absent m before →
      replaceFirst m new (before ++ after) = before ++ replaceFirst m new after
  | [], _ => rfl
  | .importing d :: rest, h => by
    rw [absent_cons, imports_importing] at h
    rw [List.cons_append, replaceFirst, if_neg (by simp [h.1]), replaceFirst_behind new after h.2,
      List.cons_append]
  | .code node :: rest, h => by
    rw [absent_cons] at h
    rw [List.cons_append, replaceFirst, replaceFirst_behind new after h.2, List.cons_append]

theorem replaceFirst_cut {m : String} {before : List Item} {d : ImportDecl} (hf : First m before d)
    (new : ImportDecl → List Item) (after : List Item) :
    replaceFirst m new (before ++ .importing d :: after) = before ++ (new d ++ after) := by
  rw [replaceFirst_behind new _ hf.absent, replaceFirst, if_pos (by simp [hf.module_eq])]

/-! ## Inserting after the last import -/

/-- The place behind the last import declaration: no import follows, and in front of it stands an
import, or nothing. -/
structure BehindImports (before after : List Item) : Prop where
  noneAfter : ∀ item ∈ after, item.isImport = false
  ends : before = [] ∨ ∃ init d, before = init ++ [.importing d]

/-- Every declaration goes to the same place. -/
theorem insertLast_cut (items : List Item) :
    ∃ before after, items = before ++ after ∧ BehindImports before after ∧
      ∀ decl, insertLast decl items = before ++ .importing decl :: after := by
  induction items with
  | nil => exact ⟨[], [], rfl, ⟨by simp, Or.inl rfl⟩, fun _ => rfl⟩
  | cons item rest ih =>
    by_cases hany : (item :: rest).any Item.isImport = true
    · obtain ⟨before, after, rfl, hb, he⟩ := ih
      refine ⟨item :: before, after, rfl, ⟨hb.noneAfter, Or.inr ?_⟩, fun decl => ?_⟩
      · rcases hb.ends with rfl | ⟨init, d, rfl⟩
        · -- nothing behind `item` is an import, so `item` is the last one
          rw [List.any_eq_true] at hany
          obtain ⟨i, hi, himport⟩ := hany
          rcases List.mem_cons.1 hi with rfl | hi
          · cases i with
            | importing d => exact ⟨[], d, rfl⟩
            | code node => cases himport
          · rw [hb.noneAfter i hi] at himport; cases himport
        · exact ⟨item :: init, d, rfl⟩
      · rw [insertLast, if_pos hany, he decl, List.cons_append]
    · refine ⟨[], item :: rest, rfl, ⟨fun i hi => ?_, Or.inl rfl⟩, fun decl => ?_⟩
      · simp only [Bool.not_eq_true, List.any_eq_false] at hany
        simpa using hany i hi
      · rw [insertLast, if_neg hany, List.nil_append]

end Codemod.Imports
