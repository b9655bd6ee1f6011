import Codemod.Proofs.Imports.Actions
import Codemod.Proofs.Imports.Commute

/-!
# Actions for different modules

An action reads two things of a body: the first declaration of its module, and the names that the
code refers to. An action for another module changes neither, so both answer the same in either
order. What they leave is the same too, unless one of them makes a declaration for a module that has
none (`Action.Fresh`): it looks for the last import, whichever module that is of. An edit in place
does not move that, a deletion may, and of two new declarations the later one stands behind.

Results:
* `answer_congr`, `put_congr`: what an action answers and puts in place depends on what it reads.
* `run_of_not_fresh`: all other actions replace the declaration that they find.
* `run_comm_of_not_fresh`, `run_comm_of_fresh`: two actions that commute.
* `run_swap_of_fresh`: two new declarations stand side by side, in the order of the actions.
* `action_interchange`: all of this together.
-/
namespace Codemod.Imports

/-! ## Answers -/

/-- What an action answers: the declaration that holds the names, how many specifiers it has added
or taken out, whether there was a declaration, or how many specifiers that had. -/
inductive Answer
  | holds (decl : Option ImportDecl)
  | count (n : Nat)
  | found (found : Bool)
  | cleared (n : Option Nat)

def Action.answer (m : String) : Action → List Item → Answer
  | .ensure names, items => .holds (Imports.ensure ⟨names, m⟩ items).decl
  | .apply names, items => .count (Imports.apply ⟨names, m⟩ items).2
  | .remove names, items => .count (Imports.remove m names items).2
  | .removeDeclaration, items => .found (Imports.removeDeclaration m items).2
  | .prune, items => .count (Imports.prune m items).2
  | .clear, items => .cleared (Imports.clear m items).2

/-- The action makes a declaration for a module that has none. -/
def Action.Fresh (m : String) (action : Action) (items : List Item) : Prop :=
  action.wants ≠ [] ∧ find? m items = none

/-- The action leaves fewer declarations than there were. -/
def Action.Deletes (m : String) (action : Action) (items : List Item) : Prop :=
  (declarations (action.run m items)).length < (declarations items).length

/-! ## What an action reads -/

/-- Two bodies that an action for the module `m` cannot tell apart, but for where things stand. -/
structure Alike (m : String) (items items' : List Item) : Prop where
  find : find? m items' = find? m items
  used : isReferenced items' = isReferenced items

/-- An action for another module leaves all that is read. -/
theorem alike_run {m n : String} (hne : m ≠ n) (action : Action) (items : List Item) :
    Alike m items (action.run n items) where
  find := (action_change n action items).find?_ne hne
  used := (action_change n action items).isReferenced_eq

theorem ensure_congr {r : Request} {items items' : List Item}
    (h : find? r.module items' = find? r.module items) :
    (ensure r items').decl = (ensure r items).decl ∧
      (ensure r items').added = (ensure r items).added := by
  unfold ensure
  rw [h]
  cases find? r.module items with
  | none => dsimp only; split <;> exact ⟨rfl, rfl⟩
  | some d =>
    dsimp only
    split
    · exact ⟨rfl, rfl⟩
    · split <;> exact ⟨rfl, rfl⟩

theorem answer_congr {m : String} {items items' : List Item} (h : Alike m items items')
    (action : Action) : action.answer m items' = action.answer m items := by
  cases action with
  | ensure names => exact congrArg Answer.holds (ensure_congr (r := ⟨names, m⟩) h.find).1
  | apply names => exact congrArg Answer.count (ensure_congr (r := ⟨names, m⟩) h.find).2
  | remove names =>
    simp only [Action.answer, remove, h.find]
    cases find? m items <;> rfl
  | removeDeclaration => simp only [Action.answer, removeDeclaration, h.find]
  | prune =>
    simp only [Action.answer, prune, h.find, h.used]
    cases find? m items <;> rfl
  | clear => simp only [Action.answer, clear, h.find]

theorem fresh_congr {m : String} {items items' : List Item} (h : Alike m items items')
    (action : Action) : action.Fresh m items' ↔ action.Fresh m items := by
  rw [Action.Fresh, Action.Fresh, h.find]

/-! ## Actions as replacements -/

/-- What the action puts in the place of the first declaration of its module. -/
def Action.put (m : String) (action : Action) (items : List Item) : List ImportDecl :=
  match find? m items with
  | none => []
  | some d => action.onFound m (isReferenced items) d

theorem put_congr {m : String} {items items' : List Item} (h : Alike m items items')
    (action : Action) : action.put m items' = action.put m items := by
  rw [Action.put, Action.put, h.find, h.used]

theorem put_cut {m : String} {before : List Item} {d : ImportDecl} (hf : First m before d)
    (after : List Item) (action : Action) :
    action.put m (before ++ .importing d :: after) =
      action.onFound m (isReferenced (before ++ .importing d :: after)) d := by
  rw [Action.put, find?_cut hf]

theorem module_of_mem_put {m : String} {action : Action} {items : List Item} :
    ∀ e ∈ action.put m items, e.module = m := by
  rcases place m items with habs | ⟨before, d, after, rfl, hf⟩
  · rw [Action.put, find?_of_absent habs]; simp
  · rw [put_cut hf]
    exact (onFound_replacement m _ d action).module_eq hf.module_eq

theorem absent_put {m n : String} (hne : m ≠ n) (action : Action) (items : List Item) :
    Absent n ((action.put m items).map .importing) := by
  intro item hitem
  obtain ⟨e, he, rfl⟩ := List.mem_map.1 hitem
  simpa [module_of_mem_put e he] using hne

theorem run_of_not_fresh {m : String} {action : Action} {items : List Item}
    (h : ¬ action.Fresh m items) :
    action.run m items =
      replaceFirst m (fun _ => (action.put m items).map .importing) items := by
  rcases place m items with habs | ⟨before, d, after, rfl, hf⟩
  · have hw : action.wants = [] := by
      by_cases hw : action.wants = []
      · exact hw
      · exact absurd ⟨hw, find?_of_absent habs⟩ h
    rw [run_of_absent habs, if_pos hw, replaceFirst_of_absent _ habs]
  · rw [run_of_found hf, replaceFirst_cut hf, put_cut hf]

theorem run_of_fresh {m : String} {action : Action} {items : List Item}
    (h : action.Fresh m items) :
    action.run m items = insertLast (declarationOf m (missing [] action.wants)) items := by
  rw [run_of_absent (absent_of_find?_eq_none h.2), if_neg h.1]

/-! ## Both orders -/

section
variable {m n : String} (hne : m ≠ n) {a b : Action} {items : List Item}
include hne

theorem run_comm_of_not_fresh (ha : ¬ a.Fresh m items) (hb : ¬ b.Fresh n items) :
    b.run n (a.run m items) = a.run m (b.run n items) := by
  have hm := alike_run hne b items
  have hn := alike_run (Ne.symm hne) a items
  rw [run_of_not_fresh (mt (fresh_congr hn b).1 hb), put_congr hn,
    run_of_not_fresh (mt (fresh_congr hm a).1 ha), put_congr hm, run_of_not_fresh ha,
    run_of_not_fresh hb]
  exact replaceFirst_comm (fun _ _ => absent_put hne a items)
    (fun _ _ => absent_put (Ne.symm hne) b items) hne items

omit hne in
/-- An action that finds a declaration and does not delete puts at least one in its place. -/
theorem put_inPlace (hb : ¬ b.Deletes n items) (hfound : find? n items ≠ none) :
    InPlace n (fun _ => (b.put n items).map .importing) where
  imports d hd := by
    cases hput : b.put n items with
    | cons e es => exact ⟨e, es, rfl⟩
    | nil =>
      rcases place n items with habs | ⟨before, d, after, rfl, hf⟩
      · exact absurd (find?_of_absent habs) hfound
      · refine absurd ?_ hb
        rw [put_cut hf] at hput
        rw [Action.Deletes, run_of_found hf, hput]
        simp
  own d hd k hk := absent_put (Ne.symm hk) b items

theorem run_comm_of_fresh (ha : a.Fresh m items) (hb : ¬ b.Fresh n items)
    (hd : ¬ b.Deletes n items) : b.run n (a.run m items) = a.run m (b.run n items) := by
  have hm := alike_run hne b items
  have hn := alike_run (Ne.symm hne) a items
  rw [run_of_not_fresh (mt (fresh_congr hn b).1 hb), put_congr hn,
    run_of_fresh ((fresh_congr hm a).2 ha), run_of_fresh ha, run_of_not_fresh hb]
  by_cases hfound : find? n items = none
  · -- nothing is there to replace, neither before nor after the insertion
    have habs' : Absent n (a.run m items) := absent_of_find?_eq_none (hn.find.trans hfound)
    rw [run_of_fresh ha] at habs'
    rw [replaceFirst_of_absent _ (absent_of_find?_eq_none hfound), replaceFirst_of_absent _ habs']
  · have hmodule : (declarationOf m (missing [] a.wants)).module ≠ n := hne
    exact (insertLast_replaceFirst (put_inPlace hd hfound) hmodule items).symm

end

/-! ## Two new declarations -/

theorem insertLast_of_no_imports {items : List Item} (h : ∀ item ∈ items, item.isImport = false)
    (decl : ImportDecl) : insertLast decl items = .importing decl :: items := by
  cases items with
  | nil => rfl
  | cons item rest =>
    rw [insertLast, if_neg]
    simpa using h

/-- The place behind a new declaration is the place behind the last import. -/
theorem insertLast_behind {before after : List Item} (h : ∀ item ∈ after, item.isImport = false)
    (d decl : ImportDecl) :
    insertLast decl (before ++ .importing d :: after) =
      before ++ .importing d :: .importing decl :: after := by
  induction before with
  | nil => rw [List.nil_append, insertLast_importing, insertLast_of_no_imports h, List.nil_append]
  | cons item rest ih =>
    rw [List.cons_append, insertLast, if_pos (by simp [Item.isImport, Item.import?]), ih,
      List.cons_append]

theorem run_swap_of_fresh {m n : String} (hne : m ≠ n) {a b : Action} {items : List Item}
    (ha : a.Fresh m items) (hb : b.Fresh n items) :
    ∃ before after, items = before ++ after ∧
      b.run n (a.run m items) =
        before ++ .importing (declarationOf m (missing [] a.wants)) ::
          .importing (declarationOf n (missing [] b.wants)) :: after ∧
      a.run m (b.run n items) =
        before ++ .importing (declarationOf n (missing [] b.wants)) ::
          .importing (declarationOf m (missing [] a.wants)) :: after := by
  have ha' := (fresh_congr (alike_run hne b items) a).2 ha
  have hb' := (fresh_congr (alike_run (Ne.symm hne) a items) b).2 hb
  obtain ⟨before, after, hitems, hcut, he⟩ := insertLast_cut items
  refine ⟨before, after, hitems, ?_, ?_⟩
  · rw [run_of_fresh hb', run_of_fresh ha, he, insertLast_behind hcut.noneAfter]
  · rw [run_of_fresh ha', run_of_fresh hb, he, insertLast_behind hcut.noneAfter]

/-! ## Interchange -/

/-- Two actions for different modules answer the same in either order. They leave the same body when
neither makes a declaration for a module that has none, or when one does and the other does not
delete one; when both do, the two new declarations stand side by side, in the order of the
actions. -/
theorem action_interchange (items : List Item) {m n : String} (hne : m ≠ n) (a b : Action) :
    a.answer m (b.run n items) = a.answer m items ∧
      b.answer n (a.run m items) = b.answer n items ∧
      ((¬ a.Fresh m items ∧ ¬ b.Fresh n items) ∨
          (a.Fresh m items ∧ ¬ b.Fresh n items ∧ ¬ b.Deletes n items) ∨
          (b.Fresh n items ∧ ¬ a.Fresh m items ∧ ¬ a.Deletes m items) →
        b.run n (a.run m items) = a.run m (b.run n items)) ∧
      (a.Fresh m items → b.Fresh n items →
        ∃ before after, items = before ++ after ∧
          b.run n (a.run m items) =
            before ++ .importing (declarationOf m (missing [] a.wants)) ::
              .importing (declarationOf n (missing [] b.wants)) :: after ∧
          a.run m (b.run n items) =
            before ++ .importing (declarationOf n (missing [] b.wants)) ::
              .importing (declarationOf m (missing [] a.wants)) :: after) := by
  refine ⟨answer_congr (alike_run hne b items) a, answer_congr (alike_run (Ne.symm hne) a items) b,
    ?_, run_swap_of_fresh hne⟩
  rintro (⟨ha, hb⟩ | ⟨ha, hb, hd⟩ | ⟨hb, ha, hd⟩)
  · exact run_comm_of_not_fresh hne ha hb
  · exact run_comm_of_fresh hne ha hb hd
  · exact (run_comm_of_fresh (Ne.symm hne) hb ha hd).symm

/-- A name for a module that is not imported, and one that goes in front of a namespace import. -/
theorem action_interchange_precede :
    (Action.apply ["x"]).Fresh "k" [.importing namespaceImport] ∧
      ¬ (Action.apply ["a"]).Fresh "m" [.importing namespaceImport] ∧
      ¬ (Action.apply ["a"]).Deletes "m" [.importing namespaceImport] ∧
      (Action.apply ["a"]).run "m" ((Action.apply ["x"]).run "k" [.importing namespaceImport]) =
        (Action.apply ["x"]).run "k"
          ((Action.apply ["a"]).run "m" [.importing namespaceImport]) := by
  have hfresh : (Action.apply ["x"]).Fresh "k" [.importing namespaceImport] :=
    ⟨List.cons_ne_nil _ _, rfl⟩
  have hfound : ¬ (Action.apply ["a"]).Fresh "m" [.importing namespaceImport] := by
    rintro ⟨-, hnone⟩
    cases hnone
  have hstays : ¬ (Action.apply ["a"]).Deletes "m" [.importing namespaceImport] :=
    Nat.not_lt.2 (Nat.le_succ 1)
  exact ⟨hfresh, hfound, hstays, (action_interchange _ (by decide) _ _).2.2.1
    (Or.inr (Or.inl ⟨hfresh, hfound, hstays⟩))⟩

/-- A deletion may take the last import away, behind which the new declaration would have gone. -/
example :
    (Action.apply ["x"]).run "k" (Action.removeDeclaration.run "m"
        [.code (.emptyStmt ⟨0, 1⟩), .importing namespaceImport]) =
      [.importing (declarationOf "k" ["x"]), .code (.emptyStmt ⟨0, 1⟩)] ∧
    Action.removeDeclaration.run "m" ((Action.apply ["x"]).run "k"
        [.code (.emptyStmt ⟨0, 1⟩), .importing namespaceImport]) =
      [.code (.emptyStmt ⟨0, 1⟩), .importing (declarationOf "k" ["x"])] :=
  ⟨rfl, rfl⟩

end Codemod.Imports
