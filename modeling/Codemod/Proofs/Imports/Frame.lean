import Codemod.Class
import Codemod.Proofs.Imports.Ensure

/-!
# What edits leave alone

`Change m items items'` says once what an edit for the module `m` can do to a body: nothing, put a
new declaration of `m` where there was none, put one in front of the first, rewrite the first, or
delete it. Everything else stands as it stood. A run is a list of edits, each on the body that the
one before has left.

Results:
* `ensure_change`, `remove_change`, `removeDeclaration_change`, `prune_change`, `clear_change`:
  every edit of a module is such a change.
* `Change.code_eq`, `Change.declarationsOf_ne`: a change keeps all code, and all declarations of
  other modules.
* `run_induction`: what every action keeps, every run keeps.
* `run_frame`: runs keep all code, so the classes and the references of a body; and each action is a
  change of its module only.
-/
namespace Codemod.Imports

/-! ## Changes -/

/-- What an edit for the module `m` can do to a body. -/
inductive Change (m : String) : List Item → List Item → Prop
  | same (items : List Item) : Change m items items
  | insert {before after : List Item} {new : ImportDecl} (habs : Absent m (before ++ after))
      (hnew : new.module = m) : Change m (before ++ after) (before ++ .importing new :: after)
  | precede {before after : List Item} {d new : ImportDecl} (hf : First m before d)
      (hnew : new.module = m) :
      Change m (before ++ .importing d :: after)
        (before ++ .importing new :: .importing d :: after)
  | rewrite {before after : List Item} {d new : ImportDecl} (hf : First m before d)
      (hnew : new.module = m) :
      Change m (before ++ .importing d :: after) (before ++ .importing new :: after)
  | delete {before after : List Item} {d : ImportDecl} (hf : First m before d) :
      Change m (before ++ .importing d :: after) (before ++ after)

/-- The items that are no import declarations. -/
def code (items : List Item) : List Item := items.filter (!·.isImport)

@[simp] theorem code_append (xs ys : List Item) : code (xs ++ ys) = code xs ++ code ys := by
  simp [code]

@[simp] theorem code_importing (d : ImportDecl) (items : List Item) :
    code (.importing d :: items) = code items := rfl

theorem Change.code_eq {m : String} {items items' : List Item} (h : Change m items items') :
    code items' = code items := by
  cases h <;> simp

theorem Change.declarationsOf_ne {m n : String} {items items' : List Item}
    (h : Change m items items') (hne : n ≠ m) :
    declarationsOf n items' = declarationsOf n items := by
  have hskip : ∀ (d : ImportDecl) rest, d.module = m →
      declarationsOf n (.importing d :: rest) = declarationsOf n rest := by
    intro d rest hd
    rw [declarationsOf_importing, if_neg (by rw [hd]; exact Ne.symm hne)]
  cases h with
  | same => rfl
  | insert habs hnew => simp only [declarationsOf_append, hskip _ _ hnew]
  | precede hf hnew => simp only [declarationsOf_append, hskip _ _ hnew, hskip _ _ hf.module_eq]
  | rewrite hf hnew => simp only [declarationsOf_append, hskip _ _ hnew, hskip _ _ hf.module_eq]
  | delete hf => simp only [declarationsOf_append, hskip _ _ hf.module_eq]

theorem Change.find?_ne {m n : String} {items items' : List Item} (h : Change m items items')
    (hne : n ≠ m) : find? n items' = find? n items := by
  rw [find?_eq_head?, find?_eq_head?, h.declarationsOf_ne hne]

/-! ## Each edit is a change -/

theorem ensure_change (r : Request) (items : List Item) :
    Change r.module items (ensure r items).items := by
  have h := ensure_spec r items
  generalize ensure r items = done at h ⊢
  cases h with
  | unwanted => exact .same _
  | fresh habs => exact .insert habs rfl
  | present => exact .same _
  | extend hf => exact .rewrite hf (hf.append _).module_eq
  | precede hf => exact .precede hf rfl

/-- Replacing the first declaration by at most one of its module is a change. -/
theorem replaceFirst_change {m : String} {new : ImportDecl → List Item}
    (h : ∀ d, d.module = m → new d = [] ∨ ∃ e, new d = [.importing e] ∧ e.module = m)
    (items : List Item) : Change m items (replaceFirst m new items) := by
  rcases place m items with habs | ⟨before, d, after, rfl, hf⟩
  · rw [replaceFirst_of_absent new habs]; exact .same items
  · rw [replaceFirst_cut hf]
    rcases h d hf.module_eq with hnil | ⟨e, hone, he⟩
    · rw [hnil]; exact .delete hf
    · rw [hone]; exact .rewrite hf he

theorem remove_change (m : String) (names : List String) (items : List Item) :
    Change m items (remove m names items).1 := by
  unfold remove
  split
  · exact .same items
  · rename_i d hd
    refine replaceFirst_change (fun _ _ => ?_) items
    split
    · exact Or.inl rfl
    · exact Or.inr ⟨_, rfl, (module_keepNamed _ d).trans (find?_module hd)⟩

theorem removeDeclaration_change (m : String) (items : List Item) :
    Change m items (removeDeclaration m items).1 :=
  replaceFirst_change (fun _ _ => Or.inl rfl) items

theorem prune_change (m : String) (items : List Item) : Change m items (prune m items).1 := by
  unfold prune
  split
  · exact .same items
  · rename_i d hd
    refine replaceFirst_change (fun _ _ => ?_) items
    split
    · exact Or.inl rfl
    · exact Or.inr ⟨_, rfl, (module_keepNamed _ d).trans (find?_module hd)⟩

theorem clear_change (m : String) (items : List Item) : Change m items (clear m items).1 :=
  replaceFirst_change (fun d hd => Or.inr ⟨{ d with specifiers := [] }, rfl, hd⟩) items

/-! ## Runs -/

/-- An edit of one module. -/
inductive Action
  | ensure (names : List String)
  | apply (names : List String)
  | remove (names : List String)
  | removeDeclaration
  | prune
  | clear
deriving DecidableEq, Repr

/-- The body after the action for a module. -/
def Action.run (m : String) : Action → List Item → List Item
  | .ensure names, items => (Imports.ensure ⟨names, m⟩ items).items
  | .apply names, items => (Imports.apply ⟨names, m⟩ items).1
  | .remove names, items => (Imports.remove m names items).1
  | .removeDeclaration, items => (Imports.removeDeclaration m items).1
  | .prune, items => (Imports.prune m items).1
  | .clear, items => (Imports.clear m items).1

inductive Edit
  | single (module : String) (action : Action)
  | applyAll (requests : List Request)
deriving DecidableEq, Repr

def Edit.run : Edit → List Item → List Item
  | .single m action, items => action.run m items
  | .applyAll requests, items => (Imports.applyAll requests items).1

/-- The body after the edits, one after the other. -/
def run (edits : List Edit) (items : List Item) : List Item :=
  edits.foldl (fun items edit => edit.run items) items

theorem action_change (m : String) (action : Action) (items : List Item) :
    Change m items (action.run m items) := by
  cases action with
  | ensure names => exact ensure_change ⟨names, m⟩ items
  | apply names => exact ensure_change ⟨names, m⟩ items
  | remove names => exact remove_change m names items
  | removeDeclaration => exact removeDeclaration_change m items
  | prune => exact prune_change m items
  | clear => exact clear_change m items

theorem applyAll_induction {P : List Item → Prop}
    (h : ∀ r items, P items → P (ensure r items).items) :
    ∀ (requests : List Request) (items : List Item), P items → P (applyAll requests items).1
  | [], _, hP => hP
  | r :: requests, items, hP => applyAll_induction h requests _ (h r items hP)

/-- What every action keeps, every run keeps. -/
theorem run_induction {P : List Item → Prop}
    (h : ∀ m (action : Action) items, P items → P (action.run m items)) :
    ∀ (edits : List Edit) (items : List Item), P items → P (run edits items)
  | [], _, hP => hP
  | .single m action :: edits, items, hP => run_induction h edits _ (h m action items hP)
  | .applyAll requests :: edits, items, hP =>
    run_induction h edits _
      (applyAll_induction (fun r items => h r.module (.ensure r.names) items) requests items hP)

/-! ## The frame -/

theorem run_code (edits : List Edit) (items : List Item) : code (run edits items) = code items :=
  run_induction (P := fun body => code body = code items)
    (fun m action body h => (action_change m action body).code_eq.trans h) edits items rfl

theorem ofItems_code (items : List Item) : ClassRef.ofItems (code items) = ClassRef.ofItems items := by
  induction items with
  | nil => rfl
  | cons item rest ih =>
    cases item with
    | importing d => exact ih
    | code node =>
      have hc : code (.code node :: rest) = .code node :: code rest := rfl
      rw [hc, ClassRef.ofItems, List.filterMap_cons, ClassRef.ofItems, List.filterMap_cons]
      cases ClassRef.ofItem? (.code node) with
      | none => exact ih
      | some c => exact congrArg (c :: ·) ih

theorem isReferenced_code (items : List Item) (name : String) :
    isReferenced (code items) name = isReferenced items name := by
  induction items with
  | nil => rfl
  | cons item rest ih =>
    cases item with
    | importing d => exact ih
    | code node => exact congrArg (node.identifiers.contains name || ·) ih

/-- A change leaves what the code refers to. -/
theorem Change.isReferenced_eq {m : String} {items items' : List Item} (h : Change m items items') :
    isReferenced items' = isReferenced items := by
  funext name
  rw [← isReferenced_code, h.code_eq, isReferenced_code]

/-- Runs keep all code, item by item and in order, and with it the classes of a body and the names
that it refers to. Each action of a run changes the first declaration of its module at most: every
other item of the body it starts from stands as it stood. -/
theorem run_frame (edits : List Edit) (items : List Item) :
    (run edits items).filter (!·.isImport) = items.filter (!·.isImport) ∧
      ClassRef.ofItems (run edits items) = ClassRef.ofItems items ∧
      (∀ name, isReferenced (run edits items) name = isReferenced items name) ∧
      ∀ m (action : Action) body, Change m body (action.run m body) := by
  have hcode := run_code edits items
  refine ⟨hcode, ?_, fun name => ?_, action_change⟩
  · rw [← ofItems_code, hcode, ofItems_code]
  · rw [← isReferenced_code, hcode, isReferenced_code]

end Codemod.Imports
