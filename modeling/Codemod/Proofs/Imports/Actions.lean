import Codemod.Proofs.Imports.Frame

/-!
# What an action does to a body

`Change` says where an action may work. Here is what it puts there. An action that finds no
declaration of its module makes one, if it wants names (`Action.wants`), and otherwise does nothing.
An action that finds a declaration puts `Action.onFound` in its place, which reads nothing of the
body but that declaration and the names that the code refers to.

Results:
* `run_of_absent`, `run_of_found`: an action without and with a declaration to work on.
* `onFound_replacement`: the six things that can become of a declaration (`Replacement`).
* `action_step`: what an action does, on the body cut where it works (`Step`).
* `Step.forall_declarations`: a property of single declarations that new ones have and replacements
  keep is kept by actions, and by `run_forall_declarations` by runs.
* `Unread.action`: an action does the same to items that differ in what no action reads, and by
  `Unread.run` a run.
-/
namespace Codemod.Imports

/-! ## Actions by what they find -/

/-- The names that an action makes available. -/
def Action.wants : Action → List String
  | .ensure names => names
  | .apply names => names
  | _ => []

/-- What an action for the module `m` puts in the place of the declaration that it finds; `used`
tells the names that the code of the body refers to. -/
def Action.onFound (m : String) (used : String → Bool) (d : ImportDecl) : Action → List ImportDecl
  | .ensure names | .apply names =>
    if missing d.names names = [] then [d]
    else if acceptsNames d then [append (missing d.names names) d]
    else [declarationOf m (missing d.names names), d]
  | .remove names =>
    let left := keepNamed (fun s => !names.contains s.importedText) d
    if left.named.isEmpty then [] else [left]
  | .removeDeclaration => []
  | .prune =>
    let left := keepNamed (fun s => used s.binding.text) d
    if dropped d left > 0 && left.specifiers.isEmpty then [] else [left]
  | .clear => [{ d with specifiers := [] }]

theorem onFound_apply (m : String) (used : String → Bool) (d : ImportDecl) (names : List String) :
    (Action.apply names).onFound m used d = (Action.ensure names).onFound m used d := rfl

theorem ensure_items_of_absent {r : Request} {items : List Item} (h : Absent r.module items) :
    (ensure r items).items =
      if r.names = [] then items
      else insertLast (declarationOf r.module (missing [] r.names)) items := by
  split
  · rename_i hn; rw [ensure_unwanted h hn]
  · rename_i hn; rw [ensure_fresh h hn]

/-- Without a declaration of its module an action makes one for the names it wants. -/
theorem run_of_absent {m : String} {items : List Item} (h : Absent m items) (action : Action) :
    action.run m items =
      if action.wants = [] then items
      else insertLast (declarationOf m (missing [] action.wants)) items := by
  have hnone := find?_of_absent h
  cases action with
  | ensure names => exact ensure_items_of_absent (r := ⟨names, m⟩) h
  | apply names => exact ensure_items_of_absent (r := ⟨names, m⟩) h
  | remove names => simp [Action.run, Action.wants, remove, hnone]
  | removeDeclaration => exact replaceFirst_of_absent _ h
  | prune => simp [Action.run, Action.wants, prune, hnone]
  | clear => exact replaceFirst_of_absent _ h

theorem ensure_items_of_found {r : Request} {before : List Item} {d : ImportDecl}
    (hf : First r.module before d) (after : List Item) (used : String → Bool) :
    (ensure r (before ++ .importing d :: after)).items =
      before ++ (((Action.ensure r.names).onFound r.module used d).map .importing ++ after) := by
  by_cases hm : missing d.names r.names = []
  · rw [ensure_present hf after (missing_eq_nil_iff.1 hm), Action.onFound, if_pos hm]
    rfl
  · cases ha : acceptsNames d with
    | true =>
      rw [ensure_extend hf after hm ha, Action.onFound, if_neg hm, if_pos ha]
      rfl
    | false =>
      rw [ensure_precede hf after hm ha, Action.onFound, if_neg hm, if_neg (by simp [ha])]
      rfl

/-- With a declaration of its module an action works on the first one only. -/
theorem run_of_found {m : String} {before : List Item} {d : ImportDecl} (hf : First m before d)
    (after : List Item) (action : Action) :
    action.run m (before ++ .importing d :: after) =
      before ++
        ((action.onFound m (isReferenced (before ++ .importing d :: after)) d).map .importing ++
          after) := by
  cases action with
  | ensure names => exact ensure_items_of_found (r := ⟨names, m⟩) hf after _
  | apply names => rw [onFound_apply]; exact ensure_items_of_found (r := ⟨names, m⟩) hf after _
  | remove names =>
    simp only [Action.run, remove, find?_cut hf, replaceFirst_cut hf, Action.onFound]
    split <;> rfl
  | removeDeclaration => exact replaceFirst_cut hf _ after
  | prune =>
    simp only [Action.run, prune, find?_cut hf, replaceFirst_cut hf, Action.onFound]
    split <;> rfl
  | clear => exact replaceFirst_cut hf _ after

/-! ## What can become of a declaration -/

/-- What an action for the module `m` can put in the place of a declaration. -/
inductive Replacement (m : String) (d : ImportDecl) : List ImportDecl → Prop
  | same : Replacement m d [d]
  | extend (names : List String) (ha : acceptsNames d = true) : Replacement m d [append names d]
  | precede (names : List String) (ha : acceptsNames d = false) :
      Replacement m d [declarationOf m names, d]
  | thin (test : NamedSpecifier → Bool) : Replacement m d [keepNamed test d]
  | clear : Replacement m d [{ d with specifiers := [] }]
  | delete : Replacement m d []

theorem onFound_replacement (m : String) (used : String → Bool) (d : ImportDecl) (action : Action) :
    Replacement m d (action.onFound m used d) := by
  have hensure : ∀ names, Replacement m d ((Action.ensure names).onFound m used d) := by
    intro names
    rw [Action.onFound]
    split
    · exact .same
    · cases ha : acceptsNames d with
      | true => exact .extend _ ha
      | false => exact .precede _ ha
  cases action with
  | ensure names => exact hensure names
  | apply names => exact hensure names
  | remove names =>
    simp only [Action.onFound]
    split
    · exact .delete
    · exact .thin _
  | removeDeclaration => exact .delete
  | prune =>
    simp only [Action.onFound]
    split
    · exact .delete
    · exact .thin _
  | clear => exact .clear

/-- Replacements are declarations of the module. -/
theorem Replacement.module_eq {m : String} {d : ImportDecl} {new : List ImportDecl}
    (h : Replacement m d new) (hd : d.module = m) : ∀ e ∈ new, e.module = m := by
  cases h with
  | same => simpa using hd
  | extend names => simpa using hd
  | precede names => simpa using hd
  | thin test => simpa using hd
  | clear => exact List.forall_mem_singleton.2 hd
  | delete => simp

/-! ## Steps -/

/-- What an action for the module `m` does to a body. -/
inductive Step (m : String) : List Item → List Item → Prop
  | idle {items : List Item} (habs : Absent m items) : Step m items items
  | fresh {before after : List Item} (names : List String) (habs : Absent m (before ++ after))
      (hb : BehindImports before after) :
      Step m (before ++ after) (before ++ .importing (declarationOf m names) :: after)
  | found {before after : List Item} {d : ImportDecl} {new : List ImportDecl}
      (hf : First m before d) (hr : Replacement m d new) :
      Step m (before ++ .importing d :: after) (before ++ (new.map .importing ++ after))

theorem action_step (m : String) (action : Action) (items : List Item) :
    Step m items (action.run m items) := by
  rcases place m items with habs | ⟨before, d, after, rfl, hf⟩
  · rw [run_of_absent habs]
    split
    · exact .idle habs
    · obtain ⟨before, after, rfl, hb, he⟩ := insertLast_cut items
      rw [he]
      exact .fresh _ habs hb
  · rw [run_of_found hf]
    exact .found hf (onFound_replacement m _ d action)

@[simp] theorem declarations_map_importing (ds : List ImportDecl) :
    declarations (ds.map .importing) = ds := by
  induction ds with
  | nil => rfl
  | cons d ds ih => rw [List.map_cons, declarations_importing, ih]

/-- What new declarations have and replacements keep, a step keeps of all declarations. -/
theorem Step.forall_declarations {P : ImportDecl → Prop} {m : String} {items items' : List Item}
    (hnew : ∀ names, P (declarationOf m names))
    (hkeep : ∀ d new, Replacement m d new → P d → ∀ e ∈ new, P e)
    (h : Step m items items') (hall : ∀ d ∈ declarations items, P d) :
    ∀ d ∈ declarations items', P d := by
  cases h with
  | idle => exact hall
  | fresh names =>
    simp only [declarations_append, declarations_importing, List.forall_mem_append,
      List.forall_mem_cons] at hall ⊢
    exact ⟨hall.1, hnew names, hall.2⟩
  | found hf hr =>
    simp only [declarations_append, declarations_importing, declarations_map_importing,
      List.forall_mem_append, List.forall_mem_cons] at hall ⊢
    exact ⟨hall.1, hkeep _ _ hr hall.2.1, hall.2.2⟩

theorem run_forall_declarations {P : ImportDecl → Prop}
    (hnew : ∀ m names, P (declarationOf m names))
    (hkeep : ∀ m d new, Replacement m d new → P d → ∀ e ∈ new, P e) (edits : List Edit)
    (items : List Item) (hall : ∀ d ∈ declarations items, P d) :
    ∀ d ∈ declarations (run edits items), P d :=
  run_induction (P := fun body => ∀ d ∈ declarations body, P d)
    (fun m action body => (action_step m action body).forall_declarations (hnew m) (hkeep m))
    edits items hall

/-! ## What no action reads -/

/-- The change of items by `f`, which is `g` on declarations, is in parts that no action reads: code
keeps its identifiers, new declarations have no such parts, and what an action puts in the place of
a declaration is changed as the declaration is. -/
structure Unread (f : Item → Item) (g : ImportDecl → ImportDecl) : Prop where
  importing : ∀ d, f (.importing d) = .importing (g d)
  code : ∀ node, ∃ node', f (.code node) = .code node' ∧ node'.identifiers = node.identifiers
  module_eq : ∀ d, (g d).module = d.module
  new : ∀ m names, g (declarationOf m names) = declarationOf m names
  found : ∀ m used d (action : Action),
    action.onFound m used (g d) = (action.onFound m used d).map g

namespace Unread

variable {f : Item → Item} {g : ImportDecl → ImportDecl} (h : Unread f g)
include h

theorem imports_eq (m : String) (item : Item) : imports m (f item) = imports m item := by
  cases item with
  | importing d => rw [h.importing, imports_importing, imports_importing, h.module_eq]
  | code node =>
    obtain ⟨node', he, -⟩ := h.code node
    rw [he, imports_code, imports_code]

theorem isImport_eq (item : Item) : (f item).isImport = item.isImport := by
  cases item with
  | importing d => rw [h.importing]; rfl
  | code node =>
    obtain ⟨node', he, -⟩ := h.code node
    rw [he]; rfl

theorem absent {m : String} {items : List Item} (habs : Absent m items) :
    Absent m (items.map f) := by
  intro item hitem
  obtain ⟨i, hi, rfl⟩ := List.mem_map.1 hitem
  rw [h.imports_eq]
  exact habs i hi

theorem isReferenced_eq (items : List Item) : isReferenced (items.map f) = isReferenced items := by
  funext name
  rw [isReferenced, isReferenced, List.any_map]
  congr 1
  funext item
  cases item with
  | importing d => rw [Function.comp_apply, h.importing]
  | code node =>
    obtain ⟨node', he, hids⟩ := h.code node
    rw [Function.comp_apply, he]
    exact congrArg (·.contains name) hids

theorem map_insertLast (decl : ImportDecl) (items : List Item) :
    (insertLast decl items).map f = insertLast (g decl) (items.map f) := by
  induction items with
  | nil => exact congrArg (fun item => [item]) (h.importing decl)
  | cons item rest ih =>
    have hany : (f item :: rest.map f).any Item.isImport = (item :: rest).any Item.isImport := by
      rw [← List.map_cons, List.any_map]
      exact congrArg (fun p => (item :: rest).any p) (funext h.isImport_eq)
    rw [List.map_cons, insertLast, insertLast, hany]
    split
    · rw [List.map_cons, ih]
    · rw [List.map_cons, List.map_cons, h.importing]

theorem map_importing (ds : List ImportDecl) :
    (ds.map Item.importing).map f = (ds.map g).map .importing := by
  rw [List.map_map, List.map_map]
  exact List.map_congr_left fun d _ => h.importing d

theorem action (m : String) (action : Action) (items : List Item) :
    (action.run m items).map f = action.run m (items.map f) := by
  rcases place m items with habs | ⟨before, d, after, rfl, hf⟩
  · rw [run_of_absent habs, run_of_absent (h.absent habs)]
    split
    · rfl
    · rw [h.map_insertLast, h.new]
  · have hf' : First m (before.map f) (g d) :=
      ⟨h.absent hf.absent, (h.module_eq d).trans hf.module_eq⟩
    have hcut : (before ++ .importing d :: after).map f =
        before.map f ++ .importing (g d) :: after.map f := by
      rw [List.map_append, List.map_cons, h.importing]
    rw [hcut, run_of_found hf', ← hcut, h.isReferenced_eq, h.found, run_of_found hf,
      List.map_append, List.map_append, h.map_importing]

end Unread

theorem applyAll_natural {f : List Item → List Item}
    (h : ∀ r items, f (ensure r items).items = (ensure r (f items)).items) :
    ∀ (requests : List Request) (items : List Item),
      f (applyAll requests items).1 = (applyAll requests (f items)).1
  | [], _ => rfl
  | r :: requests, items =>
    (applyAll_natural h requests (ensure r items).items).trans
      (congrArg (fun body => (applyAll requests body).1) (h r items))

/-- What passes through every action passes through every run. -/
theorem run_natural {f : List Item → List Item}
    (h : ∀ m (action : Action) items, f (action.run m items) = action.run m (f items)) :
    ∀ (edits : List Edit) (items : List Item), f (run edits items) = run edits (f items)
  | [], _ => rfl
  | .single m action :: edits, items =>
    (run_natural h edits (action.run m items)).trans (congrArg (run edits) (h m action items))
  | .applyAll requests :: edits, items =>
    (run_natural h edits (applyAll requests items).1).trans
      (congrArg (run edits)
        (applyAll_natural (fun r body => h r.module (.ensure r.names) body) requests items))

theorem Unread.run {f : Item → Item} {g : ImportDecl → ImportDecl} (h : Unread f g)
    (edits : List Edit) (items : List Item) :
    (Imports.run edits items).map f = Imports.run edits (items.map f) :=
  run_natural (f := List.map f) h.action edits items

end Codemod.Imports
