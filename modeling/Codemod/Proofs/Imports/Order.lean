import Codemod.Proofs.Imports.Numbering

/-!
# Imports in front

A new declaration goes behind the last import, or right in front of a declaration of its module, and
all else that an edit does is done to a declaration in its place. So imports that stand in front of
the code stay there, and wherever imports stand, what is left of a body is in the order it was in.

Two items may look the same, and a declaration changes while it stays. To say which item is which
after a run, the items are labelled at the start (`labelled`): a declaration with a number for its
span, and code with a node around it that has the number. No edit reads the one or the other, and
what an edit makes has no span.

Results:
* `importsFirst_behind`, `ImportsFirst.before`: bodies with the imports in front, cut at an import.
* `Step.importsFirst`: an action keeps the imports in front.
* `unread_unlabel`, `unread_unplace`: labels change nothing that an action does.
* `Step.labels_sublist`: an action drops labels, and neither moves nor makes any.
* `Step.label_mem`: an item with a label was there, or is a declaration in the place of one.
* `run_keeps_order`: all of this for runs, and where a new declaration stands.
-/
namespace Codemod.Imports

/-! ## Imports in front of code -/

/-- No import declaration comes after another item. -/
def ImportsFirst (items : List Item) : Prop :=
  items.Pairwise fun x y => y.isImport = true → x.isImport = true

theorem importsFirst_behind {before : List Item} (h : ∀ item ∈ before, item.isImport = true)
    (after : List Item) : ImportsFirst (before ++ after) ↔ ImportsFirst after := by
  rw [ImportsFirst, List.pairwise_append]
  constructor
  · exact fun ⟨_, hafter, _⟩ => hafter
  · intro hafter
    exact ⟨List.pairwise_of_forall_mem_list fun x hx y _ _ => h x hx, hafter,
      fun x hx y _ _ => h x hx⟩

/-- What stands in front of an import is an import. -/
theorem ImportsFirst.before {before after : List Item} {d : ImportDecl}
    (h : ImportsFirst (before ++ .importing d :: after)) :
    ∀ item ∈ before, item.isImport = true := by
  intro item hitem
  exact (List.pairwise_append.1 h).2.2 item hitem _ List.mem_cons_self rfl

theorem isImport_map_importing (ds : List ImportDecl) :
    ∀ item ∈ ds.map Item.importing, item.isImport = true := by
  intro item hitem
  obtain ⟨d, -, rfl⟩ := List.mem_map.1 hitem
  rfl

/-- In front of the place behind the last import all items are imports. -/
theorem BehindImports.before {before after : List Item} (hb : BehindImports before after)
    (h : ImportsFirst (before ++ after)) : ∀ item ∈ before, item.isImport = true := by
  rcases hb.ends with rfl | ⟨init, d, rfl⟩
  · exact List.forall_mem_nil _
  · rw [List.append_assoc] at h
    rw [List.forall_mem_append]
    exact ⟨h.before, List.forall_mem_singleton.2 rfl⟩

theorem Step.importsFirst {m : String} {items items' : List Item} (h : Step m items items')
    (hi : ImportsFirst items) : ImportsFirst items' := by
  cases h with
  | idle => exact hi
  | fresh names _ hb =>
    have hbefore := hb.before hi
    rw [importsFirst_behind hbefore] at hi ⊢
    exact (importsFirst_behind (isImport_map_importing [declarationOf m names]) _).2 hi
  | found hf hr =>
    have hbefore := hi.before
    rw [importsFirst_behind hbefore] at hi ⊢
    rw [importsFirst_behind (isImport_map_importing _)]
    exact (List.pairwise_cons.1 hi).2

/-! ## Labels -/

def label (n : Nat) : Item → Item
  | .importing d => .importing { d with span := numberSpan n }
  | .code node => .code (.terminated ⟨n, n⟩ node)

/-- The body with its items labelled by their positions. -/
def labelled (items : List Item) : List Item := items.zipIdx.map fun (item, n) => label n item

def label? : Item → Option Nat
  | .importing d => d.span.map (·.lo)
  | .code (.terminated sp _) => some sp.lo
  | .code _ => none

/-- The code in the node that bears its label. -/
def unwrap : Node → Node
  | .terminated _ node => node
  | node => node

def unlabel : Item → Item
  | .importing d => .importing { d with span := none }
  | .code node => .code (unwrap node)

/-- The item as it is without the span that a declaration has from its source text. -/
def unplace : Item → Item
  | .importing d => .importing { d with span := none }
  | .code node => .code node

theorem span_append (names : List String) (d : ImportDecl) : (append names d).span = d.span := by
  unfold append spreadType
  split <;> rfl

/-- An action does the same to a declaration without its span. -/
theorem onFound_unplace (m : String) (used : String → Bool) (d : ImportDecl) (action : Action) :
    action.onFound m used { d with span := none } =
      (action.onFound m used d).map fun e => { e with span := none } := by
  have happend : ∀ names, append names { d with span := none } =
      { append names d with span := none } := by
    intro names
    unfold append spreadType
    split <;> rfl
  have hensure : ∀ names, (Action.ensure names).onFound m used { d with span := none } =
      ((Action.ensure names).onFound m used d).map fun e => { e with span := none } := by
    intro names
    have hnames : ({ d with span := none } : ImportDecl).names = d.names := rfl
    have haccepts : acceptsNames { d with span := none } = acceptsNames d := rfl
    simp only [Action.onFound, hnames, haccepts, happend]
    split
    · rfl
    · split <;> rfl
  cases action with
  | ensure names => exact hensure names
  | apply names => rw [onFound_apply, onFound_apply]; exact hensure names
  | remove names =>
    simp only [Action.onFound, apply_ite (List.map _)]
    rfl
  | removeDeclaration => rfl
  | prune =>
    simp only [Action.onFound, apply_ite (List.map _)]
    rfl
  | clear => rfl

theorem identifiers_unwrap (node : Node) : (unwrap node).identifiers = node.identifiers := by
  unfold unwrap
  split
  · rename_i sp inner
    rw [Node.identifiers_eq (.terminated sp inner)]
    simp [Node.identifier?, Node.children]
  · rfl

theorem unread_unplace : Unread unplace fun d => { d with span := none } where
  importing _ := rfl
  code node := ⟨node, rfl, rfl⟩
  module_eq _ := rfl
  new _ _ := rfl
  found := onFound_unplace

theorem unread_unlabel : Unread unlabel fun d => { d with span := none } where
  importing _ := rfl
  code node := ⟨unwrap node, rfl, identifiers_unwrap node⟩
  module_eq _ := rfl
  new _ _ := rfl
  found := onFound_unplace

theorem map_unlabel_labelled (items : List Item) :
    (labelled items).map unlabel = items.map unplace := by
  have hlabel : ∀ (n : Nat) (item : Item), unlabel (label n item) = unplace item := by
    intro n item
    cases item <;> rfl
  calc (labelled items).map unlabel
    _ = items.zipIdx.map (unplace ∘ Prod.fst) := by
      rw [labelled, List.map_map]
      exact List.map_congr_left fun p _ => hlabel p.2 p.1
    _ = items.map unplace := by rw [← List.map_map, List.zipIdx_map_fst]

/-- A run does the same on a body and on the labelled body. -/
theorem run_labelled (edits : List Edit) (items : List Item) :
    (run edits (labelled items)).map unlabel = (run edits items).map unplace := by
  rw [unread_unlabel.run, unread_unplace.run, map_unlabel_labelled]

/-! ## What becomes of labels -/

def labels (items : List Item) : List Nat := items.filterMap label?

@[simp] theorem label?_label (n : Nat) (item : Item) : label? (label n item) = some n := by
  cases item <;> rfl

theorem labels_labelled (items : List Item) : labels (labelled items) = List.range items.length := by
  have hcomp : (label? ∘ fun p : Item × Nat => label p.2 p.1) = some ∘ Prod.snd := by
    funext p
    exact label?_label p.2 p.1
  rw [labels, labelled, List.filterMap_map, hcomp, List.filterMap_eq_map, List.zipIdx_map_snd,
    List.range_eq_range']

@[simp] theorem labels_append (xs ys : List Item) : labels (xs ++ ys) = labels xs ++ labels ys := by
  simp [labels]

theorem labels_importing (d : ImportDecl) (items : List Item) :
    labels (.importing d :: items) = (d.span.map (·.lo)).toList ++ labels items := by
  rw [labels, List.filterMap_cons, label?]
  cases d.span <;> rfl

/-- What stands in the place of a declaration has no span, or the span of the declaration. -/
theorem Replacement.span_eq {m : String} {d : ImportDecl} {new : List ImportDecl}
    (h : Replacement m d new) : ∀ e ∈ new, e.span = none ∨ e.span = d.span := by
  cases h with
  | same => exact List.forall_mem_singleton.2 (Or.inr rfl)
  | extend names => exact List.forall_mem_singleton.2 (Or.inr (span_append names d))
  | precede names =>
    exact List.forall_mem_cons.2 ⟨Or.inl rfl, List.forall_mem_singleton.2 (Or.inr rfl)⟩
  | thin test => exact List.forall_mem_singleton.2 (Or.inr rfl)
  | clear => exact List.forall_mem_singleton.2 (Or.inr rfl)
  | delete => exact List.forall_mem_nil _

/-- At most one of the declarations in the place of one has its label. -/
theorem Replacement.labels_sublist {m : String} {d : ImportDecl} {new : List ImportDecl}
    (h : Replacement m d new) :
    (labels (new.map .importing)).Sublist ((d.span.map (·.lo)).toList) := by
  have hone : ∀ e : ImportDecl, e.span = d.span →
      (labels ([e].map .importing)).Sublist ((d.span.map (·.lo)).toList) := by
    intro e he
    rw [List.map_singleton, labels_importing, he]
    exact (List.append_nil _).symm ▸ List.Sublist.refl _
  cases h with
  | same => exact hone d rfl
  | extend names => exact hone _ (span_append names d)
  | precede names => exact hone d rfl
  | thin test => exact hone _ rfl
  | clear => exact hone _ rfl
  | delete => exact List.nil_sublist _

theorem Step.labels_sublist {m : String} {items items' : List Item} (h : Step m items items') :
    (labels items').Sublist (labels items) := by
  cases h with
  | idle => exact List.Sublist.refl _
  | fresh names =>
    rw [labels_append, labels_append, labels_importing]
    exact List.Sublist.refl _
  | found hf hr =>
    rw [labels_append, labels_append, labels_append, labels_importing]
    exact (List.Sublist.refl _).append (hr.labels_sublist.append (List.Sublist.refl _))

/-- An item with a label was there before, or stands in the place of a declaration of the same
module with the same label. -/
theorem Step.label_mem {m : String} {items items' : List Item} (h : Step m items items')
    {item : Item} {n : Nat} (hitem : item ∈ items') (hn : label? item = some n) :
    item ∈ items ∨ ∃ d e, item = .importing e ∧ .importing d ∈ items ∧ e.module = d.module ∧
      label? (.importing d) = some n := by
  cases h with
  | idle => exact Or.inl hitem
  | fresh names =>
    rcases List.mem_append.1 hitem with hb | ha
    · exact Or.inl (List.mem_append_left _ hb)
    · rcases List.mem_cons.1 ha with rfl | ha
      · cases hn
      · exact Or.inl (List.mem_append_right _ ha)
  | found hf hr =>
    rcases List.mem_append.1 hitem with hb | ha
    · exact Or.inl (List.mem_append_left _ hb)
    · rcases List.mem_append.1 ha with hnew | ha
      · obtain ⟨e, he, rfl⟩ := List.mem_map.1 hnew
        rcases hr.span_eq e he with hspan | hspan
        · rw [label?, hspan] at hn
          cases hn
        · refine Or.inr ⟨_, e, rfl, List.mem_append_right _ List.mem_cons_self, ?_, ?_⟩
          · rw [hr.module_eq hf.module_eq e he, hf.module_eq]
          · rw [label?, ← hspan]
            exact hn
      · exact Or.inl (List.mem_append_right _ (List.mem_cons_of_mem _ ha))

/-- What is left of an item that was labelled `n`: its code as it was, or a declaration of its
module. -/
inductive Left (n : Nat) : Item → Item → Prop
  | code (node : Node) : Left n (.code node) (label n (.code node))
  | declaration {d e : ImportDecl} (hm : e.module = d.module) : Left n (.importing d) (.importing e)

/-- Every item of the second body that has a label is what is left of the item of the first body
that the label stands for. -/
def Traced (start items : List Item) : Prop :=
  ∀ item ∈ items, ∀ n, label? item = some n → ∃ s, start[n]? = some s ∧ Left n s item

theorem traced_labelled (items : List Item) : Traced items (labelled items) := by
  intro item hitem n hn
  obtain ⟨⟨s, i⟩, hmem, rfl⟩ := List.mem_map.1 hitem
  rw [label?_label] at hn
  obtain rfl : i = n := Option.some.inj hn
  refine ⟨s, List.mem_zipIdx_iff_getElem?.1 hmem, ?_⟩
  cases s with
  | importing d => exact .declaration rfl
  | code node => exact .code node

theorem Step.traced {m : String} {start items items' : List Item} (h : Step m items items')
    (ht : Traced start items) : Traced start items' := by
  intro item hitem n hn
  rcases h.label_mem hitem hn with hold | ⟨d, e, rfl, hd, hmodule, hlabel⟩
  · exact ht item hold n hn
  · obtain ⟨s, hs, hleft⟩ := ht _ hd n hlabel
    cases hleft with
    | declaration hm => exact ⟨_, hs, .declaration (hmodule.trans hm)⟩

/-! ## Runs -/

/-- Several requests are one action after the other. -/
theorem applyAll_eq_foldl (requests : List Request) (items : List Item) :
    (applyAll requests items).1 =
      requests.foldl (fun body r => (Action.apply r.names).run r.module body) items := by
  induction requests generalizing items with
  | nil => rfl
  | cons r requests ih => exact ih _

/-- An action that finds no declaration of its module does nothing, or puts a new one behind all
imports. -/
theorem run_of_not_found {m : String} {items : List Item} (h : find? m items = none)
    (action : Action) :
    action.run m items = items ∨ ∃ before after names, items = before ++ after ∧
      (∀ item ∈ after, item.isImport = false) ∧
      action.run m items = before ++ .importing (declarationOf m names) :: after := by
  rw [run_of_absent (absent_of_find?_eq_none h)]
  split
  · exact Or.inl rfl
  · obtain ⟨before, after, rfl, hb, he⟩ := insertLast_cut items
    exact Or.inr ⟨before, after, _, rfl, hb.noneAfter, he _⟩

/-- Runs keep imports in front of the code. On any body, with its items labelled, a run does what it
does without labels, the labels that are left are in the order of the items, and each is on what is
left of its item. Whenever an action, alone or for one of several requests, makes a declaration of a
module that has none, the declaration stands behind all imports. -/
theorem run_keeps_order (edits : List Edit) (items : List Item) :
    (ImportsFirst items → ImportsFirst (run edits items)) ∧
      (run edits (labelled items)).map unlabel = (run edits items).map unplace ∧
      labels (labelled items) = List.range items.length ∧
      (labels (run edits (labelled items))).Sublist (List.range items.length) ∧
      Traced items (run edits (labelled items)) ∧
      (∀ (m : String) (action : Action) (body : List Item), find? m body = none →
        action.run m body = body ∨ ∃ before after names, body = before ++ after ∧
          (∀ item ∈ after, item.isImport = false) ∧
          action.run m body = before ++ .importing (declarationOf m names) :: after) ∧
      ∀ requests body, (applyAll requests body).1 =
        requests.foldl (fun body r => (Action.apply r.names).run r.module body) body := by
  refine ⟨fun h => ?_, run_labelled edits items, labels_labelled items, ?_, ?_,
    fun m action body h => run_of_not_found h action, applyAll_eq_foldl⟩
  · exact run_induction (fun m action body => (action_step m action body).importsFirst) edits items h
  · rw [← labels_labelled items]
    exact run_induction (P := fun body => (labels body).Sublist (labels (labelled items)))
      (fun m action body h => (action_step m action body).labels_sublist.trans h) edits _
      (List.Sublist.refl _)
  · exact run_induction (P := Traced items) (fun m action body => (action_step m action body).traced)
      edits _ (traced_labelled items)

/-- Between two imports that stand apart, a declaration goes and another comes behind the last. -/
example :
    let body :=
      [.importing (declarationOf "m" ["a"]), .code .hole, .importing (declarationOf "n" ["b"])]
    (run [.single "m" .removeDeclaration, .single "k" (.ensure ["x"])] (labelled body)).map label? =
      [some 1, some 2, none] := rfl

end Codemod.Imports
