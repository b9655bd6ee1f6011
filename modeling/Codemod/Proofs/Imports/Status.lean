import Codemod.Proofs.Imports.Numbering

/-!
# Types stay types

A specifier binds for types only when its declaration does or when it has a `type` of its own
(`Binding.forTypes`). `ensure` takes the `type` off a declaration to make room for values, and gives
one to each of its names instead; a declaration whose bindings cannot carry one is left as it is. So
no binding ever changes sides, whichever edits meet.

Results:
* `bindingsOf_append`: a declaration that takes names keeps its bindings as they are.
* `Replacement.old_sublist`, `Step.old_sublist`: an action keeps or drops the bindings of the source
  text, and changes none.
* `run_old_sublist`: so does a run.
* `run_made`: what a run makes binds values.
* `run_status`: both, for the specifiers of any body, told apart by their numbers.
-/
namespace Codemod

/-- Does the specifier have a `type` of its own? -/
def ImportSpecifier.ownType : ImportSpecifier → Bool
  | .named s => s.typeOnly
  | _ => false

namespace Imports

/-! ## Bindings -/

/-- What a specifier binds, and whether for types only. -/
structure Binding where
  specifier : ImportSpecifier
  forTypes : Bool
deriving DecidableEq, Repr

def binding (d : ImportDecl) (s : ImportSpecifier) : Binding :=
  ⟨unmarked s, d.typeOnly || s.ownType⟩

def bindingsOf (d : ImportDecl) : List Binding := d.specifiers.map (binding d)

def bindings (items : List Item) : List Binding := (declarations items).flatMap bindingsOf

/-- Does the binding stand in the source text? Those that edits make have no span. -/
def Binding.isOld (b : Binding) : Bool := b.specifier.binding.span.isSome

def Binding.number (n : Nat) (b : Binding) : Binding :=
  { b with specifier := b.specifier.mark (numberSpan n) }

@[simp] theorem bindings_append (xs ys : List Item) :
    bindings (xs ++ ys) = bindings xs ++ bindings ys := by
  simp [bindings]

@[simp] theorem bindings_importing (d : ImportDecl) (items : List Item) :
    bindings (.importing d :: items) = bindingsOf d ++ bindings items := rfl

@[simp] theorem bindings_map_importing (ds : List ImportDecl) :
    bindings (ds.map .importing) = ds.flatMap bindingsOf := by
  rw [bindings, declarations_map_importing]

/-! ## New names -/

def newBinding (name : String) : Binding := ⟨specifierOf name, false⟩

theorem bindingsOf_declarationOf (m : String) (names : List String) :
    bindingsOf (declarationOf m names) = names.map newBinding := by
  rw [bindingsOf, declarationOf, List.map_map]
  rfl

/-- Where names may join, `type` can be moved from the declaration onto its specifiers. -/
theorem bindingsOf_spreadType {d : ImportDecl} (ha : acceptsNames d = true) :
    bindingsOf (spreadType d) = bindingsOf d := by
  unfold spreadType
  split
  · rename_i ht
    obtain ⟨hstar, hdefault⟩ := (acceptsNames_iff d).1 ha
    rw [bindingsOf, List.map_map, bindingsOf]
    refine List.map_congr_left fun s hs => ?_
    -- beside `type` only names leave room for names, and each of them can carry its own `type`
    cases s with
    | named n => simp [binding, markType, unmarked, ImportSpecifier.ownType, ht]
    | default b => exact absurd hs (hdefault ht b)
    | star b => exact absurd hs (hstar b)
  · rfl

theorem bindingsOf_append {d : ImportDecl} (names : List String) (ha : acceptsNames d = true) :
    bindingsOf (append names d) = bindingsOf d ++ names.map newBinding := by
  have hnew : (names.map specifierOf).map (binding (append names d)) = names.map newBinding := by
    rw [List.map_map]
    refine List.map_congr_left fun name _ => ?_
    simp [binding, specifierOf, newBinding, unmarked, ImportSpecifier.ownType]
  have hold : (spreadType d).specifiers.map (binding (append names d)) =
      bindingsOf (spreadType d) := rfl
  rw [bindingsOf, append, List.map_append]
  exact congr (congrArg _ (hold.trans (bindingsOf_spreadType ha))) hnew

theorem bindingsOf_sublist {d : ImportDecl} {specifiers : List ImportSpecifier}
    (hs : specifiers.Sublist d.specifiers) :
    (bindingsOf { d with specifiers := specifiers }).Sublist (bindingsOf d) := hs.map _

/-! ## What was there -/

/-- The bindings of a body that stand in the source text. -/
def old (items : List Item) : List Binding := (bindings items).filter Binding.isOld

theorem filter_isOld_newBinding (names : List String) :
    (names.map newBinding).filter Binding.isOld = [] := by
  simp [newBinding, Binding.isOld, specifierOf, ImportSpecifier.binding]

theorem Replacement.old_sublist {m : String} {d : ImportDecl} {new : List ImportDecl}
    (h : Replacement m d new) :
    ((new.flatMap bindingsOf).filter Binding.isOld).Sublist
      ((bindingsOf d).filter Binding.isOld) := by
  cases h with
  | same =>
    simp only [List.flatMap_singleton]
    exact .refl _
  | extend names ha =>
    simp only [List.flatMap_singleton, bindingsOf_append names ha, List.filter_append,
      filter_isOld_newBinding, List.append_nil]
    exact .refl _
  | precede names =>
    simp only [List.flatMap_cons, List.flatMap_nil, bindingsOf_declarationOf, List.filter_append,
      filter_isOld_newBinding, List.nil_append, List.append_nil]
    exact .refl _
  | thin test =>
    rw [List.flatMap_singleton]
    exact (bindingsOf_sublist List.filter_sublist).filter _
  | clear => exact List.nil_sublist _
  | delete => exact List.nil_sublist _

theorem Step.old_sublist {m : String} {items items' : List Item} (h : Step m items items') :
    (old items').Sublist (old items) := by
  cases h with
  | idle => exact List.Sublist.refl _
  | fresh names =>
    simp only [old, bindings_append, bindings_importing, bindingsOf_declarationOf,
      List.filter_append, filter_isOld_newBinding, List.nil_append]
    exact List.Sublist.refl _
  | found hf hr =>
    simp only [old, bindings_append, bindings_importing, bindings_map_importing,
      List.filter_append]
    exact (List.Sublist.refl _).append (hr.old_sublist.append (List.Sublist.refl _))

theorem run_old_sublist (edits : List Edit) (items : List Item) :
    (old (run edits items)).Sublist (old items) :=
  run_induction (P := fun body => (old body).Sublist (old items))
    (fun m action body h => (action_step m action body).old_sublist.trans h) edits items
    (List.Sublist.refl _)

/-! ## What is made -/

/-- The bindings of the declaration that no source text has are for values. -/
def MadeForValues (d : ImportDecl) : Prop :=
  ∀ b ∈ bindingsOf d, b.isOld = false → b.forTypes = false

theorem newBinding_forTypes {names : List String} {b : Binding} (h : b ∈ names.map newBinding) :
    b.forTypes = false := by
  obtain ⟨name, -, rfl⟩ := List.mem_map.1 h
  rfl

theorem madeForValues_declarationOf (m : String) (names : List String) :
    MadeForValues (declarationOf m names) := by
  intro b hb _
  rw [bindingsOf_declarationOf] at hb
  exact newBinding_forTypes hb

theorem Replacement.madeForValues {m : String} {d : ImportDecl} {new : List ImportDecl}
    (h : Replacement m d new) (hd : MadeForValues d) : ∀ e ∈ new, MadeForValues e := by
  cases h with
  | same => exact List.forall_mem_singleton.2 hd
  | extend names ha =>
    refine List.forall_mem_singleton.2 fun b hb ho => ?_
    rw [bindingsOf_append names ha] at hb
    rcases List.mem_append.1 hb with hb | hb
    · exact hd b hb ho
    · exact newBinding_forTypes hb
  | precede names =>
    exact List.forall_mem_cons.2 ⟨madeForValues_declarationOf m names,
      List.forall_mem_singleton.2 hd⟩
  | thin test =>
    refine List.forall_mem_singleton.2 fun b hb ho => ?_
    exact hd b ((bindingsOf_sublist List.filter_sublist).subset hb) ho
  | clear => exact List.forall_mem_singleton.2 fun b hb => by cases hb
  | delete => exact List.forall_mem_nil _

theorem run_made (edits : List Edit) {items : List Item}
    (h : ∀ d ∈ declarations items, MadeForValues d) :
    ∀ b ∈ bindings (run edits items), b.isOld = false → b.forTypes = false := by
  have hall := run_forall_declarations madeForValues_declarationOf
    (fun _ _ _ hr hd => hr.madeForValues hd) edits items h
  intro b hb ho
  obtain ⟨d, hd, hbd⟩ := List.mem_flatMap.1 hb
  exact hall d hd b hbd ho

/-! ## Numbered bindings -/

theorem binding_mark (d : ImportDecl) (n : Nat) (s : ImportSpecifier) :
    binding d (s.mark (numberSpan n)) = (binding d s).number n := by
  cases s <;> rfl

theorem bindings_numberFrom (n : Nat) (items : List Item) :
    bindings (numberFrom n items) = ((bindings items).zipIdx n).map fun (b, i) => b.number i := by
  fun_induction numberFrom n items with
  | case1 => rfl
  | case2 n d rest ih =>
    rw [bindings_importing, ih, bindings_importing, List.zipIdx_append, List.map_append]
    congr 1
    · rw [bindingsOf, bindingsOf, List.zipIdx_map, List.map_map, List.map_map]
      exact List.map_congr_left fun _ _ => binding_mark d _ _
    · rw [bindingsOf, List.length_map]
  | case3 n node rest ih => exact ih

theorem isOld_number (n : Nat) (b : Binding) : (b.number n).isOld = true := by
  rw [Binding.isOld, Binding.number, ImportSpecifier.span_mark]
  rfl

theorem isOld_of_numbered {items : List Item} :
    ∀ b ∈ bindings (numbered items), b.isOld = true := by
  intro b hb
  rw [numbered, bindings_numberFrom] at hb
  obtain ⟨⟨c, i⟩, -, rfl⟩ := List.mem_map.1 hb
  exact isOld_number i c

/-- Number the bindings of a body and run: the run does what it does without numbers, the numbered
bindings that are left are among those of the start, in their order, each with the names it had and
for types just when it was, and bindings without a number are for values. -/
theorem run_status (edits : List Edit) (items : List Item) :
    (run edits (numbered items)).map forget = (run edits items).map forget ∧
      bindings (numbered items) = ((bindings items).zipIdx 0).map (fun (b, i) => b.number i) ∧
      ((bindings (run edits (numbered items))).filter Binding.isOld).Sublist
        (bindings (numbered items)) ∧
      ∀ b ∈ bindings (run edits (numbered items)), b.isOld = false → b.forTypes = false := by
  refine ⟨run_numbered edits items, bindings_numberFrom 0 items, ?_, run_made edits ?_⟩
  · -- all bindings of the numbered body count as those of a source text
    have hall : old (numbered items) = bindings (numbered items) :=
      List.filter_eq_self.2 isOld_of_numbered
    rw [← hall]
    exact run_old_sublist edits (numbered items)
  · intro d hd b hb ho
    rw [isOld_of_numbered b (List.mem_flatMap.2 ⟨d, hd, hb⟩)] at ho
    cases ho

/-- What stands beside a default binding for types stays there, and the new name goes in front. -/
example :
    bindings (run [.single "m" (.ensure ["B"])] (numbered [.importing mixedType])) =
      [newBinding "B", ⟨.default ⟨"D", numberSpan 0⟩, true⟩,
        ⟨.named ⟨none, none, ⟨"A", numberSpan 1⟩, false⟩, true⟩] := rfl

end Imports

end Codemod
