import Codemod.Proofs.Imports.Ensure

/-!
# Edits by position

A module's first declaration can be asked for in two ways: `find?` drops all code and searches what
is left, and `index?` gives a position among all items. The edits of this library search, and
rewrite the list where they find something. A body kept in an array is edited by positions instead:
`index?` says where, and reading, writing, inserting and deleting happen there, one after the other,
on a body that the access before may have changed.

The namespace `Positional` has the edits in that form. An access can go wrong there, when a position
is outside the body or when the item there is no import declaration, and then the whole edit is a
`Fault`. None ever is, and this rests on one fact: at a cut, the length of the part before the first
declaration is the position that `index?` gives, and every access keeps the body cut there.

Results:
* `index?_cut`, `index?_eq_none_iff`: where the first declaration stands.
* `find?_eq_some_iff`: what is found is what stands at that position.
* `getElem?_replaceFirst`: replacing the first declaration changes the item there and no other.
* `Positional.firstSlot_eq`, `Positional.clear_eq`, `Positional.ensure_eq`, `Positional.remove_eq`,
  `Positional.removeDeclaration_eq`, `Positional.prune_eq`: by positions no edit has a fault, and
  each does what the edit by searching does.
* `locators_agree`: all of this for one module and body.
-/
namespace Codemod.Imports

/-! ## Positions -/

/-- `d` stands at position `i` and is the first declaration of the module. -/
structure FirstAt (m : String) (items : List Item) (i : Nat) (d : ImportDecl) : Prop where
  inside : i < items.length
  item_eq : items[i] = .importing d
  module_eq : d.module = m
  earlier : ∀ (j : Nat) (hj : j < i) (e : ImportDecl), items[j] = .importing e → e.module ≠ m

theorem index?_eq_none_iff {m : String} {items : List Item} :
    index? m items = none ↔ Absent m items := List.findIdx?_eq_none_iff

theorem index?_cut {m : String} {before : List Item} {d : ImportDecl} (hf : First m before d)
    (after : List Item) : index? m (before ++ .importing d :: after) = some before.length := by
  have hbefore : before.findIdx? (imports m) = none := index?_eq_none_iff.2 hf.absent
  have hd : imports m (.importing d) = true := by
    rw [imports_importing, hf.module_eq, beq_self_eq_true]
  rw [index?, List.findIdx?_append, hbefore, List.findIdx?_cons, if_pos hd]
  simp

theorem firstAt_cut {m : String} {before : List Item} {d : ImportDecl} (hf : First m before d)
    (after : List Item) : FirstAt m (before ++ .importing d :: after) before.length d where
  inside := by simp
  item_eq := by simp
  module_eq := hf.module_eq
  earlier j hj e he := by
    rw [List.getElem_append_left hj] at he
    have habs := hf.absent _ (List.getElem_mem hj)
    rw [he, imports_importing, beq_eq_false_iff_ne] at habs
    exact habs

theorem find?_eq_none_iff {m : String} {items : List Item} :
    find? m items = none ↔ Absent m items :=
  ⟨absent_of_find?_eq_none, find?_of_absent⟩

/-- What is found is what stands at the position. -/
theorem find?_eq_some_iff {m : String} {items : List Item} {d : ImportDecl} :
    find? m items = some d ↔ ∃ i, index? m items = some i ∧ FirstAt m items i d := by
  rcases place m items with habs | ⟨before, e, after, rfl, hf⟩
  · rw [find?_eq_none_iff.2 habs, index?_eq_none_iff.2 habs]
    simp
  · have hat := firstAt_cut hf after
    rw [find?_cut hf, index?_cut hf]
    constructor
    · intro h
      obtain rfl := Option.some.inj h
      exact ⟨before.length, rfl, hat⟩
    · rintro ⟨i, hi, hd⟩
      obtain rfl := Option.some.inj hi
      have heq := hat.item_eq.symm.trans hd.item_eq
      exact congrArg some (Item.importing.inj heq)

/-- Replacing the first declaration changes the item at its position and no other. -/
theorem getElem?_replaceFirst (m : String) (e : ImportDecl) (items : List Item) (j : Nat) :
    (replaceFirst m (fun _ => [.importing e]) items)[j]? =
      if index? m items = some j then some (.importing e) else items[j]? := by
  rcases place m items with habs | ⟨before, d, after, rfl, hf⟩
  · rw [replaceFirst_of_absent _ habs, index?_eq_none_iff.2 habs, if_neg nofun]
  · have hset : before ++ ([.importing e] ++ after) =
        (before ++ .importing d :: after).set before.length (.importing e) := by simp
    have hlt : before.length < (before ++ .importing d :: after).length := by simp
    rw [replaceFirst_cut hf, index?_cut hf, hset, List.getElem?_set, if_pos hlt]
    simp only [Option.some.injEq]

namespace Positional

/-! ## Access -/

/-- What can go wrong at a position. -/
inductive Fault
  /-- The position is outside the body. -/
  | outside (index : Nat)
  /-- The item is not an import declaration. -/
  | notImport (index : Nat)
deriving DecidableEq, Repr

/-- A declaration in a body, and what the body becomes when another one is put in its place. -/
structure Slot where
  decl : ImportDecl
  put : ImportDecl → List Item

def slotAt (i : Nat) (items : List Item) : Except Fault Slot :=
  match items[i]? with
  | some (.importing d) => .ok ⟨d, fun e => items.set i (.importing e)⟩
  | _ => .error (.notImport i)

/-- Puts an item at a position, which may be the end. -/
def insertAt (i : Nat) (item : Item) (items : List Item) : Except Fault (List Item) :=
  if i ≤ items.length then .ok (items.insertIdx i item) else .error (.outside i)

def deleteAt (i : Nat) (items : List Item) : Except Fault (List Item) :=
  if i < items.length then .ok (items.eraseIdx i) else .error (.outside i)

/-- The position right after the last import declaration, or the front. -/
def behindImports (items : List Item) : Nat :=
  -- the number of items behind the last import declaration, if there is one
  match items.reverse.findIdx? Item.isImport with
  | some behind => items.length - behind
  | none => 0

/-! ## Edits -/

/-- The slot of a module's first declaration. -/
def firstSlot (module : String) (items : List Item) : Except Fault (Option Slot) :=
  match index? module items with
  | none => .ok none
  | some i => do
    let slot ← slotAt i items
    return some slot

/-- Takes all specifiers out of the first declaration of a module; their number, if it exists. -/
def clear (module : String) (items : List Item) : Except Fault (List Item × Option Nat) := do
  match ← firstSlot module items with
  | none => return (items, none)
  | some slot =>
    return (slot.put { slot.decl with specifiers := [] }, some slot.decl.specifiers.length)

/-- Puts a new declaration of names at a position; also the position and the number of names. -/
def insertDeclaration (i : Nat) (module : String) (names : List String) (items : List Item) :
    Except Fault (List Item × Option (Nat × Nat)) := do
  let decl := declarationOf module (missing [] names)
  let items ← insertAt i (.importing decl) items
  return (items, some (i, decl.specifiers.length))

/-- Makes names available from a module; also the position of the declaration that holds them, and
the number of names added. -/
def ensureAt (request : Request) (items : List Item) :
    Except Fault (List Item × Option (Nat × Nat)) :=
  match index? request.module items with
  | none =>
    if request.names.isEmpty then .ok (items, none)
    else insertDeclaration (behindImports items) request.module request.names items
  | some i => do
    let slot ← slotAt i items
    let names := missing slot.decl.names request.names
    if names.isEmpty then return (items, some (i, 0))
    else if acceptsNames slot.decl then
      return (slot.put (append names slot.decl), some (i, names.length))
    else insertDeclaration i request.module names items

/-- Makes names available from a module. The declaration that holds them is read at its position
when the names are there. -/
def ensure (request : Request) (items : List Item) : Except Fault Ensured := do
  match ← ensureAt request items with
  | (items, none) => return ⟨items, none, 0⟩
  | (items, some (i, added)) =>
    let slot ← slotAt i items
    return ⟨items, some slot.decl, added⟩

/-- Keeps the named specifiers that pass the test in the declaration at a position; also how many
have gone. -/
def keepAt (i : Nat) (test : NamedSpecifier → Bool) (items : List Item) :
    Except Fault (List Item × Nat) := do
  let slot ← slotAt i items
  let left := keepNamed test slot.decl
  return (slot.put left, dropped slot.decl left)

def deleteDeclarationAt (i : Nat) (items : List Item) : Except Fault (List Item) := do
  let _ ← slotAt i items
  deleteAt i items

/-- Takes names of a module out. The declaration is read again to see if a named specifier is left,
and deleted at the position if not. -/
def remove (module : String) (names : List String) (items : List Item) :
    Except Fault (List Item × Nat) :=
  match index? module items with
  | none => .ok (items, 0)
  | some i => do
    let (items, removed) ← keepAt i (fun s => !names.contains s.importedText) items
    let slot ← slotAt i items
    if slot.decl.named.isEmpty then
      let items ← deleteDeclarationAt i items
      return (items, removed)
    else return (items, removed)

/-- Takes the first declaration of a module out. -/
def removeDeclaration (module : String) (items : List Item) : Except Fault (List Item × Bool) :=
  match index? module items with
  | none => .ok (items, false)
  | some i => do
    let items ← deleteDeclarationAt i items
    return (items, true)

/-- Takes out the names of a module that nothing refers to. Whether the declaration is empty then is
asked of the one that is found, and the one at the position is deleted. -/
def prune (module : String) (items : List Item) : Except Fault (List Item × Nat) :=
  match index? module items with
  | none => .ok (items, 0)
  | some i => do
    let (kept, removed) ← keepAt i (fun s => isReferenced items s.binding.text) items
    let emptied := (find? module kept).any (·.specifiers.isEmpty)
    if removed > 0 && emptied then
      let kept ← deleteDeclarationAt i kept
      return (kept, removed)
    else return (kept, removed)

/-! ## Access at a cut -/

theorem ok_bind {α β : Type} (a : α) (next : α → Except Fault β) :
    (Except.ok a >>= next) = next a := rfl

theorem slotAt_cut (before after : List Item) (d : ImportDecl) :
    slotAt before.length (before ++ .importing d :: after) =
      .ok ⟨d, fun e => before ++ .importing e :: after⟩ := by
  simp [slotAt]

theorem insertIdx_cut (before after : List Item) (item : Item) :
    (before ++ after).insertIdx before.length item = before ++ item :: after := by
  induction before with
  | nil => rfl
  | cons x xs ih => exact congrArg (x :: ·) ih

theorem insertAt_cut (before after : List Item) (item : Item) :
    insertAt before.length item (before ++ after) = .ok (before ++ item :: after) := by
  rw [insertAt, if_pos (by simp), insertIdx_cut]

theorem deleteAt_cut (before after : List Item) (item : Item) :
    deleteAt before.length (before ++ item :: after) = .ok (before ++ after) := by
  have herase : (before ++ item :: after).eraseIdx before.length = before ++ after := by
    simp [List.eraseIdx_append_of_length_le]
  rw [deleteAt, if_pos (by simp), herase]

theorem deleteDeclarationAt_cut (before after : List Item) (d : ImportDecl) :
    deleteDeclarationAt before.length (before ++ .importing d :: after) =
      .ok (before ++ after) := by
  rw [deleteDeclarationAt, slotAt_cut, ok_bind, deleteAt_cut]

theorem behindImports_cut {before after : List Item} (h : BehindImports before after) :
    behindImports (before ++ after) = before.length := by
  have hafter : after.reverse.findIdx? Item.isImport = none := by
    rw [List.findIdx?_eq_none_iff]
    exact fun item hitem => h.noneAfter item (List.mem_reverse.1 hitem)
  rw [behindImports, List.reverse_append, List.findIdx?_append, hafter]
  rcases h.ends with rfl | ⟨init, d, hbefore⟩
  · rfl
  · have hlast : before.reverse.findIdx? Item.isImport = some 0 := by
      rw [hbefore, List.reverse_concat, List.findIdx?_cons]
      rfl
    have hlength : (before ++ after).length - after.length = before.length := by
      rw [List.length_append, Nat.add_sub_cancel]
    rw [hlast, Option.none_or, Option.map_some, Nat.zero_add, List.length_reverse]
    exact hlength

theorem keepAt_cut (before after : List Item) (d : ImportDecl) (test : NamedSpecifier → Bool) :
    keepAt before.length test (before ++ .importing d :: after) =
      .ok (before ++ .importing (keepNamed test d) :: after, dropped d (keepNamed test d)) := by
  rw [keepAt, slotAt_cut]
  rfl

theorem insertDeclaration_cut (before after : List Item) (m : String) (names : List String) :
    insertDeclaration before.length m names (before ++ after) =
      .ok (before ++ .importing (declarationOf m (missing [] names)) :: after,
        some (before.length, (missing [] names).length)) := by
  have hlength : (declarationOf m (missing [] names)).specifiers.length =
      (missing [] names).length := List.length_map ..
  rw [insertDeclaration, insertAt_cut, hlength]
  rfl

/-! ## Edits by position and by search -/

theorem firstSlot_eq (m : String) (items : List Item) :
    firstSlot m items =
      .ok ((find? m items).map fun d =>
        ⟨d, fun e => replaceFirst m (fun _ => [.importing e]) items⟩) := by
  rcases place m items with habs | ⟨before, d, after, rfl, hf⟩
  · rw [firstSlot, index?_eq_none_iff.2 habs, find?_of_absent habs]
    rfl
  · simp only [firstSlot, index?_cut hf, find?_cut hf, slotAt_cut, replaceFirst_cut hf]
    rfl

theorem clear_eq (m : String) (items : List Item) :
    clear m items = .ok (Imports.clear m items) := by
  rw [clear, firstSlot_eq, Imports.clear]
  rcases place m items with habs | ⟨before, d, after, rfl, hf⟩
  · rw [find?_of_absent habs, replaceFirst_of_absent _ habs]
    rfl
  · rw [find?_cut hf, replaceFirst_cut hf]
    exact congrArg (fun body => Except.ok (body, _)) (replaceFirst_cut hf _ after)

/-- The declaration that is read at the end is the one at the position that comes with the body. -/
theorem ensure_of_ensureAt {r : Request} {items before after : List Item} {d : ImportDecl}
    {added : Nat}
    (h : ensureAt r items = .ok (before ++ .importing d :: after, some (before.length, added))) :
    ensure r items = .ok ⟨before ++ .importing d :: after, some d, added⟩ := by
  simp only [ensure, h, ok_bind, slotAt_cut]
  rfl

theorem ensureAt_fresh {r : Request} {before after : List Item}
    (habs : Absent r.module (before ++ after)) (hb : BehindImports before after)
    (hn : r.names ≠ []) :
    ensureAt r (before ++ after) =
      .ok (before ++ .importing (declarationOf r.module (missing [] r.names)) :: after,
        some (before.length, (missing [] r.names).length)) := by
  have hnames : ¬ r.names.isEmpty = true := by simpa using hn
  simp only [ensureAt, index?_eq_none_iff.2 habs, if_neg hnames, behindImports_cut hb,
    insertDeclaration_cut]

theorem ensureAt_cut {r : Request} {before : List Item} {d : ImportDecl}
    (hf : First r.module before d) (after : List Item) :
    ensureAt r (before ++ .importing d :: after) =
      if missing d.names r.names = [] then
        .ok (before ++ .importing d :: after, some (before.length, 0))
      else if acceptsNames d then
        .ok (before ++ .importing (append (missing d.names r.names) d) :: after,
          some (before.length, (missing d.names r.names).length))
      else
        .ok (before ++ .importing (declarationOf r.module (missing d.names r.names)) ::
            .importing d :: after,
          some (before.length, (missing d.names r.names).length)) := by
  have hnew := insertDeclaration_cut before (.importing d :: after) r.module
    (missing d.names r.names)
  rw [missing_missing (by simp)] at hnew
  simp only [ensureAt, index?_cut hf, slotAt_cut, ← hnew, ← List.isEmpty_iff]
  rfl

theorem ensure_eq (r : Request) (items : List Item) :
    ensure r items = .ok (Imports.ensure r items) := by
  rcases place r.module items with habs | ⟨before, d, after, rfl, hf⟩
  · by_cases hn : r.names = []
    · rw [ensure_unwanted habs hn, ensure, ensureAt, index?_eq_none_iff.2 habs, hn]
      rfl
    · obtain ⟨before, after, rfl, hb, he⟩ := insertLast_cut items
      rw [ensure_fresh habs hn, he]
      exact ensure_of_ensureAt (ensureAt_fresh habs hb hn)
  · have hat := ensureAt_cut hf after
    by_cases hm : missing d.names r.names = []
    · rw [if_pos hm] at hat
      rw [ensure_present hf after (missing_eq_nil_iff.1 hm), ensure_of_ensureAt hat]
    · rw [if_neg hm] at hat
      cases ha : acceptsNames d with
      | true =>
        rw [if_pos ha] at hat
        rw [ensure_extend hf after hm ha, ensure_of_ensureAt hat]
      | false =>
        rw [if_neg (by simp [ha])] at hat
        rw [ensure_precede hf after hm ha, ensure_of_ensureAt hat]

theorem remove_eq (m : String) (names : List String) (items : List Item) :
    remove m names items = .ok (Imports.remove m names items) := by
  rcases place m items with habs | ⟨before, d, after, rfl, hf⟩
  · rw [remove, index?_eq_none_iff.2 habs, Imports.remove, find?_of_absent habs]
  · simp only [remove, Imports.remove, index?_cut hf, find?_cut hf, replaceFirst_cut hf, keepAt_cut,
      slotAt_cut, deleteDeclarationAt_cut, ok_bind]
    split <;> rfl

theorem removeDeclaration_eq (m : String) (items : List Item) :
    removeDeclaration m items = .ok (Imports.removeDeclaration m items) := by
  rw [removeDeclaration, Imports.removeDeclaration]
  rcases place m items with habs | ⟨before, d, after, rfl, hf⟩
  · rw [index?_eq_none_iff.2 habs, find?_of_absent habs, replaceFirst_of_absent _ habs]
    rfl
  · simp only [index?_cut hf, find?_cut hf, replaceFirst_cut hf, deleteDeclarationAt_cut]
    rfl

theorem prune_eq (m : String) (items : List Item) :
    prune m items = .ok (Imports.prune m items) := by
  rcases place m items with habs | ⟨before, d, after, rfl, hf⟩
  · rw [prune, index?_eq_none_iff.2 habs, Imports.prune, find?_of_absent habs]
  · -- the declaration that is left is still the first one of the module
    have hleft : ∀ test, First m before (keepNamed test d) :=
      fun test => ⟨hf.absent, hf.module_eq⟩
    simp only [prune, Imports.prune, index?_cut hf, find?_cut hf, replaceFirst_cut hf, keepAt_cut,
      find?_cut (hleft _), Option.any_some, deleteDeclarationAt_cut, ok_bind]
    split <;> rfl

end Positional

/-! ## Both ways agree -/

/-- A declaration is found exactly when it stands at the position, as the first one of its module,
and none is found exactly when there is no position. The slot at the position is the declaration
found, and putting another one there changes that item and no other. So every edit by positions
stays inside the body, meets an import declaration wherever it reads or writes one, and does what
the edit by searching does. -/
theorem locators_agree (m : String) (items : List Item) :
    (∀ d, find? m items = some d ↔ ∃ i, index? m items = some i ∧ FirstAt m items i d) ∧
      (find? m items = none ↔ index? m items = none) ∧
      Positional.firstSlot m items =
        .ok ((find? m items).map fun d =>
          ⟨d, fun e => replaceFirst m (fun _ => [.importing e]) items⟩) ∧
      (∀ e j, (replaceFirst m (fun _ => [.importing e]) items)[j]? =
        if index? m items = some j then some (.importing e) else items[j]?) ∧
      Positional.clear m items = .ok (clear m items) ∧
      (∀ names, Positional.ensure ⟨names, m⟩ items = .ok (ensure ⟨names, m⟩ items)) ∧
      (∀ names, Positional.remove m names items = .ok (remove m names items)) ∧
      Positional.removeDeclaration m items = .ok (removeDeclaration m items) ∧
      Positional.prune m items = .ok (prune m items) := by
  refine ⟨fun d => find?_eq_some_iff, ?_, Positional.firstSlot_eq m items, ?_,
    Positional.clear_eq m items, ?_, ?_, Positional.removeDeclaration_eq m items,
    Positional.prune_eq m items⟩
  · rw [find?_eq_none_iff, index?_eq_none_iff]
  · exact fun e j => getElem?_replaceFirst m e items j
  · exact fun names => Positional.ensure_eq ⟨names, m⟩ items
  · exact fun names => Positional.remove_eq m names items

end Codemod.Imports
