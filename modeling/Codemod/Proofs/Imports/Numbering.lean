import Codemod.Proofs.Imports.Actions

/-!
# Telling specifiers apart

Edits keep most specifiers of a body, drop some and make new ones, and two specifiers may look the
same. To say which of those after a run is which of those before it, they are numbered at the start
(`numbered`). The number takes the place of the span of the binding, which no edit reads, and which
an edit leaves out of what it makes: what has a number afterwards was there before.

Results:
* `onFound_forget`, `unread_forget`: an action does the same when spans are forgotten.
* `run_numbered`: a run does the same on a body and on the numbered body.
-/
namespace Codemod

/-- The entry with another span at its binding. -/
def NamedSpecifier.mark (span : Option Span) (s : NamedSpecifier) : NamedSpecifier :=
  { s with binding := { s.binding with span := span } }

/-- The specifier with another span at its binding. -/
def ImportSpecifier.mark (span : Option Span) : ImportSpecifier → ImportSpecifier
  | .named s => .named (s.mark span)
  | .default b => .default { b with span := span }
  | .star b => .star { b with span := span }

@[simp] theorem ImportSpecifier.span_mark (span : Option Span) (s : ImportSpecifier) :
    (s.mark span).binding.span = span := by
  cases s <;> rfl

@[simp] theorem ImportSpecifier.mark_mark (x y : Option Span) (s : ImportSpecifier) :
    (s.mark y).mark x = s.mark x := by
  cases s <;> rfl

namespace Imports

/-! ## Forgetting spans -/

/-- The declaration without the spans of its bindings. -/
def forgetDecl (d : ImportDecl) : ImportDecl :=
  { d with specifiers := d.specifiers.map (·.mark none) }

def forget : Item → Item
  | .importing d => .importing (forgetDecl d)
  | .code node => .code node

@[simp] theorem module_forgetDecl (d : ImportDecl) : (forgetDecl d).module = d.module := rfl

theorem named_forgetDecl (d : ImportDecl) :
    (forgetDecl d).named = d.named.map (·.mark none) := by
  have hnamed : ImportSpecifier.named? ∘ (ImportSpecifier.mark none) =
      fun s => s.named?.map (·.mark none) := by
    funext s
    cases s <;> rfl
  rw [ImportClause.named, forgetDecl, List.filterMap_map, hnamed, ImportClause.named,
    List.map_filterMap]

@[simp] theorem names_forgetDecl (d : ImportDecl) : (forgetDecl d).names = d.names := by
  rw [ImportDecl.names, named_forgetDecl, List.map_map]
  rfl

@[simp] theorem acceptsNames_forgetDecl (d : ImportDecl) :
    acceptsNames (forgetDecl d) = acceptsNames d := by
  rw [acceptsNames, acceptsNames, forgetDecl, List.all_map]
  congr 1
  funext s
  cases s <;> rfl

theorem mark_specifierOf (names : List String) :
    (names.map specifierOf).map (·.mark none) = names.map specifierOf := by
  rw [List.map_map]
  rfl

@[simp] theorem forgetDecl_declarationOf (m : String) (names : List String) :
    forgetDecl (declarationOf m names) = declarationOf m names := by
  rw [forgetDecl, declarationOf, mark_specifierOf]

theorem forgetDecl_spreadType (d : ImportDecl) :
    forgetDecl (spreadType d) = spreadType (forgetDecl d) := by
  have hmark : ImportSpecifier.mark none ∘ markType = markType ∘ ImportSpecifier.mark none := by
    funext s
    cases s <;> rfl
  unfold spreadType
  by_cases ht : d.typeOnly = true
  · rw [if_pos ht, if_pos (show (forgetDecl d).typeOnly = true from ht)]
    simp only [forgetDecl, List.map_map, hmark]
  · rw [if_neg ht, if_neg (show ¬ (forgetDecl d).typeOnly = true from ht)]

theorem forgetDecl_append (names : List String) (d : ImportDecl) :
    forgetDecl (append names d) = append names (forgetDecl d) := by
  rw [append, append, ← forgetDecl_spreadType]
  simp only [forgetDecl, List.map_append, mark_specifierOf]

theorem forgetDecl_keepNamed (test : NamedSpecifier → Bool)
    (h : ∀ s : NamedSpecifier, test (s.mark none) = test s) (d : ImportDecl) :
    forgetDecl (keepNamed test d) = keepNamed test (forgetDecl d) := by
  refine congrArg (fun specifiers => ({ d with specifiers := specifiers } : ImportDecl)) ?_
  rw [forgetDecl, List.filter_map]
  refine congrArg (List.map _) (List.filter_congr fun s _ => ?_)
  cases s with
  | named n => exact (h n).symm
  | default b => rfl
  | star b => rfl

@[simp] theorem dropped_forgetDecl (d e : ImportDecl) :
    dropped (forgetDecl d) (forgetDecl e) = dropped d e := by
  simp [dropped, forgetDecl]

/-- An action does the same to a declaration when spans are forgotten. -/
theorem onFound_forget (m : String) (used : String → Bool) (d : ImportDecl) (action : Action) :
    action.onFound m used (forgetDecl d) = (action.onFound m used d).map forgetDecl := by
  have hensure : ∀ names, (Action.ensure names).onFound m used (forgetDecl d) =
      ((Action.ensure names).onFound m used d).map forgetDecl := by
    intro names
    simp only [Action.onFound, names_forgetDecl, acceptsNames_forgetDecl]
    split
    · rfl
    · split
      · rw [← forgetDecl_append]; rfl
      · rw [List.map_cons, forgetDecl_declarationOf]; rfl
  cases action with
  | ensure names => exact hensure names
  | apply names => rw [onFound_apply, onFound_apply]; exact hensure names
  | remove names =>
    have hkeep := forgetDecl_keepNamed (fun s => !names.contains s.importedText) (fun _ => rfl) d
    simp only [Action.onFound, ← hkeep, named_forgetDecl, List.isEmpty_map]
    split <;> rfl
  | removeDeclaration => rfl
  | prune =>
    have hkeep := forgetDecl_keepNamed (fun s => used s.binding.text) (fun _ => rfl) d
    simp only [Action.onFound, ← hkeep, dropped_forgetDecl]
    simp only [forgetDecl, List.isEmpty_map]
    split <;> rfl
  | clear => rfl

/-- No action reads the spans of bindings. -/
theorem unread_forget : Unread forget forgetDecl where
  importing _ := rfl
  code node := ⟨node, rfl, rfl⟩
  module_eq := module_forgetDecl
  new := forgetDecl_declarationOf
  found := onFound_forget

/-! ## Numbers -/

def numberSpan (n : Nat) : Option Span := some ⟨n, n⟩

/-- The body with all specifiers numbered in order, from `n` on. -/
def numberFrom : Nat → List Item → List Item
  | _, [] => []
  | n, .importing d :: rest =>
    .importing
        { d with specifiers := (d.specifiers.zipIdx n).map fun (s, i) => s.mark (numberSpan i) } ::
      numberFrom (n + d.specifiers.length) rest
  | n, .code node :: rest => .code node :: numberFrom n rest

/-- The body with all specifiers numbered in order. -/
def numbered (items : List Item) : List Item := numberFrom 0 items

theorem map_forget_numberFrom (n : Nat) (items : List Item) :
    (numberFrom n items).map forget = items.map forget := by
  fun_induction numberFrom n items with
  | case1 => rfl
  | case2 n d rest ih =>
    have hspecs :=
      calc ((d.specifiers.zipIdx n).map fun (s, i) => s.mark (numberSpan i)).map (·.mark none)
        _ = (d.specifiers.zipIdx n).map ((·.mark none) ∘ Prod.fst) := by
          rw [List.map_map]
          exact List.map_congr_left fun _ _ => ImportSpecifier.mark_mark _ _ _
        _ = d.specifiers.map (·.mark none) := by rw [← List.map_map, List.zipIdx_map_fst]
    rw [List.map_cons, ih, List.map_cons, forget, forget, forgetDecl, hspecs]
    rfl
  | case3 n node rest ih => rw [List.map_cons, ih]; rfl

/-- A run does the same on a body and on the numbered body. -/
theorem run_numbered (edits : List Edit) (items : List Item) :
    (run edits (numbered items)).map forget = (run edits items).map forget := by
  rw [unread_forget.run, unread_forget.run, numbered, map_forget_numberFrom]

end Imports

end Codemod
