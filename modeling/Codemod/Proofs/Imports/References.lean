import Codemod.Proofs.Imports.Prune
import Codemod.Proofs.Source.Mentions

/-!
# References are exact

What a body refers to is read off its syntax: a name is referenced when some item that is no import
declaration mentions it (`Mentioned`), at whatever depth. So `unused` lists no name whose binding
the code mentions, and no run of prunings takes such a name out.

Results:
* `isReferenced_iff`: references are mentions.
* `prunes_keeps_named`: a specifier that is used outlives every run of prunings, in its declaration.
* `references_exact`: all of this together.
-/
namespace Codemod.Imports

/-- Some code of the body mentions the name. -/
def Mentioned (items : List Item) (name : String) : Prop :=
  ∃ node, .code node ∈ items ∧ node.mentions name = true

theorem isReferenced_iff (items : List Item) (name : String) :
    isReferenced items name = true ↔ Mentioned items name := by
  rw [isReferenced, List.any_eq_true]
  constructor
  · rintro ⟨item, hitem, hname⟩
    cases item with
    | importing d => cases hname
    | code node =>
      exact ⟨node, hitem, (node.mem_identifiers_iff name).1 (List.contains_iff_mem.1 hname)⟩
  · rintro ⟨node, hnode, hname⟩
    exact ⟨.code node, hnode, List.contains_iff_mem.2 ((node.mem_identifiers_iff name).2 hname)⟩

/-- A specifier whose binding is used keeps its declaration, and its place in it, in every run of
prunings. -/
theorem prunes_keeps_named {before after : List Item} {d : ImportDecl} {s : NamedSpecifier}
    (hs : s ∈ d.named)
    (hused : isReferenced (before ++ .importing d :: after) s.binding.text = true)
    (ms : List String) :
    ∃ before' e after', prunes ms (before ++ .importing d :: after) =
        before' ++ .importing e :: after' ∧
      { e with specifiers := d.specifiers } = d ∧ s ∈ e.named := by
  have hstays : stays (isReferenced (before ++ .importing d :: after)) (.named s) = true := hused
  obtain ⟨before', e, after', hleft, -, -, he⟩ := (prunes_pruned ms _).cut
    ((not_emptied_iff _ d).2 (Or.inr ⟨.named s, mem_named.1 hs, hstays⟩))
  refine ⟨before', e, after', hleft, ?_⟩
  rcases he with rfl | rfl
  · exact ⟨rfl, hs⟩
  · refine ⟨by rw [thinned_eq_filter], ?_⟩
    rw [named_thinned]
    exact List.mem_filter.2 ⟨hs, hused⟩

/-- A name is referenced exactly when some item that is no import declaration mentions it. The
unused names of a module are those of the specifiers whose bindings no code mentions, in their
order. A specifier whose binding is mentioned stays in its declaration in every run of prunings,
whatever modules are pruned; of the declaration nothing but specifiers changes. -/
theorem references_exact (items : List Item) :
    (∀ name, isReferenced items name = true ↔ Mentioned items name) ∧
      (∀ m d, find? m items = some d →
        ∃ idle : NamedSpecifier → Bool,
          (∀ s, idle s = true ↔ ¬ Mentioned items s.binding.text) ∧
          unused m items = (d.named.filter idle).map (·.importedText)) ∧
      ∀ before d after s, items = before ++ .importing d :: after → s ∈ d.named →
        Mentioned items s.binding.text → ∀ ms,
        ∃ before' e after', prunes ms items = before' ++ .importing e :: after' ∧
          { e with specifiers := d.specifiers } = d ∧ s ∈ e.named := by
  refine ⟨isReferenced_iff items, fun m d hd => ?_, ?_⟩
  · refine ⟨fun s => !isReferenced items s.binding.text, fun s => ?_, by rw [unused, hd]⟩
    rw [Bool.not_eq_true', ← Bool.not_eq_true, isReferenced_iff]
  · rintro before d after s rfl hs hm ms
    exact prunes_keeps_named hs ((isReferenced_iff _ _).2 hm) ms

end Codemod.Imports
