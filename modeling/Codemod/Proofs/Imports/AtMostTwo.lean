import Codemod.Proofs.Imports.Actions
import Codemod.Proofs.Imports.RemoveTwice

/-!
# At most two declarations for a module

A body that starts with one declaration for each module does not keep to that: names wanted from a
module whose declaration takes none go to a second one. It stays at two. The one in front has only
names of values (`NamesOnly`), so it takes all further names itself, and it is the one that every
edit works on; the one behind is found again when the one in front is gone.

Results:
* `NamesOnly.append`, `NamesOnly.sublist`: a declaration of names remains one.
* `Replacement.atMostTwo`, `Step.atMostTwo`: what an action keeps of the declarations of its module.
* `run_at_most_two`: what runs make of a body with at most one declaration for each module.
* `run_at_most_two_namespace`: a run that ends with two.
-/
namespace Codemod.Imports

/-! ## Declarations of names -/

/-- A declaration for values that has named specifiers only. -/
structure NamesOnly (d : ImportDecl) : Prop where
  value : d.typeOnly = false
  named : ∀ s ∈ d.specifiers, ∃ n, s = .named n

theorem NamesOnly.acceptsNames {d : ImportDecl} (h : NamesOnly d) : acceptsNames d = true := by
  rw [acceptsNames_iff]
  refine ⟨fun b hb => ?_, fun _ b hb => ?_⟩
  · obtain ⟨n, hn⟩ := h.named _ hb; cases hn
  · obtain ⟨n, hn⟩ := h.named _ hb; cases hn

theorem named_of_mem_specifierOf {names : List String} {s : ImportSpecifier}
    (h : s ∈ names.map specifierOf) : ∃ n, s = .named n := by
  obtain ⟨x, -, rfl⟩ := List.mem_map.1 h
  exact ⟨_, rfl⟩

theorem namesOnly_declarationOf (m : String) (names : List String) :
    NamesOnly (declarationOf m names) := ⟨rfl, fun _ => named_of_mem_specifierOf⟩

theorem NamesOnly.append {d : ImportDecl} (h : NamesOnly d) (names : List String) :
    NamesOnly (Imports.append names d) := by
  refine ⟨typeOnly_append names d, fun s hs => ?_⟩
  rw [Imports.append, spreadType_of_value h.value] at hs
  rcases List.mem_append.1 hs with hs | hs
  · exact h.named s hs
  · exact named_of_mem_specifierOf hs

theorem NamesOnly.sublist {d : ImportDecl} (h : NamesOnly d) {specifiers : List ImportSpecifier}
    (hs : specifiers.Sublist d.specifiers) : NamesOnly { d with specifiers := specifiers } :=
  ⟨h.value, fun s hmem => h.named s (hs.subset hmem)⟩

/-! ## The declarations of a module -/

/-- No declaration, one, or one of names in front of one that takes none. -/
inductive AtMostTwo : List ImportDecl → Prop
  | none : AtMostTwo []
  | one (d : ImportDecl) : AtMostTwo [d]
  | two {d e : ImportDecl} (hd : NamesOnly d) (he : acceptsNames e = false) : AtMostTwo [d, e]

theorem atMostTwo_of_length {ds : List ImportDecl} (h : ds.length ≤ 1) : AtMostTwo ds := by
  match ds, h with
  | [], _ => exact .none
  | [d], _ => exact .one d

theorem Replacement.atMostTwo {m : String} {d : ImportDecl} {new rest : List ImportDecl}
    (h : Replacement m d new) (hs : AtMostTwo (d :: rest)) : AtMostTwo (new ++ rest) := by
  cases hs with
  | one =>
    cases h with
    | same => exact .one d
    | extend names => exact .one _
    | precede names ha => exact .two (namesOnly_declarationOf m names) ha
    | thin test => exact .one _
    | clear => exact .one _
    | delete => exact .none
  | two hd he =>
    cases h with
    | same => exact .two hd he
    | extend names => exact .two (hd.append names) he
    | precede names ha =>
      -- the one in front takes names, so no third one is made
      rw [hd.acceptsNames] at ha
      cases ha
    | thin test => exact .two (hd.sublist List.filter_sublist) he
    | clear => exact .two (hd.sublist (List.nil_sublist _)) he
    | delete => exact .one _

theorem declarationsOf_map_importing {m : String} {ds : List ImportDecl}
    (h : ∀ d ∈ ds, d.module = m) : declarationsOf m (ds.map .importing) = ds := by
  rw [declarationsOf, declarations_map_importing, List.filter_eq_self]
  exact fun d hd => by rw [h d hd, beq_self_eq_true]

theorem Step.atMostTwo {m : String} {items items' : List Item} (h : Step m items items')
    (hs : AtMostTwo (declarationsOf m items)) : AtMostTwo (declarationsOf m items') := by
  cases h with
  | idle => exact hs
  | @fresh before after names habs _ =>
    rw [absent_append] at habs
    rw [declarationsOf_cut (first_declarationOf habs.1 names),
      (absent_iff_declarationsOf m after).1 habs.2]
    exact .one _
  | @found before after d new hf hr =>
    rw [declarationsOf_cut hf] at hs
    rw [declarationsOf_append, (absent_iff_declarationsOf m before).1 hf.absent, List.nil_append,
      declarationsOf_append, declarationsOf_map_importing (hr.module_eq hf.module_eq)]
    exact hr.atMostTwo hs

theorem action_atMostTwo (m : String) (action : Action) {items : List Item}
    (h : ∀ n, AtMostTwo (declarationsOf n items)) :
    ∀ n, AtMostTwo (declarationsOf n (action.run m items)) := by
  intro n
  by_cases hn : n = m
  · subst hn
    exact (action_step n action items).atMostTwo (h n)
  · rw [(action_change m action items).declarationsOf_ne hn]
    exact h n

/-- After any run on a body with at most one declaration for each module there are at most two for
each. Of two, the first is the one that is found; it is for values and has names only, and the
second takes no names. -/
theorem run_at_most_two (items : List Item) (hu : AtMostOnce items) (edits : List Edit)
    (m : String) :
    (declarationsOf m (run edits items)).length ≤ 2 ∧
      ∀ d e, declarationsOf m (run edits items) = [d, e] →
        find? m (run edits items) = some d ∧ d.typeOnly = false ∧
          (∀ s ∈ d.specifiers, ∃ n, s = .named n) ∧
          ((∃ b, .star b ∈ e.specifiers) ∨ e.typeOnly = true ∧ ∃ b, .default b ∈ e.specifiers) := by
  have hs : AtMostTwo (declarationsOf m (run edits items)) :=
    run_induction (P := fun body => ∀ n, AtMostTwo (declarationsOf n body))
      (fun n action body => action_atMostTwo n action) edits items
      (fun n => atMostTwo_of_length (hu n)) m
  rw [find?_eq_head?]
  generalize declarationsOf m (run edits items) = ds at hs
  cases hs with
  | none => simp
  | one d => simp
  | two hd he =>
    refine ⟨Nat.le_refl _, fun d' e' heq => ?_⟩
    obtain ⟨rfl, rfl⟩ : _ = d' ∧ _ = e' := by simpa using heq
    exact ⟨rfl, hd.value, hd.named, (acceptsNames_eq_false_iff _).1 he⟩

/-- Names wanted from `m`, cleared and wanted again. -/
def repeatedEdits : List Edit :=
  [.single "m" (.ensure ["a"]), .single "m" (.apply ["b"]), .single "m" .clear,
    .single "m" (.ensure ["c"])]

/-- They share the one declaration in front of the namespace import. -/
theorem run_at_most_two_namespace :
    AtMostOnce [.importing namespaceImport] ∧
      declarationsOf "m" (run repeatedEdits [.importing namespaceImport]) =
        [declarationOf "m" ["c"], namespaceImport] ∧
      find? "m" (run repeatedEdits [.importing namespaceImport]) = some (declarationOf "m" ["c"]) ∧
      (∀ s ∈ (declarationOf "m" ["c"]).specifiers, ∃ n, s = .named n) ∧
      ∃ b, .star b ∈ namespaceImport.specifiers := by
  have hu := atMostOnce_singleton (.importing namespaceImport)
  have htwo : declarationsOf "m" (run repeatedEdits [.importing namespaceImport]) =
      [declarationOf "m" ["c"], namespaceImport] := rfl
  obtain ⟨hfind, -, hnamed, hlast⟩ := (run_at_most_two _ hu repeatedEdits "m").2 _ _ htwo
  exact ⟨hu, htwo, hfind, hnamed, hlast.resolve_right fun ⟨ht, _⟩ => by cases ht⟩

end Codemod.Imports
