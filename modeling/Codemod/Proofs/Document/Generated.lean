import Codemod.Document
import Codemod.Proofs.Imports.Ensure
import Codemod.Proofs.Layout.Imports

/-!
# Generated imports are read back

A document that is only made of requested imports can be written and read again. Every item that
requests leave in an empty body is a new declaration (`allNew_applyAll`), the text of new
declarations has the tokens that the grammar reads them from, and its length bounds every list in
it.

Results:
* `allNew_ensure`, `allNew_applyAll`: what requests leave in a body of new declarations.
* `ofChars?_written`: a text of new declarations is a module with these declarations.
* `generated_reparse`: an empty document, with imports requested, emitted and read again.
-/
namespace Codemod

open Imports (Request ensure applyAll missing declarationOf)

/-! ## Bodies of new declarations -/

/-- Every item is the new declaration of a request that can be written. -/
def AllNew (items : List Item) : Prop := ∀ item ∈ items, ∃ q : Request, q.Legal ∧ q.item = item

theorem exists_requests {items : List Item} (h : AllNew items) :
    ∃ qs : List Request, (∀ q ∈ qs, q.Legal) ∧ items = qs.map Request.item := by
  induction items with
  | nil => exact ⟨[], by simp, rfl⟩
  | cons item items ih =>
    obtain ⟨⟨q, hq, rfl⟩, hrest⟩ := List.forall_mem_cons.1 h
    obtain ⟨qs, hqs, rfl⟩ := ih hrest
    exact ⟨q :: qs, List.forall_mem_cons.2 ⟨hq, hqs⟩, rfl⟩

theorem allNew_append {xs ys : List Item} : AllNew (xs ++ ys) ↔ AllNew xs ∧ AllNew ys :=
  List.forall_mem_append

theorem allNew_cons {item : Item} {items : List Item} :
    AllNew (item :: items) ↔ (∃ q : Request, q.Legal ∧ q.item = item) ∧ AllNew items :=
  List.forall_mem_cons

theorem allNew_ensure {r : Request} (hr : ∀ x ∈ r.names, Text.isBindingName x = true)
    {items : List Item} (hitems : AllNew items) : AllNew (ensure r items).items := by
  have hmissing : ∀ present, ∀ x ∈ missing present r.names, Text.isBindingName x = true :=
    fun present x hx => hr x (Imports.mem_missing.1 hx).1
  have h := Imports.ensure_spec r items
  generalize ensure r items = done at h ⊢
  cases h with
  | unwanted => exact hitems
  | fresh _ _ hn =>
    obtain ⟨hbefore, hafter⟩ := allNew_append.1 hitems
    exact allNew_append.2 ⟨hbefore, allNew_cons.2
      ⟨⟨⟨_, r.module⟩, ⟨Imports.missing_nil_ne_nil hn, hmissing _⟩, rfl⟩, hafter⟩⟩
  | present => exact hitems
  | @extend before after d _ hm =>
    obtain ⟨hbefore, hrest⟩ := allNew_append.1 hitems
    obtain ⟨⟨q, hq, hitem⟩, hafter⟩ := allNew_cons.1 hrest
    cases hitem
    rw [Imports.append_declarationOf]
    refine allNew_append.2 ⟨hbefore, allNew_cons.2 ⟨⟨⟨_, q.module⟩, ⟨?_, ?_⟩, rfl⟩, hafter⟩⟩
    · exact List.append_ne_nil_of_left_ne_nil hq.names_ne_nil _
    · exact List.forall_mem_append.2 ⟨hq.bindable, hmissing _⟩
  | precede _ hm =>
    obtain ⟨hbefore, hrest⟩ := allNew_append.1 hitems
    exact allNew_append.2 ⟨hbefore, allNew_cons.2
      ⟨⟨⟨_, r.module⟩, ⟨hm, hmissing _⟩, rfl⟩, hrest⟩⟩

theorem allNew_applyAll {requests : List Request}
    (h : ∀ r ∈ requests, ∀ x ∈ r.names, Text.isBindingName x = true) {items : List Item}
    (hitems : AllNew items) : AllNew (applyAll requests items).1 := by
  induction requests generalizing items with
  | nil => exact hitems
  | cons r requests ih =>
    rw [List.forall_mem_cons] at h
    exact ih h.2 (allNew_ensure h.1 hitems)

/-! ## Reading them -/

theorem written_eq (q : Request) :
    ∃ tail, q.written =
      'i' :: ("mport \x7b ".toList ++ ((q.names.intersperse ", ").flatMap String.toList ++ tail)) := by
  simp [Request.written, Request.texts]

theorem length_le_joined (names : List String) :
    names.length ≤ ((names.intersperse ", ").flatMap String.toList).length + 1 := by
  induction names with
  | nil => simp
  | cons x xs ih =>
    cases xs with
    | nil => simp
    | cons y ys =>
      have hcomma : ", ".toList.length = 2 := rfl
      simp only [List.intersperse_cons_cons, List.flatMap_cons, List.length_append,
        List.length_cons, hcomma] at ih ⊢
      omega

theorem length_names_lt (q : Request) : q.names.length < q.written.length := by
  have hjoined := length_le_joined q.names
  obtain ⟨tail, he⟩ := written_eq q
  have hkeyword : "mport \x7b ".toList.length = 8 := rfl
  rw [he, List.length_cons, List.length_append, List.length_append, hkeyword]
  omega

/-- A text is longer than the list of its declarations, and than the names of each. -/
theorem length_written (qs : List Request) :
    qs.length ≤ (qs.flatMap Request.written).length ∧
      ∀ q ∈ qs, q.names.length ≤ (qs.flatMap Request.written).length := by
  induction qs with
  | nil => simp
  | cons q qs ih =>
    have hq := length_names_lt q
    rw [List.flatMap_cons, List.length_append, List.length_cons, List.forall_mem_cons]
    refine ⟨by omega, by omega, fun q' hq' => ?_⟩
    have := ih.2 q' hq'
    omega

theorem splitShebang_written (qs : List Request) :
    Module.splitShebang (qs.flatMap Request.written) = (none, qs.flatMap Request.written) := by
  cases qs with
  | nil => rfl
  | cons q qs =>
    obtain ⟨tail, he⟩ := written_eq q
    rw [List.flatMap_cons, he]
    rfl

theorem dropMark_written (qs : List Request) :
    Module.dropMark (qs.flatMap Request.written) = qs.flatMap Request.written := by
  cases qs with
  | nil => rfl
  | cons q qs =>
    obtain ⟨tail, he⟩ := written_eq q
    rw [List.flatMap_cons, he]
    rfl

theorem ofChars?_written (dialect : Dialect) {qs : List Request} (hqs : ∀ q ∈ qs, q.Legal) :
    ∃ module, Module.ofChars? dialect (qs.flatMap Request.written) = some module ∧
      module.items.map Item.unplaced = qs.map Request.item := by
  have hlexed := lexed_items hqs blank_nothing
  have hshebang := splitShebang_written qs
  obtain ⟨hcount, hnames⟩ := length_written qs
  generalize qs.flatMap Request.written = text at hlexed hshebang hcount hnames ⊢
  have hruns := Grammar.runs_items
    (r := ⟨text.length + 1, Grammar.atDepth (text.length + 1) (4 * (text.length + 1))⟩) hqs
    (fun q hq => Nat.le_succ_of_le (hnames q hq)) (Nat.lt_succ_of_le hcount)
  obtain ⟨items, last, hitems, hsame, -⟩ :=
    hruns _ (hlexed.enter dialect (.outer dialect.ambient) .empty none 0 0)
  rw [List.nil_append] at hitems
  unfold Module.ofChars?
  simp only [hshebang, Option.map_none, Option.getD_none, hitems]
  exact ⟨_, rfl, hsame⟩

theorem imported_of_unplaced {decl : ImportDecl} {q : Request}
    (h : decl.unplaced = declarationOf q.module q.names) {s : NamedSpecifier} (hs : s ∈ decl.named) :
    s.imported = none := by
  have hspecifiers : decl.specifiers.map ImportSpecifier.unplaced =
      q.names.map Imports.specifierOf := congrArg (fun d => d.specifiers) h
  obtain ⟨specifier, hmem, hnamed⟩ := List.mem_filterMap.1 hs
  cases specifier with
  | named n =>
    cases hnamed
    have hunplaced := List.mem_map_of_mem (f := ImportSpecifier.unplaced) hmem
    rw [hspecifiers] at hunplaced
    obtain ⟨x, -, hx⟩ := List.mem_map.1 hunplaced
    cases s with
    | mk span imported binding typeOnly =>
      cases imported with
      | none => rfl
      | some name => cases hx
  | default b => cases hnamed
  | star b => cases hnamed

/-! ## Documents -/

theorem parse_empty (path : Path) (options : ParseOptions) :
    Document.parse path "" options = .ok ⟨path, [], ⟨none, [], .empty, ⟨0, 0⟩⟩⟩ := rfl

theorem parse_written (path : Path) (options : ParseOptions) {qs : List Request}
    (hqs : ∀ q ∈ qs, q.Legal) {text : String} (htext : text.toList = qs.flatMap Request.written) :
    ∃ d, Document.parse path text options = .ok d ∧
      d.items.map Item.unplaced = qs.map Request.item := by
  obtain ⟨module, hmodule, hitems⟩ := ofChars?_written (options.dialect path) hqs
  refine ⟨⟨path, qs.flatMap Request.written, module⟩, ?_, hitems⟩
  simp only [Document.parse, htext, dropMark_written, hmodule]

/-- Imports that are requested in an empty document are read back from what it emits, under any path
and options: the same declarations in the same order, up to where they stand, and no name among them
is renamed. -/
theorem generated_reparse (path path' : Path) (options options' : ParseOptions)
    (requests : List Request)
    (h : ∀ r ∈ requests, ∀ x ∈ r.names, Text.isBindingName x = true) :
    ∃ d d', Document.parse path "" options = .ok d ∧
      Document.parse path' (d.setItems (applyAll requests d.items).1).emit.1 options' = .ok d' ∧
      d'.items.map Item.unplaced = (applyAll requests d.items).1 ∧
      ∀ decl ∈ Imports.declarations d'.items, ∀ s ∈ decl.named, s.imported = none := by
  have hnone : AllNew [] := by simp [AllNew]
  obtain ⟨qs, hqs, hitems⟩ := exists_requests (allNew_applyAll h hnone)
  have htext := print_items [] ⟨0, 0⟩ fun q hq => (hqs q hq).names_ne_nil
  obtain ⟨d', hparse, hsame⟩ := parse_written path' options' hqs htext
  refine ⟨_, d', parse_empty path options, ?_, ?_, ?_⟩
  · show Document.parse path' (Module.print [] ⟨none, (applyAll requests []).1, _, _⟩).1 options' = _
    rw [hitems]
    exact hparse
  · exact hsame.trans hitems.symm
  · intro decl hdecl s hs
    obtain ⟨item, hmem, himport⟩ := List.mem_filterMap.1 hdecl
    cases item with
    | importing _ =>
      cases himport
      have hunplaced := List.mem_map_of_mem (f := Item.unplaced) hmem
      rw [hsame] at hunplaced
      obtain ⟨q, -, hq⟩ := List.mem_map.1 hunplaced
      injection hq with hq
      exact imported_of_unplaced hq.symm hs
    | code node => cases himport

/-- Requests for words that play a part in import clauses, from modules whose names need escapes. -/
def hardRequests : List Request :=
  [⟨["type", "as", "from"], "it's \"quoted\" \\ "⟩, ⟨["of", "type"], "\x00\u2028\n"⟩,
    ⟨["$", "as", "_1"], "it's \"quoted\" \\ "⟩]

theorem generated_reparse_hard :
    (∀ r ∈ hardRequests, ∀ x ∈ r.names, Text.isBindingName x = true) ∧
    ∃ d d', Document.parse ⟨"new.ts"⟩ "" .default = .ok d ∧
      Document.parse ⟨"new.ts"⟩ (d.setItems (applyAll hardRequests d.items).1).emit.1 .default =
        .ok d' ∧
      d'.items.map Item.unplaced = (applyAll hardRequests d.items).1 ∧
      ∀ decl ∈ Imports.declarations d'.items, ∀ s ∈ decl.named, s.imported = none := by
  have hwords : ∀ r ∈ hardRequests, ∀ x ∈ r.names, Text.isBindingName x = true := by
    decide +kernel
  exact ⟨hwords, generated_reparse _ _ _ _ hardRequests hwords⟩

end Codemod
