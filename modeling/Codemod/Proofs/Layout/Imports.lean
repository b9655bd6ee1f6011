import Codemod.Layout.Module
import Codemod.Proofs.Grammar.Imports

/-!
# Printing new import declarations

A new declaration has no place in a source, so no comments belong to it and its layout is plain
texts and the end of its line. On a page without indentation such texts stand one after the other,
and the tokens of the page are those that the grammar reads the declaration from.

Results:
* `prints_append`, `prints_texts`: on such a page the pieces of a layout add text to what is there.
* `layout_item`: the layout of a new declaration.
* `print_items`: what is printed for new declarations in a module without comments.
* `lexed_items`: the tokens of that text.
-/
namespace Codemod

/-! ## Plain pages -/

/-- The page has no indentation and no comments to come. -/
structure Page.Bare (p : Page) : Prop where
  depth_eq : p.depth = 0
  comments_eq : p.comments = .empty

namespace Piece

/-- On a bare page the pieces add the characters to what has been printed. -/
def Prints (source : List Char) (pieces : List Piece) (cs : List Char) : Prop :=
  ∀ p : Page, p.Bare → (p.putAll source pieces).Bare ∧
    (p.putAll source pieces).out.toList = p.out.toList ++ cs

variable {source : List Char}

theorem prints_nil : Prints source [] [] := fun _ hp => ⟨hp, (List.append_nil _).symm⟩

theorem prints_append {xs ys : List Piece} {cs ds : List Char} (hx : Prints source xs cs)
    (hy : Prints source ys ds) : Prints source (xs ++ ys) (cs ++ ds) := by
  intro p hp
  obtain ⟨hbare, hout⟩ := hx p hp
  obtain ⟨hbare', hout'⟩ := hy _ hbare
  have hput : p.putAll source (xs ++ ys) = (p.putAll source xs).putAll source ys :=
    List.foldl_append
  rw [hput]
  exact ⟨hbare', by rw [hout', hout, List.append_assoc]⟩

theorem prints_text (s : String) : Prints source [.text s] s.toList := by
  intro p hp
  show (p.write s).Bare ∧ (p.write s).out.toList = _
  unfold Page.write
  split
  · rename_i hs
    rw [String.isEmpty_iff] at hs
    exact ⟨hp, by simp [hs]⟩
  · split
    · exact ⟨⟨hp.depth_eq, hp.comments_eq⟩, by simp [hp.depth_eq, Page.indentation]⟩
    · exact ⟨⟨hp.depth_eq, hp.comments_eq⟩, by simp⟩

theorem prints_texts (texts : List String) :
    Prints source (texts.map .text) (texts.flatMap String.toList) := by
  induction texts with
  | nil => exact prints_nil
  | cons s texts ih => exact prints_append (prints_text s) ih

/-- A line that has text is ended. -/
theorem prints_end : Prints source [.text ";", .line] [';', '\n'] := by
  intro p hp
  have htext : Prints source [.text ";"] _ := prints_text ";"
  obtain ⟨hbare, hout⟩ := htext p hp
  have hline : (p.write ";").lineStart = false := by
    unfold Page.write
    rw [if_neg (by decide)]
    split
    · rfl
    · rename_i h; simpa using h
  have hput : p.putAll source [.text ";", .line] =
      { p.write ";" with out := (p.write ";").out ++ "\n", lineStart := true } := by
    show (p.write ";").newline = _
    rw [Page.newline, hline]
    rfl
  rw [hput]
  refine ⟨⟨hbare.depth_eq, hbare.comments_eq⟩, ?_⟩
  rw [String.toList_append, show (p.write ";").out.toList = _ from hout, List.append_assoc]
  rfl

theorem prints_nothing {piece : Piece}
    (h : ∀ p : Page, p.comments = .empty → p.put source piece = p) : Prints source [piece] [] := by
  intro p hp
  have hput : p.putAll source [piece] = p := h p hp.comments_eq
  rw [hput]
  exact ⟨hp, (List.append_nil _).symm⟩

theorem prints_leading (pos : Nat) : Prints source [.leading pos] [] :=
  prints_nothing fun p hp => by
    cases p
    cases hp
    rfl

theorem prints_trailing (pos : Nat) (spaced : Bool) : Prints source [.trailing pos spaced] [] :=
  prints_nothing fun p hp => by
    cases p
    cases hp
    rfl

theorem join_texts (separator : String) (texts : List String) :
    join [.text separator] (texts.map fun s => [.text s]) =
      (texts.intersperse separator).map .text := by
  unfold join
  induction texts with
  | nil => rfl
  | cons s texts ih =>
    cases texts with
    | nil => rfl
    | cons t texts =>
      simp only [List.map_cons, List.intersperse_cons_cons, List.flatten_cons] at ih ⊢
      rw [ih]
      rfl

end Piece

/-! ## New declarations -/

namespace Imports.Request

/-- The texts of a new declaration, up to its semicolon. -/
def texts (q : Request) : List String :=
  ["import ", "", "\x7b "] ++ q.names.intersperse ", " ++
    [" \x7d", " from ", Text.StringLiteral.encode q.module]

/-- The characters of a new declaration. -/
def written (q : Request) : List Char := q.texts.flatMap String.toList ++ [';', '\n']

theorem named_declarationOf (m : String) (names : List String) :
    (declarationOf m names).named = names.map fun x => ⟨none, none, ⟨x, none⟩, false⟩ := by
  show List.filterMap ImportSpecifier.named? (names.map specifierOf) = _
  rw [List.filterMap_map, ← List.filterMap_eq_map]
  rfl

theorem bracesLayout_declarationOf (m : String) {names : List String} (hne : names ≠ []) :
    (declarationOf m names).bracesLayout =
      [[.text "\x7b "] ++ (names.intersperse ", ").map .text ++ [.text " \x7d"]] := by
  rw [ImportClause.bracesLayout, named_declarationOf, if_neg (by simpa using hne),
    ← Piece.join_texts, List.map_map]
  simp [declarationOf, Function.comp_def, ImportClause.specifierLayout, NamedSpecifier.layout,
    Name.layout, leadingOf, Piece.when]

theorem bindingsLayout_declarationOf (m : String) (names : List String) :
    (declarationOf m names).bindingsLayout = [] := by
  simp [ImportClause.bindingsLayout, declarationOf, specifierOf]

theorem layout_item {q : Request} (hne : q.names ≠ []) :
    q.item.layout = q.texts.map .text ++ [.text ";", .line] := by
  simp only [item, Item.layout, ImportClause.layout, bindingsLayout_declarationOf,
    bracesLayout_declarationOf _ hne, List.nil_append]
  simp [declarationOf, texts, leadingOf, Literal.layout, ImportClause.phaseText, Piece.when,
    Piece.join, Node.lead, Node.layoutSome]

theorem prints_item {source : List Char} {q : Request} (hne : q.names ≠ []) :
    Piece.Prints source q.item.layout q.written := by
  rw [layout_item hne]
  exact Piece.prints_append (Piece.prints_texts q.texts) Piece.prints_end

end Imports.Request

open Imports (Request)

/-- What is printed for new declarations in a module without comments. -/
theorem print_items (source : List Char) (span : Span) {qs : List Request}
    (hqs : ∀ q ∈ qs, q.names ≠ []) :
    (Module.print source ⟨none, qs.map Request.item, .empty, span⟩).1.toList =
      qs.flatMap Request.written := by
  have hitems : Piece.Prints source ((qs.map Request.item).flatMap Item.layout)
      (qs.flatMap Request.written) := by
    induction qs with
    | nil => exact Piece.prints_nil
    | cons q qs ih =>
      rw [List.forall_mem_cons] at hqs
      exact Piece.prints_append (Request.prints_item hqs.1) (ih hqs.2)
  have hpage := Piece.prints_append (Piece.prints_append (Piece.prints_leading span.lo) hitems)
    (Piece.prints_trailing span.hi true) (Page.blank .empty) ⟨rfl, rfl⟩
  rw [List.nil_append, List.append_nil] at hpage
  exact hpage.2

/-! ## Their tokens -/

open Text (isBlank)

theorem blank_nothing : ∀ c ∈ ([] : List Char), isBlank c = true := by simp

theorem blank_space : ∀ c ∈ [' '], isBlank c = true := List.forall_mem_singleton.2 rfl

theorem blank_line : ∀ c ∈ ['\n'], isBlank c = true := List.forall_mem_singleton.2 rfl

theorem isIdentifier_of_isBindingName {x : String} (h : Text.isBindingName x = true) :
    Text.isIdentifier x = true := by
  rw [Text.isBindingName, Bool.and_eq_true] at h
  exact h.1

theorem lexed_names {names : List String} (hne : names ≠ [])
    (hnames : ∀ x ∈ names, Text.isBindingName x = true) {gap rest : List Char} {ts : List Token}
    (hgap : ∀ c ∈ gap, isBlank c = true) (h : Lexed (' ' :: rest) ts) :
    Lexed (gap ++ ((names.intersperse ", ").flatMap String.toList ++ ' ' :: rest))
      (Grammar.nameTokens names ++ ts) := by
  induction names generalizing gap with
  | nil => exact absurd rfl hne
  | cons x xs ih =>
    rw [List.forall_mem_cons] at hnames
    have hx := isIdentifier_of_isBindingName hnames.1
    cases xs with
    | nil =>
      simp only [List.intersperse_singleton, List.flatMap_cons, List.flatMap_nil, List.append_nil]
      exact .word hgap h hx rfl
    | cons y ys =>
      have hrest := ih (by simp) hnames.2 blank_space
      have hcomma := Lexed.punct blank_nothing hrest (p := ",") (by simp)
      have hword := Lexed.word hgap hcomma hx rfl
      simpa [Grammar.nameTokens] using hword

theorem lexed_item {q : Request} (hq : q.Legal) {gap rest : List Char} {ts : List Token}
    (hgap : ∀ c ∈ gap, isBlank c = true) (h : Lexed ('\n' :: rest) ts) :
    Lexed (gap ++ (q.written ++ rest)) (Grammar.declarationTokens q ++ ts) := by
  have hend := Lexed.punct blank_nothing h (p := ";") (by simp)
  have hmodule := Lexed.string blank_space hend q.module
  have hfrom := Lexed.word blank_space hmodule (s := "from") (by decide) rfl
  have hclose := Lexed.punct blank_space hfrom (p := "\x7d") (by simp)
  have hnames := lexed_names hq.names_ne_nil hq.bindable blank_space hclose
  have hopen := Lexed.punct blank_space hnames (p := "\x7b") (by simp)
  have himport := Lexed.word hgap hopen (s := "import") (by decide) rfl
  simpa [Request.written, Request.texts, Grammar.declarationTokens, Grammar.clauseTokens]
    using himport

/-- The text of new declarations has their tokens, the ends of the lines being blanks. -/
theorem lexed_items {qs : List Request} (hqs : ∀ q ∈ qs, q.Legal) {gap : List Char}
    (hgap : ∀ c ∈ gap, isBlank c = true) :
    Lexed (gap ++ qs.flatMap Request.written) (qs.flatMap Grammar.declarationTokens) := by
  induction qs generalizing gap with
  | nil => simpa using Lexed.done hgap
  | cons q qs ih =>
    rw [List.forall_mem_cons] at hqs
    rw [List.flatMap_cons, List.flatMap_cons]
    exact lexed_item hqs.1 hgap (ih hqs.2 blank_line)

end Codemod
