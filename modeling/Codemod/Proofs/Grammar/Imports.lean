import Codemod.Grammar.Module
import Codemod.Imports.Edit
import Codemod.Proofs.Source.Tokens

/-!
# Reading new import declarations

What the grammar reads from a text depends on the tokens of the text (`Runs`). The tokens of a new
declaration are those of its names with commas between them, in braces, and of its module.
Contextual words such as `type`, `as` and `from` are names like any other there: a name stands
before a comma or a closing brace, and only before another word would such a word be read as
something else.

Where something stands in the text is left out of the comparison (`unplaced`): what an edit makes
has no place.

Results:
* `Runs.bind`, `runs_eat` and their companions: parsers one after the other, on tokens.
* `runs_namedSpecifier`, `runs_names`: one name, and the names of a clause.
* `runs_item`, `runs_items`: one new declaration, and a module of new declarations.
-/
namespace Codemod

/-! ## Without places -/

def Name.unplaced (n : Name) : Name := ⟨n.text, none⟩

def Literal.unplaced (l : Literal) : Literal := ⟨l.value, none, none⟩

def ExternalName.unplaced : ExternalName → ExternalName
  | .ident name => .ident name.unplaced
  | .string literal => .string literal.unplaced

def NamedSpecifier.unplaced (s : NamedSpecifier) : NamedSpecifier :=
  ⟨none, s.imported.map ExternalName.unplaced, s.binding.unplaced, s.typeOnly⟩

def ImportSpecifier.unplaced : ImportSpecifier → ImportSpecifier
  | .named s => .named s.unplaced
  | .default b => .default b.unplaced
  | .star b => .star b.unplaced

/-- The declaration without the places and the spellings of its parts. -/
def ImportDecl.unplaced (d : ImportDecl) : ImportDecl :=
  ⟨⟨none, d.typeOnly, d.phase, d.specifiers.map ImportSpecifier.unplaced, d.source.unplaced⟩,
    d.attributes⟩

def Item.unplaced : Item → Item
  | .importing d => .importing d.unplaced
  | .code node => .code node

/-! ## Requests that can be written -/

namespace Imports.Request

/-- The request names something, and only what module code may bind. -/
structure Legal (q : Request) : Prop where
  names_ne_nil : q.names ≠ []
  bindable : ∀ x ∈ q.names, Text.isBindingName x = true

def item (q : Request) : Item := .importing (declarationOf q.module q.names)

end Imports.Request

/-! ## Parsers on tokens -/

namespace Parser

/-- On a text of the tokens `ts` the parser succeeds with a result that has the property, and leaves
the tokens `rest`. -/
def Runs {α : Type} (p : Parser α) (ts : List Token) (post : α → Prop) (rest : List Token) : Prop :=
  ∀ c : Cursor, c.Reads ts → ∃ a c', p c = some (a, c') ∧ post a ∧ c'.Reads rest

section
variable {α β : Type} {ts mid rest : List Token}

theorem runs_pure {a : α} {post : α → Prop} (h : post a) : Runs (pure a) ts post ts :=
  fun c hc => ⟨a, c, rfl, h, hc⟩

theorem Runs.bind {p : Parser α} {f : α → Parser β} {inner : α → Prop} {post : β → Prop}
    (hp : Runs p ts inner mid) (hf : ∀ a, inner a → Runs (f a) mid post rest) :
    Runs (p >>= f) ts post rest := by
  intro c hc
  obtain ⟨a, c', hpc, ha, hc'⟩ := hp c hc
  obtain ⟨b, c'', hfc, hb, hc''⟩ := hf a ha c' hc'
  refine ⟨b, c'', ?_, hb, hc''⟩
  show (p c).bind (fun r => f r.1 r.2) = _
  rw [hpc, Option.bind_some, hfc]

theorem runs_get : Runs get ts (fun c => c.Reads ts) ts := fun c hc => ⟨c, c, rfl, hc, hc⟩

theorem runs_advance (t : Token) : Runs advance (t :: ts) (fun _ => True) ts :=
  fun c hc => ⟨(), c.next, rfl, trivial, hc.next⟩

theorem runs_check {b : Bool} (h : b = true) : Runs (check b) ts (fun _ => True) ts := by
  rw [check, if_pos h]
  exact runs_pure trivial

theorem runs_spanFrom (lo : Nat) : Runs (spanFrom lo) ts (fun _ => True) ts :=
  runs_get.bind fun _ _ => runs_pure trivial

theorem runs_start : Runs start ts (fun _ => True) ts := runs_get.bind fun _ _ => runs_pure trivial

theorem runs_atToken (t : Token) :
    Runs (do return (← get).token == t) ts (· = (ts.headD .eof == t)) ts :=
  runs_get.bind fun c hc => runs_pure (by rw [hc.token_eq])

theorem runs_atPunct (p : String) : Runs (atPunct p) ts (· = (ts.headD .eof == .punct p)) ts :=
  runs_atToken (.punct p)

theorem runs_eatToken (t : Token) :
    Runs (do if (← get).token == t then advance; return true else return false) (t :: ts)
      (· = true) ts := by
  refine runs_get.bind fun c hc => ?_
  have htoken : c.token = t := hc.token_eq
  rw [if_pos (by simp [htoken])]
  exact (runs_advance t).bind fun _ _ => runs_pure rfl

theorem runs_eatToken_other {t : Token} (h : ts.headD .eof ≠ t) :
    Runs (do if (← get).token == t then advance; return true else return false) ts
      (· = false) ts := by
  refine runs_get.bind fun c hc => ?_
  rw [if_neg (by simpa [hc.token_eq] using h)]
  exact runs_pure rfl

theorem runs_eat (p : String) : Runs (eat p) (.punct p :: ts) (· = true) ts :=
  runs_eatToken (.punct p)

theorem runs_eat_other {p : String} (h : ts.headD .eof ≠ .punct p) :
    Runs (eat p) ts (· = false) ts := runs_eatToken_other h

theorem runs_eatWord (w : String) : Runs (eatWord w) (.word w false :: ts) (· = true) ts :=
  runs_eatToken (.word w false)

theorem runs_eatWord_other {w : String} (h : ts.headD .eof ≠ .word w false) :
    Runs (eatWord w) ts (· = false) ts := runs_eatToken_other h

theorem runs_expect (p : String) : Runs (expect p) (.punct p :: ts) (fun _ => True) ts := by
  refine (runs_eat p).bind ?_
  rintro _ rfl
  exact runs_pure trivial

theorem runs_expectWord (w : String) :
    Runs (expectWord w) (.word w false :: ts) (fun _ => True) ts := by
  refine (runs_eatWord w).bind ?_
  rintro _ rfl
  exact runs_pure trivial

theorem runs_semicolon : Runs semicolon (.punct ";" :: ts) (fun _ => True) ts := by
  refine (runs_eat ";").bind ?_
  rintro _ rfl
  exact runs_pure trivial

/-- An item with the closing punctuator after it ends the list. -/
theorem runs_listUntil_last {close : String} {item : Parser α} {inner : α → Prop}
    {post : List α → Prop} {fuel : Nat} (hcomma : close ≠ ",") (hts : ts.headD .eof ≠ .punct close)
    (hitem : Runs item ts inner (.punct close :: rest)) (hpost : ∀ a, inner a → post [a]) :
    Runs (listUntil close item (fuel + 1)) ts post rest := by
  refine (runs_eat_other hts).bind ?_
  rintro _ rfl
  refine hitem.bind fun a ha => (runs_eat_other (by simpa using hcomma)).bind ?_
  rintro _ rfl
  exact (runs_expect close).bind fun _ _ => runs_pure (hpost a ha)

/-- An item with a comma after it goes before what is read behind the comma. -/
theorem runs_listUntil_more {close : String} {item : Parser α} {inner : α → Prop}
    {others post : List α → Prop} {fuel : Nat} (hts : ts.headD .eof ≠ .punct close)
    (hitem : Runs item ts inner (.punct "," :: mid))
    (hmore : Runs (listUntil close item fuel) mid others rest)
    (hpost : ∀ a, inner a → ∀ as, others as → post (a :: as)) :
    Runs (listUntil close item (fuel + 1)) ts post rest := by
  refine (runs_eat_other hts).bind ?_
  rintro _ rfl
  refine hitem.bind fun a ha => (runs_eat ",").bind ?_
  rintro _ rfl
  exact hmore.bind fun as has => runs_pure (hpost a ha as has)

theorem runs_whileTrue_stop {test : Parser Bool} {item : Parser α} {post : List α → Prop}
    {fuel : Nat} (hfuel : 0 < fuel) (htest : Runs test ts (· = false) ts) (hpost : post []) :
    Runs (whileTrue test item fuel) ts post ts := by
  obtain ⟨fuel, rfl⟩ : ∃ n, fuel = n + 1 := ⟨fuel - 1, by omega⟩
  refine htest.bind ?_
  rintro _ rfl
  exact runs_pure hpost

theorem runs_whileTrue_more {test : Parser Bool} {item : Parser α} {inner : α → Prop}
    {others post : List α → Prop} {fuel : Nat} (htest : Runs test ts (· = true) ts)
    (hitem : Runs item ts inner mid) (hmore : Runs (whileTrue test item fuel) mid others rest)
    (hpost : ∀ a, inner a → ∀ as, others as → post (a :: as)) :
    Runs (whileTrue test item (fuel + 1)) ts post rest := by
  refine htest.bind ?_
  rintro _ rfl
  exact hitem.bind fun a ha => hmore.bind fun as has => runs_pure (hpost a ha as has)

end

end Parser

namespace Grammar

open Codemod.Parser
open Codemod.Imports (Request)

variable {ts rest : List Token}

theorem runs_wordName (s : String) :
    Runs wordName (.word s false :: ts) (fun name => name.text = s) ts := by
  have hany : Runs anyWord (.word s false :: ts) (fun r => r.2 = s) ts := by
    refine runs_get.bind fun c hc => ?_
    have htoken : c.token = .word s false := hc.token_eq
    rw [htoken]
    exact (runs_advance _).bind fun _ _ => runs_pure rfl
  exact hany.bind fun r hr => runs_pure hr

theorem runs_literal (value raw : String) :
    Runs literal (.string value raw :: ts) (fun l => l.unplaced = ⟨value, none, none⟩) ts := by
  refine runs_get.bind fun c hc => ?_
  have htoken : c.token = .string value raw := hc.token_eq
  rw [htoken]
  exact (runs_advance _).bind fun _ _ => runs_pure rfl

/-- A name before something that is no word. -/
theorem runs_namedSpecifier {s : String} (hs : Text.isBindingName s = true)
    (hts : isWordToken (ts.headD .eof) = false) :
    Runs namedSpecifier (.word s false :: ts)
      (fun spec => spec.unplaced = ⟨none, none, ⟨s, none⟩, false⟩) ts := by
  refine runs_get.bind fun c hc => ?_
  have htoken : c.token = .word s false := hc.token_eq
  rw [htoken]
  refine (runs_wordName s).bind fun first hfirst => runs_get.bind fun c' hc' => ?_
  rw [hc'.token_eq, hts, Bool.and_false, if_neg (by simp)]
  have has : ts.headD .eof ≠ .word "as" false := by
    intro h
    rw [h] at hts
    cases hts
  refine (runs_eatWord_other has).bind ?_
  rintro _ rfl
  rw [if_neg (by simp)]
  rw [Text.isBindingName, Bool.and_eq_true] at hs
  refine (runs_check (hfirst ▸ hs.2)).bind fun _ _ => (runs_spanFrom _).bind fun _ _ => ?_
  exact runs_pure (by simp [NamedSpecifier.unplaced, Name.unplaced, hfirst])

/-! ## Names in braces -/

/-- The names with commas between them. -/
def nameTokens (names : List String) : List Token :=
  (names.map fun x => Token.word x false).intersperse (.punct ",")

theorem runs_names {names : List String} (hne : names ≠ [])
    (hnames : ∀ x ∈ names, Text.isBindingName x = true) {fuel : Nat} (hfuel : names.length ≤ fuel) :
    Runs (listUntil "\x7d" namedSpecifier fuel) (nameTokens names ++ .punct "\x7d" :: rest)
      (fun specs => (specs.map ImportSpecifier.named).map ImportSpecifier.unplaced =
        names.map Imports.specifierOf) rest := by
  induction names generalizing fuel with
  | nil => exact absurd rfl hne
  | cons x xs ih =>
    rw [List.forall_mem_cons] at hnames
    obtain ⟨fuel, rfl⟩ : ∃ n, fuel = n + 1 := ⟨fuel - 1, by rw [List.length_cons] at hfuel; omega⟩
    cases xs with
    | nil =>
      refine runs_listUntil_last (by simp) (by simp [nameTokens])
        (runs_namedSpecifier hnames.1 rfl) fun spec hspec => ?_
      simp [ImportSpecifier.unplaced, hspec, Imports.specifierOf]
    | cons y ys =>
      refine runs_listUntil_more (by simp [nameTokens]) (runs_namedSpecifier hnames.1 rfl)
        (ih (by simp) hnames.2 (by simpa using hfuel)) fun spec hspec specs hspecs => ?_
      rw [List.map_cons, List.map_cons, hspecs]
      simp [ImportSpecifier.unplaced, hspec, Imports.specifierOf]

/-! ## Declarations -/

/-- The tokens after the keyword of a new declaration. -/
def clauseTokens (q : Request) : List Token :=
  .punct "\x7b" :: nameTokens q.names ++
    [.punct "\x7d", .word "from" false, .string q.module (Text.StringLiteral.encode q.module),
      .punct ";"]

def declarationTokens (q : Request) : List Token := .word "import" false :: clauseTokens q

def IsNew (q : Request) (form : ImportForm) : Prop :=
  ∃ d, form = .declaration d ∧ d.unplaced = Imports.declarationOf q.module q.names

section
variable {r : Recur} {q : Request}

/-- From the module on, where no attributes and only the semicolon follow. -/
theorem runs_importSource {specifiers : List ImportSpecifier} (lo : Nat)
    (hspecifiers : specifiers.map ImportSpecifier.unplaced = q.names.map Imports.specifierOf) :
    Runs (importSource r lo false .evaluation specifiers)
      (.string q.module (Text.StringLiteral.encode q.module) :: .punct ";" :: rest) (IsNew q)
      rest := by
  have hattributes : Runs (importAttributes r) (.punct ";" :: rest) (· = none)
      (.punct ";" :: rest) := by
    refine runs_get.bind fun c hc => ?_
    have htoken : c.token = .punct ";" := hc.token_eq
    rw [htoken, if_neg (by simp)]
    exact runs_pure rfl
  refine (runs_literal _ _).bind fun source hsource => hattributes.bind ?_
  rintro _ rfl
  refine runs_semicolon.bind fun _ _ => (runs_spanFrom lo).bind fun _ _ => runs_pure ⟨_, rfl, ?_⟩
  simp [ImportDecl.unplaced, hspecifiers, hsource, Imports.declarationOf]

variable (hq : q.Legal) (hfuel : q.names.length ≤ r.fuel)
include hq hfuel

theorem runs_importBindings (lo : Nat) :
    Runs (importBindings r lo false .evaluation []) (clauseTokens q ++ rest) (IsNew q) rest := by
  simp only [clauseTokens, List.cons_append, List.nil_append, List.append_assoc]
  refine (runs_eat_other (by simp)).bind ?_
  rintro _ rfl
  rw [if_neg (by simp)]
  refine (runs_eat _).bind ?_
  rintro _ rfl
  rw [if_pos rfl]
  refine (runs_names hq.names_ne_nil hq.bindable hfuel).bind fun specs hspecs =>
    (runs_pure rfl).bind ?_
  rintro _ rfl
  exact (runs_expectWord "from").bind fun _ _ => runs_importSource lo hspecs

theorem runs_importForm (lo : Nat) :
    Runs (importForm r lo) (clauseTokens q ++ rest) (IsNew q) rest := by
  refine runs_get.bind fun c hc => ?_
  have htoken : c.token = .punct "\x7b" := hc.token_eq
  rw [htoken]
  refine runs_get.bind fun c' hc' => ?_
  have htoken' : c'.token = .punct "\x7b" := hc'.token_eq
  rw [htoken', if_pos (by rfl)]
  exact runs_importBindings hq hfuel lo

theorem runs_item :
    Runs (item r) (declarationTokens q ++ rest) (fun i => i.unplaced = q.item) rest := by
  have hpos : 0 < r.fuel := Nat.lt_of_lt_of_le (List.length_pos_iff.2 hq.names_ne_nil) hfuel
  have hno : Runs (decorators r) (declarationTokens q ++ rest) (fun _ => True)
      (declarationTokens q ++ rest) := runs_whileTrue_stop hpos (runs_atPunct "@") trivial
  refine runs_start.bind fun lo _ => hno.bind fun _ _ => runs_get.bind fun c hc => ?_
  have htoken : c.token = .word "import" false := hc.token_eq
  have hnext : c.next.token = .punct "\x7b" := hc.next.token_eq
  simp only [htoken, hnext]
  rw [if_pos (by decide)]
  refine (runs_advance _).bind fun _ _ => (runs_importForm hq hfuel c.lo).bind ?_
  rintro _ ⟨d, rfl, hd⟩
  exact runs_pure (congrArg Item.importing hd)

end

/-- A module of new declarations, up to the end of the text. -/
theorem runs_items {r : Recur} {qs : List Request} (hqs : ∀ q ∈ qs, q.Legal)
    (hnames : ∀ q ∈ qs, q.names.length ≤ r.fuel) (hfuel : qs.length < r.fuel) :
    Runs (items r) (qs.flatMap declarationTokens)
      (fun is => is.map Item.unplaced = qs.map Request.item) [] := by
  unfold items
  -- the loop counts down while its items keep the bound of `r`
  generalize r.fuel = fuel at hfuel
  induction qs generalizing fuel with
  | nil =>
    refine runs_whileTrue_stop hfuel (runs_get.bind fun c hc => runs_pure ?_) rfl
    rw [hc.token_eq]; rfl
  | cons q qs ih =>
    rw [List.forall_mem_cons] at hqs hnames
    obtain ⟨fuel, rfl⟩ : ∃ n, fuel = n + 1 := ⟨fuel - 1, by omega⟩
    refine runs_whileTrue_more (runs_get.bind fun c hc => runs_pure ?_)
      (runs_item hqs.1 hnames.1) (ih hqs.2 hnames.2 fuel (by simpa using hfuel))
      fun i hi is his => ?_
    · rw [hc.token_eq]; rfl
    · rw [List.map_cons, List.map_cons, hi, his]

end Grammar

end Codemod
