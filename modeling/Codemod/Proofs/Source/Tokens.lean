import Mathlib.Data.List.TakeDrop
import Codemod.Proofs.Text.StringLiteral
import Codemod.Source.Cursor

/-!
# The tokens of a text

`Lexed cs ts` says that the text `cs` is the tokens `ts` with blanks before them, without saying
where they stand. A cursor that has entered such a text is on its first token, and moving on takes
the tokens one by one (`Cursor.Reads`), so that what is read from the text depends on the tokens
alone.

Results:
* `scan_word`, `scan_string`, `scan_punct`: a name, a new literal and a mark of import clauses are
  each one token, where nothing follows that would go on with them.
* `scan_gap`: blanks between tokens are skipped.
* `Lexed.enter`, `Cursor.Reads.next`: entering a text, and moving on in it.
-/
namespace Codemod

open Text

/-! ## String literals -/

namespace Token

open StringLiteral

theorem plain_of_hexValue? {quote c : Char} (hq : IsQuote quote) {n : Nat}
    (h : hexValue? c = some n) : Plain quote c := by
  have hnone : hexValue? '"' = none ∧ hexValue? '\'' = none ∧ hexValue? '\\' = none ∧
      hexValue? '\n' = none ∧ hexValue? '\r' = none := by decide
  obtain ⟨hdouble, hsingle, hbackslash, hnewline, hreturn⟩ := hnone
  refine ⟨?_, ?_, ?_, ?_⟩
  · rintro rfl
    rcases hq with rfl | rfl
    · rw [hdouble] at h; cases h
    · rw [hsingle] at h; cases h
  · rintro rfl; rw [hbackslash] at h; cases h
  · rintro rfl; rw [hnewline] at h; cases h
  · rintro rfl; rw [hreturn] at h; cases h

theorem hexValue?_of_hexNumber? {cs : List Char} {n : Nat} (h : hexNumber? cs = some n) :
    ∀ c ∈ cs, ∃ v, hexValue? c = some v := by
  unfold hexNumber? at h
  generalize 0 = start at h
  induction cs generalizing start with
  | nil => simp
  | cons c cs ih =>
    rw [List.foldlM_cons, Option.bind_eq_bind, Option.bind_eq_some_iff] at h
    obtain ⟨next, hnext, hrest⟩ := h
    rw [Option.map_eq_some_iff] at hnext
    obtain ⟨v, hv, -⟩ := hnext
    exact List.forall_mem_cons.2 ⟨⟨v, hv⟩, ih next hrest⟩

theorem stringBody_plain {quote c : Char} (h : Plain quote c) (rest : List Char) :
    stringBody quote (c :: rest) = (stringBody quote rest).map fun p => (c :: p.1, p.2) := by
  have hquote : (c == quote) = false := beq_eq_false_iff_ne.2 h.notQuote
  have hline : (c == '\n' || c == '\r') = false := by
    rw [Bool.or_eq_false_iff]
    exact ⟨beq_eq_false_iff_ne.2 h.notNewline, beq_eq_false_iff_ne.2 h.notReturn⟩
  rw [stringBody.eq_def]
  split
  · rename_i heq; cases heq
  · rename_i heq; exact absurd (List.cons.inj heq).1 h.notBackslash
  · rename_i heq; exact absurd (List.cons.inj heq).1 h.notBackslash
  · rename_i heq
    obtain ⟨rfl, rfl⟩ := List.cons.inj heq
    simp only [hquote, hline, Bool.false_eq_true, if_false]
    cases stringBody quote rest <;> rfl

theorem stringBody_backslash {quote e : Char} (he : e ≠ '\r') (rest : List Char) :
    stringBody quote ('\\' :: e :: rest) =
      (stringBody quote rest).map fun p => ('\\' :: e :: p.1, p.2) := by
  rw [stringBody.eq_def]
  split
  · rename_i heq; cases heq
  · rename_i heq; exact absurd (List.cons.inj (List.cons.inj heq).2).1 he
  · rename_i heq
    obtain ⟨-, heq⟩ := List.cons.inj heq
    obtain ⟨rfl, rfl⟩ := List.cons.inj heq
    cases stringBody quote rest <;> rfl
  · rename_i hno heq
    obtain ⟨rfl, rfl⟩ := List.cons.inj heq
    exact (hno e rest rfl rfl).elim

/-- An escape is part of the body, up to its last character. -/
theorem stringBody_escaped {quote : Char} (hq : IsQuote quote) {next : Option Char} {c : Char}
    {out : List Char} (h : Escaped quote next c out) (rest : List Char) :
    stringBody quote (out ++ rest) = (stringBody quote rest).map fun p => (out ++ p.1, p.2) := by
  have hdigits : ∀ {digits : List Char} {n : Nat}, hexNumber? digits = some n →
      stringBody quote (digits ++ rest) =
        (stringBody quote rest).map fun p => (digits ++ p.1, p.2) := by
    intro digits n hn
    have hplain : ∀ d ∈ digits, Plain quote d := fun d hd =>
      let ⟨_, hv⟩ := hexValue?_of_hexNumber? hn d hd
      plain_of_hexValue? hq hv
    clear hn
    induction digits with
    | nil => simp
    | cons d digits ih =>
      rw [List.forall_mem_cons] at hplain
      rw [List.cons_append, stringBody_plain hplain.1, ih hplain.2, Option.map_map]
      rfl
  cases h with
  | plain h => exact stringBody_plain h rest
  | @simple e he _ =>
    refine stringBody_backslash ?_ rest
    rintro rfl
    revert he
    decide
  | zero => exact stringBody_backslash (by decide) rest
  | @hex a b h =>
    rw [List.cons_append, List.cons_append, stringBody_backslash (by decide), hdigits h,
      Option.map_map]
    rfl
  | @code a b d e _ h =>
    rw [List.cons_append, List.cons_append, stringBody_backslash (by decide), hdigits h,
      Option.map_map]
    rfl

theorem stringBody_escapeAll {quote : Char} (hq : IsQuote quote) (cs rest : List Char) :
    stringBody quote (escapeAll quote cs ++ quote :: rest) = some (escapeAll quote cs, rest) := by
  induction cs with
  | nil => rcases hq with rfl | rfl <;> rfl
  | cons c cs ih =>
    rw [escapeAll, List.append_assoc, stringBody_escaped hq (escape_spec hq cs.head? c), ih]
    rfl

/-- A new literal is one token, with the text that it was made for. -/
theorem scan_string (s : String) (rest : List Char) :
    ∃ width, scan ((encode s).toList ++ rest) = ⟨.string s (encode s), width, rest⟩ := by
  have hq := isQuote_quoteFor s.toList
  have hbody := stringBody_escapeAll hq s.toList rest
  have hdecode := decode_escapeAll hq s.toList
  rw [String.ofList_toList] at hdecode
  have htext : (encode s).toList ++ rest =
      quoteFor s.toList :: (escapeAll (quoteFor s.toList) s.toList ++ quoteFor s.toList :: rest) := by
    simp [encode]
  refine ⟨(escapeAll (quoteFor s.toList) s.toList).length + 2, ?_⟩
  have hscan : scan ((encode s).toList ++ rest) = scanString (quoteFor s.toList)
      (escapeAll (quoteFor s.toList) s.toList ++ quoteFor s.toList :: rest) := by
    rw [htext]
    rcases hq with hq | hq <;> rw [hq] <;> rfl
  rw [hscan, scanString, hbody]
  simp only [hdecode]
  rfl

/-! ## Words and marks -/

theorem isIdentPart_of_isIdentStart {c : Char} (h : isIdentStart c = true) :
    isIdentPart c = true := by
  unfold isIdentStart at h
  unfold isIdentPart
  split at h
  · rename_i hascii
    rw [if_pos hascii]
    simp only [Char.isAlphanum, Bool.or_eq_true] at h ⊢
    rcases h with (h | h) | h
    · exact .inl (.inl (.inl h))
    · exact .inl (.inr h)
    · exact .inr h
  · rename_i hascii
    rw [if_neg hascii, h, Bool.true_or]

/-- The text goes on with nothing that could be part of a word. -/
def EndsWord (rest : List Char) : Prop :=
  rest.head?.any (fun c => isIdentPart c || c == '\\') = false

/-- A name is one token. -/
theorem scan_word {s : String} (h : isIdentifier s = true) {rest : List Char}
    (hrest : EndsWord rest) :
    scan (s.toList ++ rest) = ⟨.word s false, s.toList.length, rest⟩ := by
  unfold isIdentifier at h
  split at h
  · cases h
  · rename_i c cs hs
    rw [Bool.and_eq_true] at h
    have hstop : rest.takeWhile isIdentPart = [] ∧ rest.dropWhile isIdentPart = rest := by
      cases rest with
      | nil => exact ⟨rfl, rfl⟩
      | cons d rest =>
        have hd : (isIdentPart d || d == '\\') = false := hrest
        rw [Bool.or_eq_false_iff] at hd
        simp [List.takeWhile, List.dropWhile, hd.1]
    have hall : ∀ d ∈ c :: cs, isIdentPart d = true :=
      List.forall_mem_cons.2 ⟨isIdentPart_of_isIdentStart h.1, List.all_eq_true.1 h.2⟩
    have hspan : (c :: cs ++ rest).span isIdentPart = (c :: cs, rest) := by
      rw [List.span_eq_takeWhile_dropWhile, List.takeWhile_append_of_pos hall,
        List.dropWhile_append_of_pos hall, hstop.1, hstop.2, List.append_nil]
    have hscan : scan (c :: cs ++ rest) = scanWord (c :: cs ++ rest) := by
      simp [scan, h.1]
    rw [hs, hscan, scanWord, hspan]
    dsimp only
    split
    · cases hrest
    · rw [← hs, String.ofList_toList]

theorem scan_punct {p : String} (hp : p ∈ ["\x7b", "\x7d", ",", ";"]) (rest : List Char) :
    scan (p.toList ++ rest) = ⟨.punct p, 1, rest⟩ := by
  simp only [List.mem_cons, List.not_mem_nil, or_false] at hp
  rcases hp with rfl | rfl | rfl | rfl <;> rfl

end Token

/-! ## Blanks -/

/-- A character that a token can begin with: no blank, and not the first one of a comment. -/
def beginsToken (c : Char) : Bool := !(isBlank c || c == '/' || c == '<' || c == '-')

def blankCodes : List Nat :=
  [0x09, 0x0A, 0x0B, 0x0C, 0x0D, 0x20, 0x85, 0xA0, 0x1680, 0x2000, 0x2001, 0x2002, 0x2003, 0x2004,
   0x2005, 0x2006, 0x2007, 0x2008, 0x2009, 0x200A, 0x2028, 0x2029, 0x202F, 0x205F, 0x3000, 0xFEFF]

theorem mem_blankCodes {c : Char} (h : isBlank c = true) : c.toNat ∈ blankCodes := by
  simp only [isBlank, isInlineBlank, isLineEnd, Bool.or_eq_true, beq_iff_eq, Bool.and_eq_true,
    decide_eq_true_eq, List.contains_iff_mem] at h
  rcases h with (((rfl | rfl) | h) | h) | ((rfl | rfl) | h) | h
  · decide
  · decide
  · exact (by decide : ∀ n ∈ [0x0B, 0x0C, 0x85, 0xA0, 0x1680, 0x202F, 0x205F, 0x3000, 0xFEFF],
      n ∈ blankCodes) _ h
  · simp only [blankCodes, List.mem_cons]
    omega
  · decide
  · decide
  · rw [h]; decide
  · rw [h]; decide

/-- No identifier begins with a blank. -/
theorem isIdentStart_blankCodes : ∀ n ∈ blankCodes, isIdentStart (Char.ofNat n) = false := by
  decide +kernel

theorem beginsToken_of_isIdentStart {c : Char} (h : isIdentStart c = true) :
    beginsToken c = true := by
  have hnot : isIdentStart '/' = false ∧ isIdentStart '<' = false ∧ isIdentStart '-' = false := by
    decide
  have hblank : isBlank c = false := by
    rw [Bool.eq_false_iff]
    intro hb
    have hstart := isIdentStart_blankCodes c.toNat (mem_blankCodes hb)
    rw [Char.ofNat_toNat, h] at hstart
    cases hstart
  have hne : ∀ d, isIdentStart d = false → (c == d) = false := by
    intro d hd
    rw [beq_eq_false_iff_ne]
    rintro rfl
    rw [h] at hd
    cases hd
  simp [beginsToken, hblank, hne '/' hnot.1, hne '<' hnot.2.1, hne '-' hnot.2.2]

namespace Trivia

variable (last : Option Token) (lastHi : Nat)

/-- At a token nothing is skipped. -/
theorem scan_token (t : Trivia) {c : Char} (hc : beginsToken c = true) (cs : List Char) :
    scan last lastHi .blank t (c :: cs) = some { t with rest := c :: cs } := by
  simp only [beginsToken, isBlank, Bool.not_eq_true', Bool.or_eq_false_iff, beq_eq_false_iff_ne] at hc
  obtain ⟨⟨⟨⟨hinline, hline⟩, hslash⟩, hless⟩, hdash⟩ := hc
  have hmarkup : t.closesMarkup (c :: cs) = false := by
    simp [closesMarkup, hdash]
  rw [scan]
  · simp [hline, hinline, hmarkup]
  · exact fun _ h _ => hslash h
  · exact fun _ h _ => hless h
  · exact fun _ h _ => hslash h

/-- Blanks are skipped, up to a place where nothing is to be skipped. -/
theorem scan_gap {gap : List Char} (hgap : ∀ c ∈ gap, isBlank c = true) (cs : List Char)
    (hcs : ∀ t : Trivia, ∃ t', scan last lastHi .blank t cs = some t' ∧ t'.rest = cs) (t : Trivia) :
    ∃ t', scan last lastHi .blank t (gap ++ cs) = some t' ∧ t'.rest = cs := by
  induction gap generalizing t with
  | nil => exact hcs t
  | cons c gap ih =>
    rw [List.forall_mem_cons] at hgap
    have hne : ∀ d, isBlank d = false → c ≠ d := by
      rintro d hd rfl
      rw [hgap.1] at hd
      cases hd
    have hblank := hgap.1
    rw [isBlank, Bool.or_eq_true] at hblank
    rw [List.cons_append, scan]
    · split
      · exact ih hgap.2 _
      · rename_i hline
        rw [if_pos (hblank.resolve_right hline)]
        exact ih hgap.2 _
    · exact fun _ h _ => hne '/' (by decide) h
    · exact fun _ h _ => hne '<' (by decide) h
    · exact fun _ h _ => hne '/' (by decide) h

end Trivia

/-! ## Texts and their tokens -/

/-- The text is the tokens, with blanks before each and at the end. -/
inductive Lexed : List Char → List Token → Prop
  | done {gap : List Char} (hgap : ∀ c ∈ gap, isBlank c = true) : Lexed gap []
  | token {gap cs rest : List Char} {c : Char} {t : Token} {width : Nat} {ts : List Token}
      (hgap : ∀ c ∈ gap, isBlank c = true) (hc : beginsToken c = true)
      (hscan : Token.scan (c :: cs) = ⟨t, width, rest⟩) (h : Lexed rest ts) :
      Lexed (gap ++ c :: cs) (t :: ts)

/-- The cursor is on the first of the tokens, or at the end, and the others follow. -/
structure Cursor.Reads (c : Cursor) (ts : List Token) : Prop where
  token_eq : c.token = ts.headD .eof
  rest : Lexed c.rest ts.tail

theorem Lexed.enter {cs : List Char} {ts : List Token} (h : Lexed cs ts) (dialect : Dialect)
    (scope : Scope) (comments : Comments) (last : Option Token) (lastHi pos : Nat) :
    (Cursor.enter dialect scope comments last lastHi pos cs).Reads ts := by
  cases h with
  | @done gap hgap =>
    obtain ⟨t, hscan, hrest⟩ := Trivia.scan_gap last lastHi hgap [] (fun t => ⟨_, rfl, rfl⟩)
      ⟨pos, last.isNone, [], comments, []⟩
    rw [List.append_nil] at hscan
    unfold Cursor.enter
    rw [hscan]
    refine ⟨?_, ?_⟩
    · simp [hrest, Token.scan]
    · simp only [hrest, Token.scan]
      exact .done (by simp)
  | @token gap cs rest c t width ts hgap hc hscan h =>
    obtain ⟨trivia, htrivia, hrest⟩ := Trivia.scan_gap last lastHi hgap (c :: cs)
      (fun t => ⟨_, Trivia.scan_token last lastHi t hc cs, rfl⟩) ⟨pos, last.isNone, [], comments, []⟩
    unfold Cursor.enter
    rw [htrivia]
    refine ⟨?_, ?_⟩
    · simp [hrest, hscan]
    · simp only [hrest, hscan]
      exact h

theorem Cursor.Reads.next {c : Cursor} {ts : List Token} (h : c.Reads ts) : c.next.Reads ts.tail :=
  h.rest.enter ..

namespace Lexed

variable {gap rest : List Char} {ts : List Token} (hgap : ∀ c ∈ gap, isBlank c = true)
  (h : Lexed rest ts)
include hgap h

theorem word {s : String} (hs : isIdentifier s = true) (hrest : Token.EndsWord rest) :
    Lexed (gap ++ (s.toList ++ rest)) (.word s false :: ts) := by
  have hscan := Token.scan_word hs hrest
  unfold isIdentifier at hs
  split at hs
  · cases hs
  · rename_i c cs hcs
    rw [Bool.and_eq_true] at hs
    rw [hcs, List.cons_append] at hscan ⊢
    exact .token hgap (beginsToken_of_isIdentStart hs.1) hscan h

theorem string (s : String) :
    Lexed (gap ++ ((StringLiteral.encode s).toList ++ rest))
      (.string s (StringLiteral.encode s) :: ts) := by
  obtain ⟨width, hscan⟩ := Token.scan_string s rest
  have htext : (StringLiteral.encode s).toList ++ rest =
      StringLiteral.quoteFor s.toList ::
        (StringLiteral.escapeAll (StringLiteral.quoteFor s.toList) s.toList ++
          StringLiteral.quoteFor s.toList :: rest) := by
    simp [StringLiteral.encode]
  rw [htext] at hscan ⊢
  refine .token hgap ?_ hscan h
  rcases StringLiteral.isQuote_quoteFor s.toList with hq | hq <;> rw [hq] <;> decide

theorem punct {p : String} (hp : p ∈ ["\x7b", "\x7d", ",", ";"]) :
    Lexed (gap ++ (p.toList ++ rest)) (.punct p :: ts) := by
  have hscan := Token.scan_punct hp rest
  simp only [List.mem_cons, List.not_mem_nil, or_false] at hp
  rcases hp with rfl | rfl | rfl | rfl <;> exact .token hgap (by decide) hscan h

end Lexed

end Codemod
