import Codemod.Text.StringLiteral

/-!
# New string literals read back

A new literal holds a text with some of its characters written as escapes. What the escape of one
character can be is said once (`Escaped`): the character itself where it may stand in a literal, or
a backslash with a letter, a zero, or a number in hexadecimal digits. Each of them is read back as
the number of the character, whatever follows; a zero only where no digit follows, for it would be
part of an octal number.

Results:
* `escape_spec`: there are no other escapes.
* `units_escaped`, `units_escapeAll`: one escape, and a whole body, stand for the characters'
  numbers.
* `joinUnits_toNat`: these numbers are no surrogates, and give the characters again.
* `decode_escapeAll`: the body of a new literal has the text that it was made for.
-/
namespace Codemod.Text.StringLiteral

/-! ## Escapes -/

/-- The marks that a new literal stands between. -/
def IsQuote (quote : Char) : Prop := quote = '"' ∨ quote = '\''

theorem isQuote_quoteFor (cs : List Char) : IsQuote (quoteFor cs) := by
  unfold quoteFor
  split
  · exact .inr rfl
  · exact .inl rfl

/-- A character that stands for itself in a literal. -/
structure Plain (quote c : Char) : Prop where
  notQuote : c ≠ quote
  notBackslash : c ≠ '\\'
  notNewline : c ≠ '\n'
  notReturn : c ≠ '\r'

/-- A character that a backslash turns into another one, or leaves as it is. -/
def isSimple (c : Char) : Bool :=
  !(c == 'x' || c == 'u' || c == '\r' || c == '\n' || c.toNat == 0x2028 || c.toNat == 0x2029 ||
    isOctal c)

/-- The ways to write a character between quotes, where `next` is the character after it. -/
inductive Escaped (quote : Char) (next : Option Char) (c : Char) : List Char → Prop
  | plain (h : Plain quote c) : Escaped quote next c [c]
  | simple {e : Char} (he : isSimple e = true) (h : simpleEscape e = c.toNat) :
      Escaped quote next c ['\\', e]
  | zero (h : c.toNat = 0) (hnext : next.any Char.isDigit = false) :
      Escaped quote next c ['\\', '0']
  | hex {a b : Char} (h : hexNumber? [a, b] = some c.toNat) :
      Escaped quote next c ['\\', 'x', a, b]
  | code {a b d e : Char} (ha : a ≠ '\x7b') (h : hexNumber? [a, b, d, e] = some c.toNat) :
      Escaped quote next c ['\\', 'u', a, b, d, e]

theorem hexNumber?_hexDigit : ∀ n < 0x20,
    hexNumber? [hexDigit (n / 16), hexDigit (n % 16)] = some n := by
  decide

theorem escape_spec {quote : Char} (hq : IsQuote quote) (next : Option Char) (c : Char) :
    Escaped quote next c (escape quote next c) := by
  have hplain : ¬ (c == quote) = true → ¬ (c == '\\') = true → ¬ (c == '\n') = true →
      ¬ (c == '\r') = true → Plain quote c := by
    intro hquote hbackslash hnewline hreturn
    simp only [beq_iff_eq] at hquote hbackslash hnewline hreturn
    exact ⟨hquote, hbackslash, hnewline, hreturn⟩
  fun_cases escape quote next c
  case case1 h =>
    obtain rfl := beq_iff_eq.1 h
    rcases hq with rfl | rfl <;> exact .simple rfl rfl
  case case2 h => obtain rfl := beq_iff_eq.1 h; exact .simple rfl rfl
  case case3 h => obtain rfl := beq_iff_eq.1 h; exact .simple rfl rfl
  case case4 h => obtain rfl := beq_iff_eq.1 h; exact .simple rfl rfl
  case case5 h => exact .simple rfl (beq_iff_eq.1 h).symm
  case case6 h => exact .simple rfl (beq_iff_eq.1 h).symm
  case case7 h => exact .simple rfl (beq_iff_eq.1 h).symm
  case case8 h =>
    obtain rfl := beq_iff_eq.1 h
    exact .plain (hplain ‹_› ‹_› ‹_› ‹_›)
  case case9 h _ => exact .hex (by rw [beq_iff_eq.1 h]; decide)
  case case10 h hnext => exact .zero (beq_iff_eq.1 h) (Bool.eq_false_iff.2 hnext)
  case case11 h => exact .hex (hexNumber?_hexDigit c.toNat h)
  case case12 h => exact .code (by decide) (by rw [beq_iff_eq.1 h]; decide)
  case case13 h => exact .code (by decide) (by rw [beq_iff_eq.1 h]; decide)
  case case14 h => exact .code (by decide) (by rw [beq_iff_eq.1 h]; decide)
  case case15 => exact .plain (hplain ‹_› ‹_› ‹_› ‹_›)

/-- The first character of an escape is a backslash, unless it is the character itself. -/
theorem Escaped.head {quote : Char} {next : Option Char} {c : Char} {out : List Char}
    (h : Escaped quote next c out) (rest : List Char) :
    (out ++ rest).head? = some '\\' ∨ (out ++ rest).head? = some c := by
  cases h with
  | plain => exact .inr rfl
  | _ => exact .inl rfl

/-! ## Reading one escape -/

theorem units_plain {quote c : Char} (h : Plain quote c) (rest : List Char) :
    units (c :: rest) = (units rest).map (c.toNat :: ·) := by
  rw [units.eq_def]
  split
  · rename_i heq; cases heq
  · rename_i heq
    exact absurd (List.cons.inj heq).1 h.notBackslash
  · rename_i heq
    obtain ⟨rfl, rfl⟩ := List.cons.inj heq
    rfl

theorem units_simple {e : Char} (he : isSimple e = true) (rest : List Char) :
    units ('\\' :: e :: rest) = (units rest).map (simpleEscape e :: ·) := by
  simp only [isSimple, Bool.not_eq_true', Bool.or_eq_false_iff] at he
  obtain ⟨⟨⟨⟨⟨⟨hx, hu⟩, hr⟩, hn⟩, hls⟩, hps⟩, ho⟩ := he
  rw [units.eq_def]
  simp only [hx, hu, hr, hn, hls, hps, ho, Bool.or_false, Bool.false_eq_true, if_false]
  rfl

theorem units_zero {rest : List Char} (h : rest.head?.any isOctal = false) :
    units ('\\' :: '0' :: rest) = (units rest).map (0 :: ·) := by
  have hzero : isOctal '0' = true ∧ octalValue '0' = 0 := by decide
  cases rest with
  | nil => rw [units.eq_def, units.eq_def]; rfl
  | cons d rest =>
    have hd : isOctal d = false := h
    rw [units.eq_def]
    simp only [hzero, hd]
    rfl

theorem units_hex {a b : Char} {n : Nat} (h : hexNumber? [a, b] = some n) (rest : List Char) :
    units ('\\' :: 'x' :: a :: b :: rest) = (units rest).map (n :: ·) := by
  rw [units.eq_def]
  simp only [h]
  rw [if_pos (beq_self_eq_true 'x')]
  cases units rest <;> rfl

theorem units_code {a b d e : Char} {n : Nat} (ha : a ≠ '\x7b')
    (h : hexNumber? [a, b, d, e] = some n) (rest : List Char) :
    units ('\\' :: 'u' :: a :: b :: d :: e :: rest) = (units rest).map (n :: ·) := by
  rw [units.eq_def]
  simp only [h]
  rw [if_neg (by decide), if_pos (beq_self_eq_true 'u')]
  cases units rest <;> rfl

/-- An escape stands for its character's number. After a zero no octal digit may follow. -/
theorem units_escaped {quote : Char} {next : Option Char} {c : Char} {out : List Char}
    (h : Escaped quote next c out) {rest : List Char}
    (hrest : next.any Char.isDigit = false → rest.head?.any isOctal = false) :
    units (out ++ rest) = (units rest).map (c.toNat :: ·) := by
  cases h with
  | plain h => exact units_plain h rest
  | simple he h => rw [← h]; exact units_simple he rest
  | zero h hnext => rw [h]; exact units_zero (hrest hnext)
  | hex h => exact units_hex h rest
  | code ha h => exact units_code ha h rest

/-! ## A whole body -/

theorem isDigit_of_isOctal {c : Char} (h : isOctal c = true) : c.isDigit = true := by
  simp only [isOctal, Bool.and_eq_true, decide_eq_true_eq] at h
  simp only [Char.isDigit, Bool.and_eq_true, decide_eq_true_eq]
  exact ⟨h.1, Nat.le_trans h.2 (by decide)⟩

theorem head_escapeAll {quote : Char} (hq : IsQuote quote) (cs : List Char)
    (h : cs.head?.any Char.isDigit = false) : (escapeAll quote cs).head?.any isOctal = false := by
  cases cs with
  | nil => rfl
  | cons c cs =>
    rw [escapeAll]
    rcases (escape_spec hq cs.head? c).head (escapeAll quote cs) with hhead | hhead
    · rw [hhead]; rfl
    · rw [hhead, Option.any_some, Bool.eq_false_iff]
      intro hoctal
      rw [List.head?_cons, Option.any_some, isDigit_of_isOctal hoctal] at h
      cases h

theorem units_escapeAll {quote : Char} (hq : IsQuote quote) (cs : List Char) :
    units (escapeAll quote cs) = some (cs.map Char.toNat) := by
  induction cs with
  | nil => rw [escapeAll, units.eq_def]; rfl
  | cons c cs ih =>
    rw [escapeAll, units_escaped (escape_spec hq cs.head? c) (head_escapeAll hq cs), ih]
    rfl

/-- Characters are no surrogates. -/
theorem joinUnits_toNat (cs : List Char) : joinUnits (cs.map Char.toNat) = some cs := by
  induction cs with
  | nil => rw [List.map_nil, joinUnits]
  | cons c cs ih =>
    have hv : c.toNat < 0xD800 ∨ 0xDFFF < c.toNat ∧ c.toNat < 0x110000 := c.valid
    have hhigh : isHighSurrogate c.toNat = false := by
      simp only [isHighSurrogate, Bool.and_eq_false_iff, decide_eq_false_iff_not]
      omega
    have hlow : isLowSurrogate c.toNat = false := by
      simp only [isLowSurrogate, Bool.and_eq_false_iff, decide_eq_false_iff_not]
      omega
    rw [List.map_cons, joinUnits.eq_def]
    simp only [hhigh, hlow, Bool.false_eq_true, if_false, ih, Char.ofNat_toNat]
    rfl

theorem decode_escapeAll {quote : Char} (hq : IsQuote quote) (cs : List Char) :
    decode (escapeAll quote cs) = some (String.ofList cs) := by
  rw [decode, units_escapeAll hq, Option.map_some, joinUnits_toNat, Option.getD_some]

end Codemod.Text.StringLiteral
