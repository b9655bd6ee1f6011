import Mathlib.Data.List.Lex
import Codemod.Text.Utf8

/-!
# Reading UTF-8

`Utf8.decode` reads bytes from left to right with the character begun as its state. The grammar of
single characters, `Spells`, stands between it and the encoding of characters: the encoding of a
character spells it, bytes that spell a number are the encoding of the character of that number, and
`decodeFrom` takes off exactly one spelling at a time.

The encoding keeps the order of characters: the first byte tells how many there are and grows with
that number, and among spellings of one length the bytes are the digits of the number from the
highest on.

Results:
* `spells_encodeChar`, `Spells.encodeChar`: spellings are the encodings of characters.
* `decodeFrom_spelled`, `spelled_of_decodeFrom`: reading takes off one spelling, and only that.
* `decode_eq_ok_iff`: a text is read from exactly the bytes that it is encoded as.
* `exists_decode_iff`: bytes are read exactly when they are valid.
* `bytesLT_of_lt`: the bytes of texts are ordered as the texts are.
-/
namespace Codemod.Utf8

/-- A byte that goes on with a character. -/
def Tail (b : UInt8) : Prop := 0x80 ≤ b.toNat ∧ b.toNat ≤ 0xBF

/-- The bytes are the spelling of a character's number. The second byte has fewer values behind some
first bytes, so that no number has two spellings, no surrogate one, and none is too large. -/
inductive Spells : List UInt8 → Nat → Prop
  | one {a : UInt8} {v : Nat} (ha : a.toNat < 0x80) (hv : v = a.toNat) : Spells [a] v
  | two {a b : UInt8} {v : Nat} (hlo : 0xC2 ≤ a.toNat) (hhi : a.toNat < 0xE0) (hb : Tail b)
      (hv : v = (a.toNat - 0xC0) * 64 + (b.toNat - 0x80)) : Spells [a, b] v
  | three {a b c : UInt8} {v : Nat} (hlo : 0xE0 ≤ a.toNat) (hhi : a.toNat < 0xF0) (hb : Tail b)
      (hshort : a.toNat = 0xE0 → 0xA0 ≤ b.toNat) (hsurrogate : a.toNat = 0xED → b.toNat ≤ 0x9F)
      (hc : Tail c)
      (hv : v = ((a.toNat - 0xE0) * 64 + (b.toNat - 0x80)) * 64 + (c.toNat - 0x80)) :
      Spells [a, b, c] v
  | four {a b c d : UInt8} {v : Nat} (hlo : 0xF0 ≤ a.toNat) (hhi : a.toNat < 0xF5) (hb : Tail b)
      (hshort : a.toNat = 0xF0 → 0x90 ≤ b.toNat) (hlarge : a.toNat = 0xF4 → b.toNat ≤ 0x8F)
      (hc : Tail c) (hd : Tail d)
      (hv : v = (((a.toNat - 0xF0) * 64 + (b.toNat - 0x80)) * 64 + (c.toNat - 0x80)) * 64 +
        (d.toNat - 0x80)) : Spells [a, b, c, d] v

/-! ## Encoding -/

theorem ofNat_eq {n : Nat} {b : UInt8} (h : n = b.toNat) : UInt8.ofNat n = b := by
  rw [h, UInt8.ofNat_toNat]

theorem char_valid (c : Char) : c.toNat < 0xD800 ∨ 0xDFFF < c.toNat ∧ c.toNat < 0x110000 := c.valid

theorem toNat_charOfNat {v : Nat} (h : v < 0xD800 ∨ 0xDFFF < v ∧ v < 0x110000) :
    (Char.ofNat v).toNat = v := by
  rw [Char.ofNat, dif_pos h]
  rfl

/-- The encoding of a character in terms of its number. -/
theorem encodeChar_eq (c : Char) :
    String.utf8EncodeChar c =
      if c.toNat ≤ 0x7f then [.ofNat c.toNat]
      else if c.toNat ≤ 0x7ff then [.ofNat (c.toNat / 64 % 32 + 0xc0), .ofNat (c.toNat % 64 + 0x80)]
      else if c.toNat ≤ 0xffff then
        [.ofNat (c.toNat / 4096 % 16 + 0xe0), .ofNat (c.toNat / 64 % 64 + 0x80),
          .ofNat (c.toNat % 64 + 0x80)]
      else
        [.ofNat (c.toNat / 262144 % 8 + 0xf0), .ofNat (c.toNat / 4096 % 64 + 0x80),
          .ofNat (c.toNat / 64 % 64 + 0x80), .ofNat (c.toNat % 64 + 0x80)] := rfl

theorem spells_encodeChar (c : Char) : Spells (String.utf8EncodeChar c) c.toNat := by
  have hv := char_valid c
  rw [encodeChar_eq]
  generalize c.toNat = v at hv ⊢
  have htail : ∀ n, Tail (.ofNat (n % 64 + 0x80)) := by
    intro n
    simp only [Tail, UInt8.toNat_ofNat']
    omega
  split
  · refine .one ?_ ?_ <;> simp only [UInt8.toNat_ofNat'] <;> omega
  · split
    · refine .two ?_ ?_ (htail _) ?_ <;> simp only [UInt8.toNat_ofNat'] <;> omega
    · split
      · refine .three ?_ ?_ (htail _) ?_ ?_ (htail _) ?_ <;> simp only [UInt8.toNat_ofNat'] <;> omega
      · refine .four ?_ ?_ (htail _) ?_ ?_ (htail _) (htail _) ?_ <;>
          simp only [UInt8.toNat_ofNat'] <;> omega

/-- Bytes that spell a number are the encoding of its character. -/
theorem Spells.encodeChar {bytes : List UInt8} {v : Nat} (h : Spells bytes v) :
    String.utf8EncodeChar (Char.ofNat v) = bytes := by
  rw [encodeChar_eq]
  cases h with
  | one ha hv => rw [toNat_charOfNat (by omega), if_pos (by omega), ofNat_eq hv]
  | two hlo hhi hb hv =>
    unfold Tail at hb
    rw [toNat_charOfNat (by omega), if_neg (by omega), if_pos (by omega)]
    simp only [List.cons.injEq, and_true]
    exact ⟨ofNat_eq (by omega), ofNat_eq (by omega)⟩
  | three hlo hhi hb hshort hsurrogate hc hv =>
    unfold Tail at hb hc
    rw [toNat_charOfNat (by omega), if_neg (by omega), if_neg (by omega), if_pos (by omega)]
    simp only [List.cons.injEq, and_true]
    exact ⟨ofNat_eq (by omega), ofNat_eq (by omega), ofNat_eq (by omega)⟩
  | four hlo hhi hb hshort hlarge hc hd hv =>
    unfold Tail at hb hc hd
    rw [toNat_charOfNat (by omega), if_neg (by omega), if_neg (by omega), if_neg (by omega)]
    simp only [List.cons.injEq, and_true]
    exact ⟨ofNat_eq (by omega), ofNat_eq (by omega), ofNat_eq (by omega), ofNat_eq (by omega)⟩

/-! ## Reading one character -/

/-- What the first byte of a character may be. -/
inductive Leads : UInt8 → Lead → Prop
  | one {a : UInt8} (ha : a.toNat < 0x80) : Leads a ⟨0, a.toNat, 0, 0⟩
  | two {a : UInt8} (hlo : 0xC2 ≤ a.toNat) (hhi : a.toNat < 0xE0) :
      Leads a ⟨1, a.toNat - 0xC0, 0x80, 0xBF⟩
  | three {a : UInt8} {least most : Nat} (hlo : 0xE0 ≤ a.toNat) (hhi : a.toNat < 0xF0)
      (hleast : least = if a.toNat = 0xE0 then 0xA0 else 0x80)
      (hmost : most = if a.toNat = 0xED then 0x9F else 0xBF) :
      Leads a ⟨2, a.toNat - 0xE0, least, most⟩
  | four {a : UInt8} {least most : Nat} (hlo : 0xF0 ≤ a.toNat) (hhi : a.toNat < 0xF5)
      (hleast : least = if a.toNat = 0xF0 then 0x90 else 0x80)
      (hmost : most = if a.toNat = 0xF4 then 0x8F else 0xBF) :
      Leads a ⟨3, a.toNat - 0xF0, least, most⟩

theorem leads_iff (a : UInt8) (l : Lead) : lead? a = some l ↔ Leads a l := by
  unfold lead?
  dsimp only
  constructor
  · intro h
    split at h
    · cases h; exact .one ‹_›
    · split at h
      · cases h
      · split at h
        · cases h; exact .two (by omega) (by omega)
        · split at h
          · cases h; exact .three (by omega) (by omega) (by simp) (by simp)
          · split at h
            · cases h; exact .four (by omega) (by omega) (by simp) (by simp)
            · cases h
  · intro h
    cases h with
    | one ha => rw [if_pos ha]
    | two hlo hhi => rw [if_neg (by omega), if_neg (by omega), if_pos hhi]
    | three hlo hhi hleast hmost =>
      rw [if_neg (by omega), if_neg (by omega), if_neg (by omega), if_pos hhi, hleast, hmost]
      simp
    | four hlo hhi hleast hmost =>
      rw [if_neg (by omega), if_neg (by omega), if_neg (by omega), if_neg (by omega), if_pos hhi,
        hleast, hmost]
      simp

section
variable {index got bits least most : Nat} {a b : UInt8}

theorem decodeFrom_one (ha : a.toNat < 0x80) (r : List UInt8) :
    decodeFrom index none (a :: r) =
      (decodeFrom (index + 1) none r).map (Char.ofNat a.toNat :: ·) := by
  rw [decodeFrom, (leads_iff a _).2 (.one ha)]
  rfl

theorem decodeFrom_begin {more : Nat} (h : Leads a ⟨more + 1, bits, least, most⟩) (r : List UInt8) :
    decodeFrom index none (a :: r) =
      decodeFrom (index + 1) (some (1, more + 1, bits, least, most)) r := by
  simp only [decodeFrom, (leads_iff a _).2 h]

theorem decodeFrom_last (hlo : least ≤ b.toNat) (hhi : b.toNat ≤ most) (r : List UInt8) :
    decodeFrom index (some (got, 1, bits, least, most)) (b :: r) =
      (decodeFrom (index + 1) none r).map (Char.ofNat (bits * 64 + (b.toNat - 0x80)) :: ·) := by
  have hin : (decide (b.toNat < least) || decide (most < b.toNat)) = false := by
    simp [Nat.not_lt.2 hlo, Nat.not_lt.2 hhi]
  simp only [decodeFrom, hin, Nat.le_refl, if_true, Bool.false_eq_true, if_false]
  rfl

theorem decodeFrom_more {need : Nat} (hlo : least ≤ b.toNat) (hhi : b.toNat ≤ most)
    (r : List UInt8) :
    decodeFrom index (some (got, need + 2, bits, least, most)) (b :: r) =
      decodeFrom (index + 1)
        (some (got + 1, need + 1, bits * 64 + (b.toNat - 0x80), 0x80, 0xBF)) r := by
  have hin : (decide (b.toNat < least) || decide (most < b.toNat)) = false := by
    simp [Nat.not_lt.2 hlo, Nat.not_lt.2 hhi]
  have hneed : ¬ need + 2 ≤ 1 := by omega
  simp only [decodeFrom, hin, hneed, Bool.false_eq_true, if_false, Nat.add_succ_sub_one]

/-- A character that has begun goes on with a byte of its range. -/
theorem decodeFrom_begun {need : Nat} {bytes : List UInt8} {cs : List Char}
    (h : decodeFrom index (some (got, need, bits, least, most)) bytes = .ok cs) :
    ∃ b r, bytes = b :: r ∧ least ≤ b.toNat ∧ b.toNat ≤ most := by
  cases bytes with
  | nil => cases h
  | cons b r =>
    refine ⟨b, r, rfl, ?_⟩
    by_cases hout : b.toNat < least ∨ most < b.toNat
    · have hb : (decide (b.toNat < least) || decide (most < b.toNat)) = true := by
        simpa using hout
      simp only [decodeFrom, hb, if_true] at h
      cases h
    · omega

end

/-- Reading takes a spelling off and goes on behind it. -/
theorem decodeFrom_spelled {s : List UInt8} {v : Nat} (h : Spells s v) (index : Nat)
    (r : List UInt8) :
    decodeFrom index none (s ++ r) =
      (decodeFrom (index + s.length) none r).map (Char.ofNat v :: ·) := by
  cases h with
  | one ha hv =>
    rw [hv]
    exact decodeFrom_one ha r
  | two hlo hhi hb hv =>
    rw [hv]
    exact (decodeFrom_begin (.two hlo hhi) _).trans (decodeFrom_last hb.1 hb.2 r)
  | @three a b c _ hlo hhi hb hshort hsurrogate hc hv =>
    unfold Tail at hb
    have hleast : (if a.toNat = 0xE0 then 0xA0 else 0x80) ≤ b.toNat := by split <;> omega
    have hmost : b.toNat ≤ if a.toNat = 0xED then 0x9F else 0xBF := by split <;> omega
    rw [hv]
    exact (decodeFrom_begin (.three hlo hhi rfl rfl) _).trans
      ((decodeFrom_more hleast hmost _).trans (decodeFrom_last hc.1 hc.2 r))
  | @four a b c d _ hlo hhi hb hshort hlarge hc hd hv =>
    unfold Tail at hb
    have hleast : (if a.toNat = 0xF0 then 0x90 else 0x80) ≤ b.toNat := by split <;> omega
    have hmost : b.toNat ≤ if a.toNat = 0xF4 then 0x8F else 0xBF := by split <;> omega
    rw [hv]
    exact (decodeFrom_begin (.four hlo hhi rfl rfl) _).trans
      ((decodeFrom_more hleast hmost _).trans
        ((decodeFrom_more hc.1 hc.2 _).trans (decodeFrom_last hd.1 hd.2 r)))

/-- Bytes that can be read begin with a spelling, if there are any. -/
theorem spelled_of_decodeFrom {index : Nat} {a : UInt8} {r : List UInt8} {cs : List Char}
    (h : decodeFrom index none (a :: r) = .ok cs) :
    ∃ s v rest, a :: r = s ++ rest ∧ Spells s v := by
  cases hl : lead? a with
  | none =>
    simp only [decodeFrom, hl] at h
    cases h
  | some l =>
    have hlead := (leads_iff a l).1 hl
    cases hlead with
    | one ha => exact ⟨[a], _, r, rfl, .one ha rfl⟩
    | two hlo hhi =>
      rw [decodeFrom_begin (.two hlo hhi)] at h
      obtain ⟨b, r, rfl, hb⟩ := decodeFrom_begun h
      exact ⟨[a, b], _, r, rfl, .two hlo hhi hb rfl⟩
    | three hlo hhi hleast hmost =>
      rw [decodeFrom_begin (.three hlo hhi hleast hmost)] at h
      obtain ⟨b, r, rfl, hblo, hbhi⟩ := decodeFrom_begun h
      rw [decodeFrom_more hblo hbhi] at h
      obtain ⟨c, r, rfl, hc⟩ := decodeFrom_begun h
      refine ⟨[a, b, c], _, r, rfl, .three hlo hhi ⟨?_, ?_⟩ ?_ ?_ hc rfl⟩ <;>
        split at hleast <;> split at hmost <;> omega
    | four hlo hhi hleast hmost =>
      rw [decodeFrom_begin (.four hlo hhi hleast hmost)] at h
      obtain ⟨b, r, rfl, hblo, hbhi⟩ := decodeFrom_begun h
      rw [decodeFrom_more hblo hbhi] at h
      obtain ⟨c, r, rfl, hclo, hchi⟩ := decodeFrom_begun h
      rw [decodeFrom_more hclo hchi] at h
      obtain ⟨d, r, rfl, hd⟩ := decodeFrom_begun h
      refine ⟨[a, b, c, d], _, r, rfl, .four hlo hhi ⟨?_, ?_⟩ ?_ ?_ ⟨hclo, hchi⟩ hd rfl⟩ <;>
        split at hleast <;> split at hmost <;> omega

/-! ## Reading a text -/

theorem map_eq_ok_iff {α β : Type} {f : α → β} {x : Except Fault α} {y : β} :
    x.map f = .ok y ↔ ∃ a, x = .ok a ∧ f a = y := by
  cases x <;> simp [Except.map]

theorem decodeFrom_encode (index : Nat) (cs : List Char) :
    decodeFrom index none (cs.flatMap String.utf8EncodeChar) = .ok cs := by
  induction cs generalizing index with
  | nil => rfl
  | cons c cs ih =>
    rw [List.flatMap_cons, decodeFrom_spelled (spells_encodeChar c), ih, Char.ofNat_toNat]
    rfl

theorem eq_encode_of_decodeFrom {index : Nat} {bytes : List UInt8} {cs : List Char}
    (h : decodeFrom index none bytes = .ok cs) : bytes = cs.flatMap String.utf8EncodeChar := by
  -- by the number of bytes, each time without the first spelling
  induction hn : bytes.length using Nat.strongRecOn generalizing index bytes cs with
  | ind n ih =>
    cases bytes with
    | nil => cases h; rfl
    | cons a r =>
      obtain ⟨s, v, rest, he, hs⟩ := spelled_of_decodeFrom h
      rw [he, decodeFrom_spelled hs, map_eq_ok_iff] at h
      obtain ⟨cs, hrest, rfl⟩ := h
      have hpos : 0 < s.length := by cases hs <;> simp
      have hlen := congrArg List.length he
      rw [hn, List.length_append] at hlen
      rw [he, List.flatMap_cons, hs.encodeChar, ← ih rest.length (by omega) hrest rfl]

theorem toList_loop (bytes : ByteArray) (i : Nat) (r : List UInt8) :
    ByteArray.toList.loop bytes i r = r.reverse ++ bytes.data.toList.drop i := by
  fun_induction ByteArray.toList.loop bytes i r with
  | case1 i r hi ih =>
    have hi' : i < bytes.data.toList.length := hi
    have hget : bytes.get! i = bytes.data.toList[i] := getElem!_pos bytes.data i hi
    rw [ih, List.drop_eq_getElem_cons hi', hget]
    simp
  | case2 i r hi =>
    have hi' : bytes.data.toList.length ≤ i := Nat.not_lt.1 hi
    rw [List.drop_eq_nil_of_le hi', List.append_nil]

theorem toList_eq (bytes : ByteArray) : bytes.toList = bytes.data.toList := toList_loop bytes 0 []

/-- The bytes of a text are the encodings of its characters. -/
theorem bytes_eq (text : String) :
    text.toUTF8.data.toList = text.toList.flatMap String.utf8EncodeChar := by
  rw [String.toUTF8, ← String.utf8Encode_toList, List.utf8Encode, List.toList_data_toByteArray]

/-- A text is read from exactly the bytes that it is encoded as. -/
theorem decode_eq_ok_iff {content : ByteArray} {text : String} :
    decode content.toList = .ok text ↔ text.toUTF8 = content := by
  have hsame : text.toUTF8 = content ↔
      content.data.toList = text.toList.flatMap String.utf8EncodeChar := by
    rw [← bytes_eq, Array.toList_inj, ByteArray.ext_iff]
    exact eq_comm
  rw [decode, map_eq_ok_iff, toList_eq, hsame]
  constructor
  · rintro ⟨cs, hcs, rfl⟩
    rw [String.toList_ofList]
    exact eq_encode_of_decodeFrom hcs
  · intro h
    exact ⟨text.toList, h ▸ decodeFrom_encode 0 text.toList, String.ofList_toList⟩

/-- Bytes can be read exactly when they are valid. -/
theorem exists_decode_iff {content : ByteArray} :
    (∃ text, decode content.toList = .ok text) ↔ content.IsValidUTF8 := by
  constructor
  · rintro ⟨text, h⟩
    rw [← decode_eq_ok_iff.1 h]
    exact text.isValidUTF8
  · exact fun h => ⟨.ofByteArray content h, decode_eq_ok_iff.2 rfl⟩

/-! ## The order of texts -/

/-- One text comes before another byte by byte. -/
def BytesLT (s t : String) : Prop :=
  List.Lex (· < ·) s.toUTF8.data.toList t.toUTF8.data.toList

theorem lex_of_lt {m n : Nat} (hm : m < n) (hn : n < 256) (xs ys : List UInt8) :
    List.Lex (· < ·) (.ofNat m :: xs) (.ofNat n :: ys) := by
  refine .rel ?_
  rw [UInt8.lt_iff_toNat_lt, UInt8.toNat_ofNat', UInt8.toNat_ofNat']
  omega

theorem lex_of_le {m n : Nat} (hm : m ≤ n) (hn : n < 256) {xs ys : List UInt8}
    (h : m = n → List.Lex (· < ·) xs ys) : List.Lex (· < ·) (.ofNat m :: xs) (.ofNat n :: ys) := by
  rcases Nat.lt_or_eq_of_le hm with hlt | rfl
  · exact lex_of_lt hlt hn xs ys
  · exact .cons (h rfl)

/-- The encodings of different characters differ, in the order of the characters, before either
ends. -/
theorem encodeChar_lt {c d : Char} (h : c.toNat < d.toNat) (xs ys : List UInt8) :
    List.Lex (· < ·) (String.utf8EncodeChar c ++ xs) (String.utf8EncodeChar d ++ ys) := by
  have hd := char_valid d
  rw [encodeChar_eq, encodeChar_eq]
  generalize c.toNat = v at h ⊢
  generalize d.toNat = w at h hd ⊢
  -- a shorter encoding has the smaller first byte, those of one length are compared digit by digit
  split
  · split
    · exact lex_of_lt h (by omega) _ _
    · split
      · exact lex_of_lt (by omega) (by omega) _ _
      · split
        · exact lex_of_lt (by omega) (by omega) _ _
        · exact lex_of_lt (by omega) (by omega) _ _
  · rw [if_neg (show ¬ w ≤ 0x7f by omega)]
    split
    · split
      · exact lex_of_le (by omega) (by omega) fun _ => lex_of_lt (by omega) (by omega) _ _
      · split
        · exact lex_of_lt (by omega) (by omega) _ _
        · exact lex_of_lt (by omega) (by omega) _ _
    · rw [if_neg (show ¬ w ≤ 0x7ff by omega)]
      split
      · split
        · exact lex_of_le (by omega) (by omega) fun _ =>
            lex_of_le (by omega) (by omega) fun _ => lex_of_lt (by omega) (by omega) _ _
        · exact lex_of_lt (by omega) (by omega) _ _
      · rw [if_neg (show ¬ w ≤ 0xffff by omega)]
        exact lex_of_le (by omega) (by omega) fun _ =>
          lex_of_le (by omega) (by omega) fun _ =>
            lex_of_le (by omega) (by omega) fun _ => lex_of_lt (by omega) (by omega) _ _

theorem encode_lt {cs ds : List Char} (h : List.Lex (· < ·) cs ds) :
    List.Lex (· < ·) (cs.flatMap String.utf8EncodeChar) (ds.flatMap String.utf8EncodeChar) := by
  induction h with
  | @nil d ds =>
    rw [List.flatMap_nil, List.flatMap_cons]
    cases hd : String.utf8EncodeChar d with
    | nil => exact absurd hd String.utf8EncodeChar_ne_nil
    | cons b bs => exact .nil
  | cons _ ih =>
    rw [List.flatMap_cons, List.flatMap_cons]
    exact List.Lex.append_left _ ih _
  | rel h =>
    rw [List.flatMap_cons, List.flatMap_cons]
    exact encodeChar_lt h _ _

/-- Texts in the order of their characters are in the order of their bytes. -/
theorem bytesLT_of_lt {s t : String} (h : List.Lex (· < ·) s.toList t.toList) : BytesLT s t := by
  rw [BytesLT, bytes_eq, bytes_eq]
  exact encode_lt h

end Codemod.Utf8
