/-!
# Bytes as text

`Utf8.decode` reads bytes as UTF-8. Where they are not, the fault tells where the broken sequence
starts and how many of its bytes could still have begun a character; a sequence that the end of the
bytes cuts off has no such number.
-/
namespace Codemod.Utf8

/-- A sequence of bytes that is no character. -/
structure Fault where
  index : Nat
  /-- The bytes of the broken sequence, or nothing when the bytes end inside it. -/
  length : Option Nat
deriving DecidableEq, Repr

def Fault.message (f : Fault) : String :=
  match f.length with
  | some n => s!"invalid utf-8 sequence of {n} bytes from index {f.index}"
  | none => s!"incomplete utf-8 byte sequence from index {f.index}"

/-- The first byte of a character: its number of further bytes, its own bits, and the range in which
the second byte lies. -/
structure Lead where
  more : Nat
  bits : Nat
  least : Nat
  most : Nat

def lead? (b : UInt8) : Option Lead :=
  let n := b.toNat
  if n < 0x80 then some ⟨0, n, 0, 0⟩
  else if n < 0xC2 then none
  else if n < 0xE0 then some ⟨1, n - 0xC0, 0x80, 0xBF⟩
  else if n < 0xF0 then
    some ⟨2, n - 0xE0, if n == 0xE0 then 0xA0 else 0x80, if n == 0xED then 0x9F else 0xBF⟩
  else if n < 0xF5 then
    some ⟨3, n - 0xF0, if n == 0xF0 then 0x90 else 0x80, if n == 0xF4 then 0x8F else 0xBF⟩
  else none

/-- Reads bytes: `index` bytes are read, and `pending` is the character begun, with the bytes that
it has, the bytes that it needs, its bits so far and the range of its next byte. -/
def decodeFrom (index : Nat) : Option (Nat × Nat × Nat × Nat × Nat) → List UInt8 →
    Except Fault (List Char)
  | none, [] => .ok []
  | some (got, _, _, _, _), [] => .error ⟨index - got, none⟩
  | none, b :: r =>
    match lead? b with
    | none => .error ⟨index, some 1⟩
    | some ⟨0, bits, _, _⟩ => do
      return Char.ofNat bits :: (← decodeFrom (index + 1) none r)
    | some ⟨more, bits, least, most⟩ => decodeFrom (index + 1) (some (1, more, bits, least, most)) r
  | some (got, need, bits, least, most), b :: r =>
    let n := b.toNat
    if n < least || most < n then .error ⟨index - got, some got⟩
    else
      let bits := bits * 64 + (n - 0x80)
      if need ≤ 1 then do
        return Char.ofNat bits :: (← decodeFrom (index + 1) none r)
      else decodeFrom (index + 1) (some (got + 1, need - 1, bits, 0x80, 0xBF)) r

def decode (bytes : List UInt8) : Except Fault String :=
  (decodeFrom 0 none bytes).map String.ofList

end Codemod.Utf8
