import EdgeInclude.Text.Basic

/-!
# Texts as bytes

The UTF-8 encoding of a text, and the reading of arbitrary bytes as a text. A
byte sequence that encodes nothing is read as one replacement character for
each longest part of it that could have begun a character.
-/

namespace EdgeInclude

namespace Text

/-- The bytes of a text in UTF-8 (`str::as_bytes`). -/
def utf8 (s : Text) : List UInt8 := s.flatMap String.utf8EncodeChar

/-- The number of bytes of a text in UTF-8. -/
def byteCount (s : Text) : Nat := s.utf8.length

namespace Utf8

/-- The character that stands for bytes that encode none. -/
def replacement : Char := Char.ofNat 0xFFFD

/-- What a first byte announces: how many bytes follow it, the bounds of the first of
    these, and the bits that it brings itself. -/
structure Lead where
  following : Nat
  low : Nat
  high : Nat
  bits : Nat

/-- The first bytes of characters outside ASCII. The narrower bounds exclude overlong forms,
    surrogates and code points that do not exist. -/
def lead? (a : Nat) : Option Lead :=
  if 0xC2 ≤ a ∧ a ≤ 0xDF then some ⟨1, 0x80, 0xBF, a - 0xC0⟩
  else if a = 0xE0 then some ⟨2, 0xA0, 0xBF, 0⟩
  else if a = 0xED then some ⟨2, 0x80, 0x9F, 0xD⟩
  else if 0xE1 ≤ a ∧ a ≤ 0xEF then some ⟨2, 0x80, 0xBF, a - 0xE0⟩
  else if a = 0xF0 then some ⟨3, 0x90, 0xBF, 0⟩
  else if 0xF1 ≤ a ∧ a ≤ 0xF3 then some ⟨3, 0x80, 0xBF, a - 0xF0⟩
  else if a = 0xF4 then some ⟨3, 0x80, 0x8F, 4⟩
  else none

/-- Reads `n` more bytes after the `taken` ones read so far, whose bits are `bits`; `low`
    and `high` bound the next byte. Returns the character and how many bytes of the
    input belong to it. -/
def readFollowing (low high : Nat) : Nat → Nat → Nat → List UInt8 → Char × Nat
  | 0, bits, taken, _ => (Char.ofNat bits, taken)
  | _ + 1, _, taken, [] => (replacement, taken)
  | n + 1, bits, taken, b :: bs =>
    if low ≤ b.toNat ∧ b.toNat ≤ high then
      readFollowing 0x80 0xBF n (bits * 64 + (b.toNat - 0x80)) (taken + 1) bs
    else (replacement, taken)

/-- The character that begins with the byte `a`, and how many of the bytes after `a` belong
    to it. -/
def readChar (a : UInt8) (rest : List UInt8) : Char × Nat :=
  if a.toNat < 0x80 then (Char.ofNat a.toNat, 0)
  else
    match lead? a.toNat with
    | none => (replacement, 0)
    | some l => readFollowing l.low l.high l.following l.bits 0 rest

/-- Reads bytes as characters; the first `skip` bytes belong to a character already read. -/
def readFrom : Nat → List UInt8 → Text
  | _, [] => []
  | skip + 1, _ :: bs => readFrom skip bs
  | 0, a :: bs => (readChar a bs).1 :: readFrom (readChar a bs).2 bs

end Utf8

/-- The text that bytes encode, with replacement characters for what encodes nothing
    (`String::from_utf8_lossy`). -/
def ofUtf8 (bytes : List UInt8) : Text := Utf8.readFrom 0 bytes

end Text

end EdgeInclude
