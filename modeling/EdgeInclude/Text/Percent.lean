import EdgeInclude.Text.Utf8

/-!
# Percent-encoded texts

Reading of texts in which bytes are written as `%` and two hexadecimal digits.
A `%` that is not followed by two such digits stands for itself.

A model of `adapter::percent_decode`.
-/

namespace EdgeInclude

namespace Text

/-- The value of a byte that is the ASCII code of a hexadecimal digit (`adapter::from_hex`). -/
def hexByte? (b : UInt8) : Option Nat :=
  if b.toNat < 128 then hexDigit? (Char.ofNat b.toNat) else none

/-- Replaces each escape by the byte that it stands for. -/
def percentDecodeBytes : List UInt8 → List UInt8
  | 0x25 :: h :: l :: rest =>
    match hexByte? h, hexByte? l with
    | some high, some low => UInt8.ofNat (high * 16 + low) :: percentDecodeBytes rest
    | _, _ => 0x25 :: percentDecodeBytes (h :: l :: rest)
  | b :: rest => b :: percentDecodeBytes rest
  | [] => []

/-- Replaces each escape, and reads the resulting bytes as UTF-8 (`adapter::percent_decode`). -/
def percentDecode (s : Text) : Text := ofUtf8 (percentDecodeBytes s.utf8)

/-- Whether the bytes that a text stands for are UTF-8. -/
def isPercentDecodable (s : Text) : Bool := s.percentDecode.utf8 == percentDecodeBytes s.utf8

end Text

end EdgeInclude
