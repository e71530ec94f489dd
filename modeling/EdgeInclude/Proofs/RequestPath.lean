import EdgeInclude.Proofs.Text.Parts
import EdgeInclude.Proofs.Text.Utf8
import EdgeInclude.RequestPath
import Mathlib.Tactic.IntervalCases

/-!
# Documents carried in request paths

A document stands in a path between two slashes, with any of its characters percent-encoded.
A percent sign that is not encoded could be taken for the start of an escape, so it is the one
character that must be. What is decoded is not decoded again, and the bytes of a character can
only be escaped all together, so a document comes out of every such path as it went in.

Results:
* `percentDecode_of_encoded`: a text is decoded from any of its encodings.
* `documentOfPath_of_encoded`: a document is found in any path that carries it.
-/

namespace EdgeInclude

namespace Text

/-! ## Encoded texts -/

/-- The hexadecimal digit of a value below 16, in either letter case. -/
def IsHexDigit (n : Nat) (c : Char) : Prop := c = n.digitChar ∨ c = n.digitChar.toUpper

/-- A byte written as a percent sign and its two hexadecimal digits. -/
inductive IsEscape (b : UInt8) : Text → Prop where
  | digits {h l : Char} (high : IsHexDigit (b.toNat / 16) h) (low : IsHexDigit (b.toNat % 16) l) :
      IsEscape b ['%', h, l]

/-- A character of a path: any but the percent sign may stand for itself, and all may have their
    bytes in UTF-8 escaped. -/
inductive IsEncodedChar (c : Char) : Text → Prop where
  | plain (h : c ≠ '%') : IsEncodedChar c [c]
  | escaped {parts : List Text} (h : List.Forall₂ IsEscape (String.utf8EncodeChar c) parts) :
      IsEncodedChar c parts.flatten

/-- A text with each character encoded in a way of its own. -/
inductive IsEncoded : Text → Text → Prop where
  | nil : IsEncoded [] []
  | cons {c : Char} {s e f : Text} (char : IsEncodedChar c e) (rest : IsEncoded s f) :
      IsEncoded (c :: s) (e ++ f)

/-! ## Decoding -/

variable {c : Char} {s e : Text} {b : UInt8} {n : Nat}

theorem hexByte?_of_isHexDigit (hn : n < 16) (h : IsHexDigit n c) :
    ∃ d, String.utf8EncodeChar c = [d] ∧ hexByte? d = some n := by
  obtain rfl | rfl := h <;> interval_cases n <;> exact ⟨_, rfl, rfl⟩

/-- An escape is decoded to its byte, whatever follows it. -/
theorem percentDecodeBytes_escape (h : IsEscape b e) (rest : List UInt8) :
    percentDecodeBytes (utf8 e ++ rest) = b :: percentDecodeBytes rest := by
  obtain @⟨h, l, high, low⟩ := h
  have hlt : b.toNat < 256 := b.toNat_lt
  obtain ⟨d, hd, hhigh⟩ := hexByte?_of_isHexDigit (by omega) high
  obtain ⟨d', hd', hlow⟩ := hexByte?_of_isHexDigit (by omega) low
  have hbytes : utf8 ['%', h, l] ++ rest = 0x25 :: d :: d' :: rest := by
    rw [utf8_cons, utf8_cons, utf8_cons, hd, hd']
    rfl
  have hbyte : b.toNat / 16 * 16 + b.toNat % 16 = b.toNat := by omega
  rw [hbytes, percentDecodeBytes, hhigh, hlow]
  dsimp only
  rw [hbyte, UInt8.ofNat_toNat]

/-- Escapes are decoded to their bytes. -/
theorem percentDecodeBytes_escapes {bytes : List UInt8} {parts : List Text}
    (h : List.Forall₂ IsEscape bytes parts) (rest : List UInt8) :
    percentDecodeBytes (utf8 parts.flatten ++ rest) = bytes ++ percentDecodeBytes rest := by
  induction h with
  | nil => rfl
  | cons hb _ ih =>
    rw [List.flatten_cons, utf8_append, List.append_assoc, percentDecodeBytes_escape hb, ih,
      List.cons_append]

/-- Bytes other than the percent sign stand for themselves. -/
theorem percentDecodeBytes_append {bytes : List UInt8} (h : ∀ b ∈ bytes, b ≠ 0x25)
    (rest : List UInt8) : percentDecodeBytes (bytes ++ rest) = bytes ++ percentDecodeBytes rest := by
  induction bytes with
  | nil => rfl
  | cons b bytes ih =>
    obtain ⟨hb, hbytes⟩ := List.forall_mem_cons.1 h
    rw [List.cons_append, percentDecodeBytes.eq_2 b _ fun _ _ _ heq _ => hb heq, ih hbytes,
      List.cons_append]

/-- The percent sign is the only character with the byte that escapes begin with. -/
theorem ne_of_mem_utf8EncodeChar (hc : c ≠ '%') : ∀ b ∈ String.utf8EncodeChar c, b ≠ 0x25 := by
  rintro _ hb rfl
  obtain hcode | hcode := Utf8.of_mem_utf8EncodeChar hb
  · exact hc (Char.toNat_inj.1 hcode.symm)
  · revert hcode
    decide

/-- A character is decoded to its bytes, whatever follows it. -/
theorem percentDecodeBytes_char (h : IsEncodedChar c e) (rest : List UInt8) :
    percentDecodeBytes (utf8 e ++ rest) = String.utf8EncodeChar c ++ percentDecodeBytes rest := by
  cases h with
  | plain hc =>
    have hbytes : utf8 [c] = String.utf8EncodeChar c := List.append_nil _
    rw [hbytes, percentDecodeBytes_append (ne_of_mem_utf8EncodeChar hc)]
  | escaped h => exact percentDecodeBytes_escapes h rest

/-- A text is decoded from any of its encodings. -/
theorem percentDecode_of_encoded (h : IsEncoded s e) : percentDecode e = s := by
  have hbytes : percentDecodeBytes e.utf8 = s.utf8 := by
    induction h with
    | nil => rfl
    | cons char _ ih => rw [utf8_append, percentDecodeBytes_char char, ih, utf8_cons]
  rw [percentDecode, hbytes, ofUtf8_utf8]

end Text

/-! ## Documents -/

theorem withoutSlashes_between (document : Text) :
    withoutSlashes ('/' :: document ++ ['/']) = document := by
  have hfront : Text.after? ['/'] ('/' :: document ++ ['/']) = some (document ++ ['/']) :=
    Text.after?_eq_some_iff.2 rfl
  have hback : Text.beforeSuffix? ['/'] (document ++ ['/']) = some document :=
    Text.beforeSuffix?_eq_some_iff.2 rfl
  rw [withoutSlashes, hfront, Option.getD_some, hback, Option.getD_some]

/-- For every document and every encoding of it with a slash on either side, in which each percent
    sign is escaped and each other character stands for itself or has all its bytes escaped, with
    digits of either case: the document that the path carries is exactly this one. -/
theorem documentOfPath_of_encoded {document path : Text}
    (h : Text.IsEncoded ('/' :: document ++ ['/']) path) : documentOfPath path = document := by
  rw [documentOfPath, Text.percentDecode_of_encoded h, withoutSlashes_between]

/-- A document that begins with a slash itself and holds what could be taken for an escape. -/
theorem documentOfPath_of_encoded_mixed :
    Text.IsEncoded ('/' :: "/%41é".toList ++ ['/']) "%2F/%2541%c3%A9/".toList ∧
      documentOfPath "%2F/%2541%c3%A9/".toList = "/%41é".toList := by
  have slash : Text.IsEncodedChar '/' [['%', '2', 'F']].flatten :=
    .escaped (.cons (.digits (.inl rfl) (.inr rfl)) .nil)
  have percent : Text.IsEncodedChar '%' [['%', '2', '5']].flatten :=
    .escaped (.cons (.digits (.inl rfl) (.inl rfl)) .nil)
  have accent : Text.IsEncodedChar 'é' [['%', 'c', '3'], ['%', 'A', '9']].flatten :=
    .escaped (.cons (.digits (.inl rfl) (.inl rfl)) (.cons (.digits (.inr rfl) (.inl rfl)) .nil))
  have h : Text.IsEncoded ['/', '/', '%', '4', '1', 'é', '/'] "%2F/%2541%c3%A9/".toList :=
    .cons slash (.cons (.plain (by decide)) (.cons percent (.cons (.plain (by decide))
      (.cons (.plain (by decide)) (.cons accent (.cons (.plain (by decide)) .nil))))))
  exact ⟨h, documentOfPath_of_encoded h⟩

end EdgeInclude
