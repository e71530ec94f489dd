import EdgeInclude.Text.Utf8
import Mathlib.Tactic.SplitIfs

/-!
# Reading UTF-8

The first byte of a character says how many bytes follow it and between which bounds the first
of these lies. The encoding of a character keeps to that, so reading the bytes of a text gives
the text back.

Results:
* `lead?_two`, `lead?_three`, `lead?_four`: what the first byte of an encoded character says.
* `readChar_append`: a character is read from its bytes, whatever follows them.
* `ofUtf8_utf8`: a text is read from its bytes.
* `of_mem_utf8EncodeChar`: only ASCII characters have bytes that are ASCII codes.
-/

namespace EdgeInclude

namespace Text

namespace Utf8

variable {c : Char} {v : Nat}

/-! ## First bytes -/

theorem lead?_two (hmin : 0x80 ≤ v) (hmax : v ≤ 0x7FF) :
    lead? (v / 64 % 32 + 192) = some ⟨1, 0x80, 0xBF, v / 64⟩ := by
  have hbits : v / 64 % 32 + 192 - 0xC0 = v / 64 := by omega
  rw [lead?, if_pos (by omega), hbits]

/-- The first of the following bytes is bounded below by the least character of three bytes, and
    above by the first surrogate. -/
theorem lead?_three (hmin : 0x800 ≤ v) (hmax : v ≤ 0xFFFF) (hvalid : v < 0xD800 ∨ 0xDFFF < v) :
    ∃ low high, lead? (v / 4096 % 16 + 224) = some ⟨2, low, high, v / 4096⟩ ∧
      low ≤ v / 64 % 64 + 128 ∧ v / 64 % 64 + 128 ≤ high := by
  by_cases hleast : v / 4096 = 0
  · refine ⟨0xA0, 0xBF, ?_, by omega, by omega⟩
    rw [hleast]
    rfl
  by_cases hsurrogate : v / 4096 = 13
  · refine ⟨0x80, 0x9F, ?_, by omega, by omega⟩
    rw [hsurrogate]
    rfl
  · have hbits : v / 4096 % 16 + 224 - 0xE0 = v / 4096 := by omega
    refine ⟨0x80, 0xBF, ?_, by omega, by omega⟩
    rw [lead?, if_neg (by omega), if_neg (by omega), if_neg (by omega), if_pos (by omega), hbits]

/-- The first of the following bytes is bounded below by the least character of four bytes, and
    above by the greatest one. -/
theorem lead?_four (hmin : 0x10000 ≤ v) (hmax : v < 0x110000) :
    ∃ low high, lead? (v / 262144 % 8 + 240) = some ⟨3, low, high, v / 262144⟩ ∧
      low ≤ v / 4096 % 64 + 128 ∧ v / 4096 % 64 + 128 ≤ high := by
  by_cases hleast : v / 262144 = 0
  · refine ⟨0x90, 0xBF, ?_, by omega, by omega⟩
    rw [hleast]
    rfl
  by_cases hgreatest : v / 262144 = 4
  · refine ⟨0x80, 0x8F, ?_, by omega, by omega⟩
    rw [hgreatest]
    rfl
  · have hbits : v / 262144 % 8 + 240 - 0xF0 = v / 262144 := by omega
    refine ⟨0x80, 0xBF, ?_, by omega, by omega⟩
    rw [lead?, if_neg (by omega), if_neg (by omega), if_neg (by omega), if_neg (by omega),
      if_neg (by omega), if_pos (by omega), hbits]

/-! ## Characters -/

theorem toNat_byte (h : v < 256) : (UInt8.ofNat v).toNat = v := UInt8.toNat_ofNat_of_lt' h

theorem readChar_of_lead {l : Lead} (hmin : 0x80 ≤ v) (hmax : v < 256) (hl : lead? v = some l)
    (rest : List UInt8) :
    readChar (UInt8.ofNat v) rest = readFollowing l.low l.high l.following l.bits 0 rest := by
  rw [readChar, toNat_byte hmax, if_neg (Nat.not_lt.2 hmin), hl]

theorem readFollowing_cons {low high n bits taken : Nat} {rest : List UInt8} (hmax : v < 256)
    (hlow : low ≤ v) (hhigh : v ≤ high) :
    readFollowing low high (n + 1) bits taken (UInt8.ofNat v :: rest) =
      readFollowing 0x80 0xBF n (bits * 64 + (v - 0x80)) (taken + 1) rest := by
  rw [readFollowing, toNat_byte hmax, if_pos ⟨hlow, hhigh⟩]

theorem readChar_one (hmax : v ≤ 0x7F) (rest : List UInt8) :
    readChar (UInt8.ofNat v) rest = (Char.ofNat v, 0) := by
  rw [readChar, toNat_byte (by omega), if_pos (by omega)]

theorem readChar_two (hmin : 0x80 ≤ v) (hmax : v ≤ 0x7FF) (rest : List UInt8) :
    readChar (UInt8.ofNat (v / 64 % 32 + 192)) (UInt8.ofNat (v % 64 + 128) :: rest) =
      (Char.ofNat v, 1) := by
  have hbits : v / 64 * 64 + (v % 64 + 128 - 0x80) = v := by omega
  rw [readChar_of_lead (by omega) (by omega) (lead?_two hmin hmax)]
  dsimp only
  rw [readFollowing_cons (by omega) (by omega) (by omega), readFollowing, hbits]

theorem readChar_three (hmin : 0x800 ≤ v) (hmax : v ≤ 0xFFFF)
    (hvalid : v < 0xD800 ∨ 0xDFFF < v) (rest : List UInt8) :
    readChar (UInt8.ofNat (v / 4096 % 16 + 224))
        (UInt8.ofNat (v / 64 % 64 + 128) :: UInt8.ofNat (v % 64 + 128) :: rest) =
      (Char.ofNat v, 2) := by
  obtain ⟨low, high, hlead, hlow, hhigh⟩ := lead?_three hmin hmax hvalid
  have hbits : (v / 4096 * 64 + (v / 64 % 64 + 128 - 0x80)) * 64 + (v % 64 + 128 - 0x80) = v := by
    omega
  rw [readChar_of_lead (by omega) (by omega) hlead, readFollowing_cons (by omega) hlow hhigh,
    readFollowing_cons (by omega) (by omega) (by omega), readFollowing, hbits]

theorem readChar_four (hmin : 0x10000 ≤ v) (hmax : v < 0x110000) (rest : List UInt8) :
    readChar (UInt8.ofNat (v / 262144 % 8 + 240))
        (UInt8.ofNat (v / 4096 % 64 + 128) :: UInt8.ofNat (v / 64 % 64 + 128) ::
          UInt8.ofNat (v % 64 + 128) :: rest) =
      (Char.ofNat v, 3) := by
  obtain ⟨low, high, hlead, hlow, hhigh⟩ := lead?_four hmin hmax
  have hbits : ((v / 262144 * 64 + (v / 4096 % 64 + 128 - 0x80)) * 64 +
      (v / 64 % 64 + 128 - 0x80)) * 64 + (v % 64 + 128 - 0x80) = v := by
    omega
  rw [readChar_of_lead (by omega) (by omega) hlead, readFollowing_cons (by omega) hlow hhigh,
    readFollowing_cons (by omega) (by omega) (by omega),
    readFollowing_cons (by omega) (by omega) (by omega), readFollowing, hbits]

/-- The bytes of a character, by its code. -/
theorem utf8EncodeChar_eq (c : Char) :
    String.utf8EncodeChar c =
      let v := c.toNat
      if v ≤ 0x7F then [.ofNat v]
      else if v ≤ 0x7FF then [.ofNat (v / 64 % 32 + 192), .ofNat (v % 64 + 128)]
      else if v ≤ 0xFFFF then
        [.ofNat (v / 4096 % 16 + 224), .ofNat (v / 64 % 64 + 128), .ofNat (v % 64 + 128)]
      else
        [.ofNat (v / 262144 % 8 + 240), .ofNat (v / 4096 % 64 + 128), .ofNat (v / 64 % 64 + 128),
          .ofNat (v % 64 + 128)] := rfl

/-- A character is read from its bytes, whatever follows them. -/
theorem readChar_append (c : Char) :
    ∃ a bytes, String.utf8EncodeChar c = a :: bytes ∧
      ∀ rest, readChar a (bytes ++ rest) = (c, bytes.length) := by
  have hvalid : c.toNat < 0xD800 ∨ 0xDFFF < c.toNat ∧ c.toNat < 0x110000 := c.valid
  have hchar : Char.ofNat c.toNat = c := Char.ofNat_toNat c
  rw [utf8EncodeChar_eq]
  dsimp only
  generalize c.toNat = v at hvalid hchar
  rw [← hchar]
  split_ifs with hone htwo hthree
  · exact ⟨_, _, rfl, fun rest => readChar_one hone rest⟩
  · exact ⟨_, _, rfl, fun rest => readChar_two (by omega) htwo rest⟩
  · exact ⟨_, _, rfl, fun rest => readChar_three (by omega) hthree (by omega) rest⟩
  · exact ⟨_, _, rfl, fun rest => readChar_four (by omega) (by omega) rest⟩

/-- The only byte of an ASCII character is its code, and no byte of any other character is an
    ASCII code. -/
theorem of_mem_utf8EncodeChar {b : UInt8} (h : b ∈ String.utf8EncodeChar c) :
    b.toNat = c.toNat ∨ 0x80 ≤ b.toNat := by
  have hbyte : ∀ {m : Nat}, 0x80 ≤ m → m < 256 → 0x80 ≤ (UInt8.ofNat m).toNat :=
    fun hmin hmax => (toNat_byte hmax).symm ▸ hmin
  rw [utf8EncodeChar_eq] at h
  dsimp only at h
  split_ifs at h with hone htwo hthree
  · left
    rw [List.mem_singleton.1 h]
    exact toNat_byte (by omega)
  all_goals
    right
    simp only [List.mem_cons, List.not_mem_nil, or_false] at h
  · obtain rfl | rfl := h <;> exact hbyte (by omega) (by omega)
  · obtain rfl | rfl | rfl := h <;> exact hbyte (by omega) (by omega)
  · obtain rfl | rfl | rfl | rfl := h <;> exact hbyte (by omega) (by omega)

/-! ## Texts -/

theorem readFrom_append (bytes rest : List UInt8) :
    readFrom bytes.length (bytes ++ rest) = readFrom 0 rest := by
  induction bytes with
  | nil => rfl
  | cons b bytes ih => exact ih

end Utf8

theorem utf8_append (s t : Text) : utf8 (s ++ t) = utf8 s ++ utf8 t := List.flatMap_append

theorem utf8_cons (c : Char) (s : Text) : utf8 (c :: s) = String.utf8EncodeChar c ++ utf8 s :=
  List.flatMap_cons

/-- A text is read from its bytes. -/
theorem ofUtf8_utf8 (s : Text) : ofUtf8 s.utf8 = s := by
  unfold ofUtf8
  induction s with
  | nil => rfl
  | cons c s ih =>
    obtain ⟨a, bytes, hencode, hread⟩ := Utf8.readChar_append c
    rw [utf8_cons, hencode, List.cons_append, Utf8.readFrom, hread, Utf8.readFrom_append, ih]

end Text

end EdgeInclude
