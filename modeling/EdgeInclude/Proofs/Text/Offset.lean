import EdgeInclude.Proofs.Text.Utf8

/-!
# Offsets in bytes

Where the characters of a text begin in its bytes. The first byte of a character is told from
those that continue one, so an offset of a first byte, or of the end, is where a text can be cut.
Bytes of a text that stand in those of another one begin with a first byte, so they are found
nowhere but where the text itself stands.

Results:
* `exists_append_of_utf8`: a text whose bytes begin with those of another one begins with it.
* `exists_append_of_drop`: a text can be cut where a first byte stands.
* `utf8_prefix_drop_iff`: the bytes of a text are found where the text stands.
-/

namespace EdgeInclude

namespace Text

namespace Utf8

/-- Whether a byte continues a character that a byte before it has begun. -/
def isContinuation (b : UInt8) : Bool := decide (0x80 ≤ b.toNat ∧ b.toNat < 0xC0)

theorem isContinuation_ofNat {m : Nat} (hmin : 0x80 ≤ m) (hmax : m < 0xC0) :
    isContinuation (.ofNat m) = true := by
  rw [isContinuation, toNat_byte (by omega)]
  exact decide_eq_true ⟨hmin, hmax⟩

theorem not_isContinuation_ofNat {m : Nat} (hmax : m < 256) (h : m < 0x80 ∨ 0xC0 ≤ m) :
    isContinuation (.ofNat m) = false := by
  rw [isContinuation, toNat_byte hmax]
  exact decide_eq_false (by omega)

/-- The first byte of a character begins it, and all others continue it. -/
theorem utf8EncodeChar_eq_cons (c : Char) :
    ∃ a bytes, String.utf8EncodeChar c = a :: bytes ∧ isContinuation a = false ∧
      ∀ b ∈ bytes, isContinuation b = true := by
  have hvalid : c.toNat < 0xD800 ∨ 0xDFFF < c.toNat ∧ c.toNat < 0x110000 := c.valid
  rw [utf8EncodeChar_eq]
  dsimp only
  generalize c.toNat = v at hvalid
  have hfollow : ∀ {bs : List UInt8}, (∀ b ∈ bs, ∃ m, b = .ofNat (m % 64 + 128)) →
      ∀ b ∈ bs, isContinuation b = true := by
    intro bs hbs b hb
    obtain ⟨m, rfl⟩ := hbs b hb
    exact isContinuation_ofNat (by omega) (by omega)
  split_ifs with hone htwo hthree
  · exact ⟨_, _, rfl, not_isContinuation_ofNat (by omega) (by omega), nofun⟩
  · exact ⟨_, _, rfl, not_isContinuation_ofNat (by omega) (by omega),
      hfollow (List.forall_mem_cons.2 ⟨⟨_, rfl⟩, nofun⟩)⟩
  · exact ⟨_, _, rfl, not_isContinuation_ofNat (by omega) (by omega),
      hfollow (List.forall_mem_cons.2 ⟨⟨_, rfl⟩, List.forall_mem_cons.2 ⟨⟨_, rfl⟩, nofun⟩⟩)⟩
  · exact ⟨_, _, rfl, not_isContinuation_ofNat (by omega) (by omega),
      hfollow (List.forall_mem_cons.2 ⟨⟨_, rfl⟩, List.forall_mem_cons.2 ⟨⟨_, rfl⟩,
        List.forall_mem_cons.2 ⟨⟨_, rfl⟩, nofun⟩⟩⟩)⟩

/-- A character is the first of a text whose bytes begin with its own. -/
theorem eq_of_utf8EncodeChar_append {c d : Char} {rest rest' : List UInt8}
    (h : String.utf8EncodeChar c ++ rest = String.utf8EncodeChar d ++ rest') : c = d := by
  obtain ⟨a, bytes, hc, hreadc⟩ := readChar_append c
  obtain ⟨a', bytes', hd, hreadd⟩ := readChar_append d
  rw [hc, hd, List.cons_append, List.cons_append, List.cons.injEq] at h
  obtain ⟨rfl, hrest⟩ := h
  have hread := hreadc rest
  rw [hrest, hreadd rest'] at hread
  exact (Prod.mk.inj hread).1.symm

end Utf8

open Utf8

variable {needle s t u v : Text} {rest : List UInt8} {o : Nat}

@[simp] theorem byteCount_nil : byteCount [] = 0 := rfl

theorem byteCount_append (s t : Text) : (s ++ t).byteCount = s.byteCount + t.byteCount := by
  rw [byteCount, utf8_append, List.length_append, byteCount, byteCount]

theorem length_utf8 (s : Text) : s.utf8.length = s.byteCount := rfl

theorem byteCount_singleton (c : Char) : byteCount [c] = (String.utf8EncodeChar c).length := by
  rw [byteCount, utf8_cons, show utf8 [] = [] from rfl, List.append_nil]

theorem byteCount_pos (h : s ≠ []) : 0 < s.byteCount := by
  obtain ⟨c, cs, rfl⟩ := List.exists_cons_of_ne_nil h
  obtain ⟨a, bytes, hc, -⟩ := utf8EncodeChar_eq_cons c
  rw [byteCount, utf8_cons, hc]
  exact Nat.succ_pos _

theorem byteCount_sub_append (u v : Text) : (u ++ v).byteCount - v.byteCount = u.byteCount := by
  rw [byteCount_append, Nat.add_sub_cancel]

/-- A text has no more characters than bytes. -/
theorem length_le_byteCount (s : Text) : s.length ≤ s.byteCount := by
  induction s with
  | nil => exact Nat.le_refl _
  | cons c s ih =>
    have hpos := byteCount_pos (List.cons_ne_nil c [])
    have hcount : byteCount (c :: s) = byteCount [c] + byteCount s := byteCount_append [c] s
    rw [List.length_cons]
    omega

/-- Where the bytes of one text begin those of another one, so do the texts. -/
theorem exists_append_of_utf8 (h : s.utf8 = t.utf8 ++ rest) : ∃ r, s = t ++ r ∧ rest = r.utf8 := by
  induction t generalizing s with
  | nil => exact ⟨s, rfl, h.symm⟩
  | cons c t ih =>
    cases s with
    | nil =>
      obtain ⟨a, bytes, hc, -⟩ := utf8EncodeChar_eq_cons c
      rw [utf8_cons, hc] at h
      cases h
    | cons d s =>
      rw [utf8_cons, utf8_cons, List.append_assoc] at h
      obtain rfl := eq_of_utf8EncodeChar_append h
      obtain ⟨r, rfl, hrest⟩ := ih (List.append_cancel_left h)
      exact ⟨r, rfl, hrest⟩

theorem utf8_prefix_iff : needle.utf8 <+: s.utf8 ↔ needle <+: s := by
  constructor
  · rintro ⟨rest, h⟩
    obtain ⟨r, rfl, -⟩ := exists_append_of_utf8 h.symm
    exact List.prefix_append _ _
  · rintro ⟨r, rfl⟩
    rw [utf8_append]
    exact List.prefix_append _ _

theorem drop_byteCount (u v : Text) : (u ++ v).utf8.drop u.byteCount = v.utf8 := by
  rw [utf8_append, byteCount, List.drop_left]

/-- A text can be cut where a byte stands that does not continue a character. -/
theorem exists_append_of_drop {b : UInt8} (h : s.utf8.drop o = b :: rest)
    (hb : isContinuation b = false) : ∃ u v, s = u ++ v ∧ o = u.byteCount := by
  induction s generalizing o with
  | nil =>
    rw [show utf8 [] = [] from rfl, List.drop_nil] at h
    cases h
  | cons c s ih =>
    obtain ⟨a, bytes, hc, -, hcontinue⟩ := utf8EncodeChar_eq_cons c
    rw [utf8_cons] at h
    by_cases hinside : o < (String.utf8EncodeChar c).length
    · -- Inside of a character only the first offset is that of a first byte.
      cases o with
      | zero => exact ⟨[], c :: s, rfl, rfl⟩
      | succ o =>
        rw [hc, List.length_cons] at hinside
        rw [hc, List.cons_append, List.drop_succ_cons,
          List.drop_append_of_le_length (by omega)] at h
        obtain ⟨b', bs, hdrop⟩ :=
          List.exists_cons_of_ne_nil (mt List.drop_eq_nil_iff.1 (by omega : ¬bytes.length ≤ o))
        rw [hdrop, List.cons_append, List.cons.injEq] at h
        have hmem : b' ∈ bytes := List.mem_of_mem_drop (hdrop ▸ List.mem_cons_self)
        rw [← h.1, hcontinue b' hmem] at hb
        cases hb
    · rw [List.drop_append, List.drop_eq_nil_of_le (by omega), List.nil_append] at h
      obtain ⟨u, v, rfl, ho⟩ := ih h
      refine ⟨c :: u, v, rfl, ?_⟩
      rw [byteCount, utf8_cons, List.length_append, length_utf8]
      omega

/-- The bytes of a text stand in those of another one where the text itself stands. -/
theorem utf8_prefix_drop_iff (hne : needle ≠ []) :
    needle.utf8 <+: s.utf8.drop o ↔
      ∃ u v, s = u ++ v ∧ o = u.byteCount ∧ needle <+: v := by
  constructor
  · rintro ⟨rest, hrest⟩
    obtain ⟨c, cs, rfl⟩ := List.exists_cons_of_ne_nil hne
    obtain ⟨a, bytes, hc, ha, -⟩ := utf8EncodeChar_eq_cons c
    have hfirst : s.utf8.drop o = a :: (bytes ++ utf8 cs ++ rest) := by
      rw [← hrest, utf8_cons, hc]
      simp
    obtain ⟨u, v, rfl, rfl⟩ := exists_append_of_drop hfirst ha
    rw [drop_byteCount] at hrest
    exact ⟨u, v, rfl, rfl, utf8_prefix_iff.1 ⟨rest, hrest⟩⟩
  · rintro ⟨u, v, rfl, rfl, h⟩
    rw [drop_byteCount]
    exact utf8_prefix_iff.2 h

end Text

end EdgeInclude
