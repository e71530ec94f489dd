import EdgeInclude.Text.Blank

/-!
# Characters by code

The classes of characters that names, numbers and blanks are made of, as ranges of
codes, and what follows from that: which of them have nothing in common.

Results:
* `eq_of_sameLetter`: letter case makes a difference for letters only.
* `isNameChar_eq_false_of_isBlank`: names hold no blanks.
-/

namespace EdgeInclude

namespace Text

theorem toNat_toLower (c : Char) :
    c.toLower.toNat = if 65 ≤ c.toNat ∧ c.toNat ≤ 90 then c.toNat + 32 else c.toNat := by
  have hval : c.val.toNat = c.toNat := rfl
  unfold Char.toLower
  simp only [ge_iff_le, UInt32.le_iff_toNat_le, hval]
  split
  · next h =>
    have h : 65 ≤ c.toNat ∧ c.toNat ≤ 90 := h
    rw [if_pos h]
    show (c.val + 32).toNat = _
    rw [UInt32.toNat_add, hval]
    show (c.toNat + 32) % 2 ^ 32 = c.toNat + 32
    omega
  · next h =>
    have h : ¬(65 ≤ c.toNat ∧ c.toNat ≤ 90) := h
    rw [if_neg h]

theorem isAlpha_iff {c : Char} :
    c.isAlpha = true ↔ 65 ≤ c.toNat ∧ c.toNat ≤ 90 ∨ 97 ≤ c.toNat ∧ c.toNat ≤ 122 := by
  show (decide (65 ≤ c.val ∧ c.val ≤ 90) ||
    decide (97 ≤ c.val) && decide (c.val ≤ 122)) = true ↔ _
  simp only [Bool.or_eq_true, Bool.and_eq_true, decide_eq_true_eq, UInt32.le_iff_toNat_le]
  exact Iff.rfl

theorem isDigit_iff {c : Char} : c.isDigit = true ↔ 48 ≤ c.toNat ∧ c.toNat ≤ 57 := by
  simp only [Char.isDigit, ge_iff_le, UInt32.le_iff_toNat_le, Bool.and_eq_true, decide_eq_true_eq]
  exact Iff.rfl

/-- Letter case makes a difference for letters only. -/
theorem eq_of_sameLetter {c d : Char} (hd : d.isAlpha = false) (h : sameLetter c d = true) :
    c = d := by
  have hd : ¬(65 ≤ d.toNat ∧ d.toNat ≤ 90 ∨ 97 ≤ d.toNat ∧ d.toNat ≤ 122) := by
    rw [← isAlpha_iff, hd]
    exact Bool.false_ne_true
  have hlower : c.toLower = d.toLower := by simpa [sameLetter] using h
  have hcode := congrArg Char.toNat hlower
  rw [toNat_toLower, toNat_toLower] at hcode
  apply Char.toNat_inj.1
  split at hcode <;> split at hcode <;> omega

theorem isNameChar_eq_false_of_isBlank {c : Char} (h : isBlank c = true) :
    isNameChar c = false := by
  have hcode : c.toNat ≤ 0x20 ∨ 0x85 ≤ c.toNat := by
    simp only [isBlank, Bool.or_eq_true, Bool.and_eq_true, decide_eq_true_eq, beq_iff_eq] at h
    omega
  have halpha : c.isAlpha = false := by
    rw [← Bool.not_eq_true, isAlpha_iff]
    omega
  have hdigit : c.isDigit = false := by
    rw [← Bool.not_eq_true, isDigit_iff]
    omega
  have hunderscore : c ≠ '_' := by
    rintro rfl
    revert hcode
    decide
  simp [isNameChar, Char.isAlphanum, halpha, hdigit, hunderscore]

theorem isBlank_eq_false_of_isNameChar {c : Char} (h : isNameChar c = true) :
    isBlank c = false := by
  rw [← Bool.not_eq_true]
  intro hblank
  rw [isNameChar_eq_false_of_isBlank hblank] at h
  cases h

theorem isBlank_eq_false_of_isAlpha {c : Char} (h : c.isAlpha = true) : isBlank c = false :=
  isBlank_eq_false_of_isNameChar (by simp [isNameChar, Char.isAlphanum, h])

theorem isBlank_eq_false_of_isDigit {c : Char} (h : c.isDigit = true) : isBlank c = false :=
  isBlank_eq_false_of_isNameChar (by simp [isNameChar, Char.isAlphanum, h])

end Text

end EdgeInclude
