import EdgeInclude.Integer
import EdgeInclude.Proofs.Text.Character

/-!
# Integers as they are written

The texts that are read as an integer of 64 bits: its decimal form, and the same with
zeros before its digits. A number out of range is not read, however it is written.

Results:
* `isDecimal_iff`: digits stand for a number exactly if they are those of its decimal
  form after zeros.
* `parse?_eq_some_iff`, `parse?_eq_some_iff_isSigned`: what is read as an integer.
-/

namespace EdgeInclude

namespace Text

/-- Whether a text is the decimal form of a number, after any number of zeros. -/
def IsDecimal (n : Nat) (s : Text) : Prop := ∃ zeros, s = List.replicate zeros '0' ++ ofNat n

theorem isDecimal_ofNat (n : Nat) : IsDecimal n (ofNat n) := ⟨0, rfl⟩

theorem toDigits_value {c : Char} (h : c.isDigit = true) :
    Nat.toDigits 10 (c.toNat - '0'.toNat) = [c] := by
  have hcode : 48 ≤ c.toNat ∧ c.toNat ≤ 57 := isDigit_iff.1 h
  show Nat.toDigits 10 (c.toNat - 48) = [c]
  have hlt : c.toNat - 48 < 10 := by omega
  have hchar : Nat.digitChar (c.toNat - 48) = c := by
    apply Char.toNat_inj.1
    rw [Nat.toNat_digitChar_of_lt_ten hlt]
    omega
  rw [Nat.toDigits_of_lt_base hlt, hchar]

/-- Digits after those of a positive number go on with its decimal form. -/
theorem toDigits_append {n : Nat} {s : Text} (hn : 0 < n) (h : ∀ c ∈ s, c.isDigit = true) :
    Nat.toDigits 10 n ++ s = Nat.toDigits 10 (Nat.ofDigitChars 10 s n) := by
  induction s generalizing n with
  | nil => simp
  | cons c cs ih =>
    have hc : c.isDigit = true := h c List.mem_cons_self
    have hlt : c.toNat - '0'.toNat < 10 := by
      have hcode := isDigit_iff.1 hc
      show c.toNat - 48 < 10
      omega
    calc Nat.toDigits 10 n ++ c :: cs
        = (Nat.toDigits 10 n ++ Nat.toDigits 10 (c.toNat - '0'.toNat)) ++ cs := by
          rw [toDigits_value hc, List.append_assoc, List.singleton_append]
      _ = Nat.toDigits 10 (10 * n + (c.toNat - '0'.toNat)) ++ cs := by
          rw [Nat.toDigits_append_toDigits (by decide) hn hlt]
      _ = Nat.toDigits 10 (Nat.ofDigitChars 10 (c :: cs) n) := by
          rw [ih (by omega) fun d hd => h d (List.mem_cons_of_mem c hd), Nat.ofDigitChars_cons]

theorem isDecimal_of_digits {s : Text} (hs : s ≠ []) (h : ∀ c ∈ s, c.isDigit = true) :
    IsDecimal (Nat.ofDigitChars 10 s 0) s := by
  induction s with
  | nil => exact absurd rfl hs
  | cons c cs ih =>
    have hc : c.isDigit = true := h c List.mem_cons_self
    have hcs : ∀ d ∈ cs, d.isDigit = true := fun d hd => h d (List.mem_cons_of_mem c hd)
    rw [Nat.ofDigitChars_cons, Nat.mul_zero, Nat.zero_add]
    by_cases hzero : c = '0'
    · subst hzero
      cases cs with
      | nil => exact ⟨0, rfl⟩
      | cons d ds =>
        -- a zero before other digits
        obtain ⟨zeros, hzeros⟩ := ih (List.cons_ne_nil d ds) hcs
        exact ⟨zeros + 1, congrArg ('0' :: ·) hzeros⟩
    · have hpos : 0 < c.toNat - '0'.toNat := by
        have hcode := isDigit_iff.1 hc
        have hne : c.toNat ≠ 48 := fun h => hzero (Char.toNat_inj.1 h)
        show 0 < c.toNat - 48
        omega
      refine ⟨0, ?_⟩
      show c :: cs = Nat.toDigits 10 _
      rw [← toDigits_append hpos hcs, toDigits_value hc]
      rfl

theorem isDecimal_iff {n : Nat} {s : Text} :
    IsDecimal n s ↔ s ≠ [] ∧ (∀ c ∈ s, c.isDigit = true) ∧ n = Nat.ofDigitChars 10 s 0 := by
  constructor
  · rintro ⟨zeros, rfl⟩
    have hzeros : ∀ k, Nat.ofDigitChars 10 (List.replicate k '0') 0 = 0 := by
      intro k
      induction k with
      | zero => rfl
      | succ k ih => rw [List.replicate_succ, Nat.ofDigitChars_cons]; exact ih
    refine ⟨?_, ?_, ?_⟩
    · exact List.append_ne_nil_of_right_ne_nil _ Nat.toDigits_ne_nil
    · intro c hc
      obtain hc | hc := List.mem_append.1 hc
      · rw [List.eq_of_mem_replicate hc]
        rfl
      · exact Nat.isDigit_of_mem_toDigits (by decide) (by decide) hc
    · rw [Nat.ofDigitChars_append, hzeros, ofNat, Nat.ofDigitChars_toDigits (by decide) (by decide)]
  · rintro ⟨hs, hdigits, rfl⟩
    exact isDecimal_of_digits hs hdigits

theorem mapM_decimalDigit?_eq_some_iff {s : Text} {digits : List Nat} :
    s.mapM decimalDigit? = some digits ↔
      (∀ c ∈ s, c.isDigit = true) ∧ s.map (fun c => c.toNat - '0'.toNat) = digits := by
  induction s generalizing digits with
  | nil => simp [List.mapM_nil]
  | cons c cs ih =>
    rw [List.mapM_cons, List.forall_mem_cons, List.map_cons, decimalDigit?]
    by_cases hc : c.isDigit = true
    · rw [if_pos hc]
      simp only [Option.bind_eq_bind, Option.bind_some, Option.bind_eq_some_iff, ih,
        Option.pure_def, Option.some.injEq, hc, true_and]
      constructor
      · rintro ⟨_, ⟨hdigits, rfl⟩, rfl⟩
        exact ⟨hdigits, rfl⟩
      · rintro ⟨hdigits, rfl⟩
        exact ⟨_, ⟨hdigits, rfl⟩, rfl⟩
    · simp [hc]

/-- A text is read as a number exactly if it is the decimal form of it, after zeros. -/
theorem readNumber?_eq_some_iff {n : Nat} {s : Text} :
    readNumber? 10 decimalDigit? s = some n ↔ IsDecimal n s := by
  have hvalue : ofDigits 10 (s.map fun c => c.toNat - '0'.toNat) = Nat.ofDigitChars 10 s 0 := by
    simp only [ofDigits, Nat.ofDigitChars, List.foldl_map, Nat.mul_comm]
  rw [isDecimal_iff]
  cases s with
  | nil => simp [readNumber?]
  | cons c cs =>
    rw [readNumber?, Option.map_eq_some_iff]
    · simp only [mapM_decimalDigit?_eq_some_iff, ne_eq, List.cons_ne_nil, not_false_eq_true,
        true_and]
      constructor
      · rintro ⟨_, ⟨hdigits, rfl⟩, rfl⟩
        exact ⟨hdigits, hvalue⟩
      · rintro ⟨hdigits, rfl⟩
        exact ⟨_, ⟨hdigits, rfl⟩, hvalue⟩
    · exact List.cons_ne_nil c cs

end Text

namespace Integer

/-- Whether a text is an integer as it is written: with a minus sign before a negative one,
    and maybe before zero, and with any number of zeros before its digits. -/
def IsWritten (i : Int64) (s : Text) : Prop :=
  0 ≤ i.toInt ∧ Text.IsDecimal i.toInt.natAbs s ∨
    i.toInt ≤ 0 ∧ ∃ digits, s = '-' :: digits ∧ Text.IsDecimal i.toInt.natAbs digits

theorem isWritten_toText (i : Int64) : IsWritten i (toText i) := by
  unfold toText Text.ofInt IsWritten
  cases i.toInt with
  | ofNat n => exact .inl ⟨Int.natCast_nonneg n, Text.isDecimal_ofNat n⟩
  | negSucc n => exact .inr ⟨by omega, _, rfl, Text.isDecimal_ofNat (n + 1)⟩

theorem IsWritten.head {i : Int64} {s : Text} (h : IsWritten i s) :
    ∃ c cs, s = c :: cs ∧ (c.isDigit || c == '-') = true := by
  obtain ⟨-, hs⟩ | ⟨-, digits, rfl, -⟩ := h
  · obtain ⟨hne, hdigits, -⟩ := Text.isDecimal_iff.1 hs
    obtain ⟨c, cs, rfl⟩ := List.exists_cons_of_ne_nil hne
    exact ⟨c, cs, rfl, by rw [hdigits c List.mem_cons_self, Bool.true_or]⟩
  · exact ⟨'-', digits, rfl, rfl⟩

/-- What is read as an integer, of texts that begin with no plus sign. -/
theorem parse?_eq_some_iff {i : Int64} {s : Text} (h : s.head? ≠ some '+') :
    parse? s = some i ↔ IsWritten i s := by
  unfold parse?
  split
  · next digits =>
    have hnot : ∀ n, ¬Text.IsDecimal n ('-' :: digits) := fun n hn =>
      absurd ((Text.isDecimal_iff.1 hn).2.1 '-' List.mem_cons_self) (by decide)
    simp only [Option.bind_eq_some_iff, Text.readNumber?_eq_some_iff, ofInt?_eq_some_iff]
    constructor
    · rintro ⟨n, hn, hi⟩
      have habs : i.toInt.natAbs = n := by omega
      exact .inr ⟨by omega, digits, rfl, habs ▸ hn⟩
    · rintro (⟨-, hs⟩ | ⟨hle, digits', hdigits, hn⟩)
      · exact absurd hs (hnot _)
      · obtain rfl := (List.cons.inj hdigits).2
        exact ⟨_, hn, by omega⟩
  · exact absurd rfl h
  · next hminus _ =>
    simp only [Option.bind_eq_some_iff, Text.readNumber?_eq_some_iff, ofInt?_eq_some_iff]
    constructor
    · rintro ⟨n, hn, hi⟩
      have habs : i.toInt.natAbs = n := by omega
      exact .inl ⟨by omega, habs ▸ hn⟩
    · rintro (⟨hle, hs⟩ | ⟨-, digits, rfl, -⟩)
      · exact ⟨_, hs, by omega⟩
      · exact absurd rfl (hminus digits)

/-- Whether a text is an integer as it may be written: without a plus sign, or with one before a
    number that is not negative. -/
def IsSigned (i : Int64) (s : Text) : Prop :=
  IsWritten i s ∨ 0 ≤ i.toInt ∧ ∃ digits, s = '+' :: digits ∧ Text.IsDecimal i.toInt.natAbs digits

theorem isSigned_toText (i : Int64) : IsSigned i (toText i) := .inl (isWritten_toText i)

/-- What is read as an integer. -/
theorem parse?_eq_some_iff_isSigned {i : Int64} {s : Text} : parse? s = some i ↔ IsSigned i s := by
  by_cases h : s.head? = some '+'
  · obtain ⟨digits, rfl⟩ := List.head?_eq_some_iff.1 h
    have hnot : ¬IsWritten i ('+' :: digits) := by
      intro hi
      obtain ⟨c, cs, hs, hc⟩ := hi.head
      rw [← (List.cons.inj hs).1] at hc
      cases hc
    simp only [parse?, IsSigned, Option.bind_eq_some_iff, Text.readNumber?_eq_some_iff,
      ofInt?_eq_some_iff, hnot, false_or]
    constructor
    · rintro ⟨n, hn, hi⟩
      have habs : i.toInt.natAbs = n := by omega
      exact ⟨by omega, digits, rfl, habs ▸ hn⟩
    · rintro ⟨hle, digits', hdigits, hn⟩
      obtain rfl := (List.cons.inj hdigits).2
      exact ⟨_, hn, by omega⟩
  · rw [parse?_eq_some_iff h]
    refine ⟨.inl, fun hi => hi.resolve_right ?_⟩
    rintro ⟨-, digits, rfl, -⟩
    exact h rfl

/-- Whether a text is a sign that stands for a factor: a minus sign, a plus sign or none. -/
def IsSign (factor : Int) (sign : Text) : Prop :=
  factor = -1 ∧ sign = ['-'] ∨ factor = 1 ∧ (sign = ['+'] ∨ sign = [])

theorem isSigned_iff {i : Int64} {s : Text} :
    IsSigned i s ↔ ∃ factor sign digits, IsSign factor sign ∧ s = sign ++ digits ∧
      Text.IsDecimal i.toInt.natAbs digits ∧ i.toInt = factor * i.toInt.natAbs := by
  constructor
  · rintro ((⟨hle, hs⟩ | ⟨hle, digits, rfl, hs⟩) | ⟨hle, digits, rfl, hs⟩)
    · exact ⟨1, [], s, .inr ⟨rfl, .inr rfl⟩, rfl, hs, by omega⟩
    · exact ⟨-1, ['-'], digits, .inl ⟨rfl, rfl⟩, rfl, hs, by omega⟩
    · exact ⟨1, ['+'], digits, .inr ⟨rfl, .inl rfl⟩, rfl, hs, by omega⟩
  · rintro ⟨_, _, digits, ⟨rfl, rfl⟩ | ⟨rfl, rfl | rfl⟩, rfl, hs, hi⟩
    · exact .inl (.inr ⟨by omega, digits, rfl, hs⟩)
    · exact .inr ⟨by omega, digits, rfl, hs⟩
    · exact .inl (.inl ⟨by omega, hs⟩)

end Integer

end EdgeInclude
