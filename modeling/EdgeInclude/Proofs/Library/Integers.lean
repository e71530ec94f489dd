import EdgeInclude.Library.Standard
import EdgeInclude.Proofs.Integer
import EdgeInclude.Proofs.Text.Parts

/-!
# Integers in arguments

What the library functions take for an integer. Most of them want one alone, between blanks. The
function `int` reads the integer that a text begins with, whatever stands behind it. It reads the
digits of the integer without the sign, and so it does not find the least integer of 64 bits,
whose digits alone are no such integer.

Results:
* `integerArg_eq_ok_iff`: which arguments are integers.
* `leads_iff`: which integer a text begins with.
* `int_of_leads`: what `int` makes of a text.
-/

namespace EdgeInclude

/-- Whether a value is the given integer, or a text of it between blanks. -/
def Value.IsInteger (n : Int64) (v : Value) : Prop :=
  v = .integer n ∨ ∃ s, v = .string s ∧ Integer.IsSigned n s.trim

/-- Whether a text begins with an integer: there may be blanks in front of it, and there is no
    digit right behind it. -/
def Integer.Leads (n : Int64) (s : Text) : Prop :=
  ∃ blanks w rest, (∀ c ∈ blanks, Text.isBlank c = true) ∧ IsSigned n w ∧
    rest.head?.any Char.isDigit = false ∧ s = blanks ++ w ++ rest

namespace Library

variable {n : Int64} {s digits : Text}

/-! ## Integers alone -/

theorem integerArg_eq_ok_iff {name : String} {v : Value} :
    integerArg name v = .ok n ↔ v.IsInteger n := by
  unfold Value.IsInteger
  cases v with
  | string s =>
    simp only [integerArg, ← Integer.parse?_eq_some_iff_isSigned]
    cases h : Integer.parse? s.trim <;> simp [h]
  | integer m => simp [integerArg]
  | boolean | list | dictionary | null => simp [integerArg]

/-! ## Integers at the start of a text -/

theorem splitSign_append {factor : Int} {sign : Text} (h : Integer.IsSign factor sign) {c : Char}
    (hc : c.isDigit = true) (cs : Text) : splitSign (sign ++ c :: cs) = (factor, c :: cs) := by
  have hne : ∀ {d : Char}, d.isDigit = false → c ≠ d := by
    rintro d hd rfl
    rw [hc] at hd
    cases hd
  obtain ⟨rfl, rfl⟩ | ⟨rfl, rfl | rfl⟩ := h
  · rfl
  · rfl
  · unfold splitSign
    split
    · next heq => exact absurd (List.cons.inj heq).1 (hne rfl)
    · next heq => exact absurd (List.cons.inj heq).1 (hne rfl)
    · rfl

theorem exists_isSign (s : Text) :
    ∃ sign, Integer.IsSign (splitSign s).1 sign ∧ s = sign ++ (splitSign s).2 := by
  unfold splitSign
  split
  · exact ⟨['-'], .inl ⟨rfl, rfl⟩, rfl⟩
  · exact ⟨['+'], .inr ⟨rfl, .inl rfl⟩, rfl⟩
  · exact ⟨[], .inr ⟨rfl, .inr rfl⟩, rfl⟩

theorem digitsOrZero_of_inRange {m : Nat} (h : Text.IsDecimal m digits)
    (hm : Integer.InRange m) : digitsOrZero digits = m := by
  rw [digitsOrZero, Text.readNumber?_eq_some_iff.2 h, Option.bind_some, Integer.ofInt?, if_pos hm]
  exact Int64.toInt_ofInt_of_le hm.1 hm.2

theorem digitsOrZero_eq_zero (h : ∀ m : Nat, Text.IsDecimal m digits → ¬Integer.InRange m) :
    digitsOrZero digits = 0 := by
  unfold digitsOrZero
  cases hread : Text.readNumber? 10 Text.decimalDigit? digits with
  | none => rfl
  | some m =>
    rw [Option.bind_some, Integer.ofInt?, if_neg (h m (Text.readNumber?_eq_some_iff.1 hread))]

/-- The sign, as a factor, and the digits that a text begins with after blanks. -/
def signedDigits (s : Text) : Int × Text :=
  ((splitSign s.trimStart).1, (splitSign s.trimStart).2.takeWhile Char.isDigit)

theorem leadingInteger_eq (s : Text) :
    leadingInteger s = checkedInteger ((signedDigits s).1 * digitsOrZero (signedDigits s).2) := rfl

theorem signedDigits_sign (s : Text) : (signedDigits s).1 = -1 ∨ (signedDigits s).1 = 1 := by
  obtain ⟨sign, hsign, -⟩ := exists_isSign s.trimStart
  exact hsign.imp And.left And.left

/-- A text begins with an integer exactly if its sign and its digits are those of the integer. -/
theorem leads_iff : Integer.Leads n s ↔
    Text.IsDecimal n.toInt.natAbs (signedDigits s).2 ∧
      n.toInt = (signedDigits s).1 * n.toInt.natAbs := by
  constructor
  · rintro ⟨blanks, w, rest, hblanks, hw, hrest, rfl⟩
    obtain ⟨factor, sign, digits, hsign, rfl, hdigits, hn⟩ := Integer.isSigned_iff.1 hw
    obtain ⟨hne, hall, -⟩ := Text.isDecimal_iff.1 hdigits
    have hrun := (Text.span_append hall hrest).1
    obtain ⟨c, cs, rfl⟩ := List.exists_cons_of_ne_nil hne
    have hc : c.isDigit = true := hall c List.mem_cons_self
    have hhead : (sign ++ c :: (cs ++ rest)).head?.any Text.isBlank = false := by
      obtain ⟨-, rfl⟩ | ⟨-, rfl | rfl⟩ := hsign
      · rfl
      · rfl
      · exact Text.isBlank_eq_false_of_isDigit hc
    have htrim : (blanks ++ (sign ++ c :: cs) ++ rest).trimStart = sign ++ c :: (cs ++ rest) := by
      rw [← (Text.span_append hblanks hhead).2, Text.trimStart]
      simp
    rw [signedDigits, htrim, splitSign_append hsign hc]
    dsimp only
    rw [← List.cons_append, hrun]
    exact ⟨hdigits, hn⟩
  · rintro ⟨hdigits, hn⟩
    obtain ⟨sign, hsign, htrim⟩ := exists_isSign s.trimStart
    have hblanks : ∀ c ∈ s.takeWhile Text.isBlank, Text.isBlank c = true :=
      List.all_eq_true.1 List.all_takeWhile
    refine ⟨_, _, _, hblanks, Integer.isSigned_iff.2 ⟨_, _, _, hsign, rfl, hdigits, hn⟩,
      Text.head?_dropWhile Char.isDigit (splitSign s.trimStart).2, ?_⟩
    rw [signedDigits, List.append_assoc, List.append_assoc, List.takeWhile_append_dropWhile,
      ← htrim]
    exact List.takeWhile_append_dropWhile.symm

/-! ## The library function -/

theorem checkedInteger_toInt (n : Int64) : checkedInteger n.toInt = .ok (.integer n) := by
  unfold checkedInteger checked
  rw [if_pos (Integer.inRange_toInt n)]
  show Except.ok (Value.integer (Int64.ofInt n.toInt)) = _
  rw [Int64.ofInt_toInt]

/-- With either sign, a number in range is the magnitude of an integer. -/
theorem exists_toInt_eq_mul {factor : Int} (hfactor : factor = -1 ∨ factor = 1) {m : Nat}
    (hm : Integer.InRange m) : ∃ n : Int64, n.toInt = factor * m ∧ n.toInt.natAbs = m := by
  unfold Integer.InRange at hm
  have hn : (Int64.ofInt (factor * m)).toInt = factor * m := by
    obtain rfl | rfl := hfactor <;> exact Int64.toInt_ofInt_of_le (by omega) (by omega)
  refine ⟨_, hn, ?_⟩
  rw [hn]
  obtain rfl | rfl := hfactor <;> omega

/-- For every text:

    * If it begins with an integer of 64 bits that is not the least one, `int` gives this integer.
      Every integer is read in its decimal form, with blanks in front of it and anything behind it
      that does not begin with a digit.
    * If it begins with the least integer, `int` gives 0.
    * If it begins with no integer of 64 bits, `int` gives 0. -/
theorem int_of_leads (s : Text) :
    (∀ n, Integer.Leads n s → n ≠ Int64.minValue → int [.string s] = .ok (.integer n)) ∧
      (∀ n blanks rest, (∀ c ∈ blanks, Text.isBlank c = true) →
        rest.head?.any Char.isDigit = false →
          Integer.Leads n (blanks ++ Integer.toText n ++ rest)) ∧
      (Integer.Leads Int64.minValue s → int [.string s] = .ok (.integer 0)) ∧
      ((∀ n, ¬Integer.Leads n s) → int [.string s] = .ok (.integer 0)) := by
  have hint : int [.string s] =
      checkedInteger ((signedDigits s).1 * digitsOrZero (signedDigits s).2) := leadingInteger_eq s
  rw [hint]
  refine ⟨fun n h hn => ?_, fun n blanks rest hblanks hrest => ?_, fun h => ?_, fun h => ?_⟩
  · obtain ⟨hdigits, hsign⟩ := leads_iff.1 h
    have hlow : -0x8000000000000000 ≤ n.toInt := n.le_toInt
    have hhigh : n.toInt < 0x8000000000000000 := n.toInt_lt
    have hne : n.toInt ≠ -0x8000000000000000 := fun heq => hn (Int64.toInt_inj.1 heq)
    have habs : Integer.InRange n.toInt.natAbs := ⟨by omega, by omega⟩
    rw [digitsOrZero_of_inRange hdigits habs, ← hsign, checkedInteger_toInt]
  · exact ⟨blanks, _, rest, hblanks, Integer.isSigned_toText n, hrest, rfl⟩
  · obtain ⟨hdigits, -⟩ := leads_iff.1 h
    rw [digitsOrZero_eq_zero, Int.mul_zero]
    · exact checkedInteger_toInt 0
    · intro m hm hrange
      have hvalue := (Text.isDecimal_iff.1 hdigits).2.2
      rw [← (Text.isDecimal_iff.1 hm).2.2] at hvalue
      rw [← hvalue] at hrange
      exact absurd hrange (by decide)
  · rw [digitsOrZero_eq_zero, Int.mul_zero]
    · exact checkedInteger_toInt 0
    · intro m hm hrange
      -- with its sign, such a number would be an integer that the text begins with
      obtain ⟨n, hn, habs⟩ := exists_toInt_eq_mul (signedDigits_sign s) hrange
      exact h n (leads_iff.2 ⟨habs ▸ hm, by rw [habs, hn]⟩)

/-- The least integer is not read, though the text is its decimal form. -/
theorem int_of_least :
    let s := "-9223372036854775808".toList
    Integer.Leads Int64.minValue s ∧ int [.string s] = .ok (.integer 0) ∧
      int [.string s] ≠ .ok (.integer Int64.minValue) := by
  intro s
  have hint : int [.string s] = .ok (.integer 0) := rfl
  refine ⟨leads_iff.2 ⟨Text.isDecimal_ofNat 9223372036854775808, rfl⟩, hint, ?_⟩
  rw [hint]
  intro h
  cases h

end Library

end EdgeInclude
