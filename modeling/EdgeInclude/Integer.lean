import EdgeInclude.Text.Basic

/-!
# Integers of 64 bits

Reading and writing the integers that values hold. A number that leaves their
range is none of them.

A model of the `parse` and the `Display` of `i64`.

Results:

* `ofInt?_toInt`: every integer of 64 bits is in range.
* `ofInt?_eq_some_iff`: a number is in range when it is one of these integers.
-/

namespace EdgeInclude

namespace Integer

/-- Whether a number is an integer of 64 bits. -/
def InRange (n : Int) : Prop := -0x8000000000000000 ≤ n ∧ n < 0x8000000000000000

instance (n : Int) : Decidable (InRange n) := inferInstanceAs (Decidable (_ ∧ _))

theorem inRange_toInt (i : Int64) : InRange i.toInt := ⟨i.le_toInt, i.toInt_lt⟩

/-- A number as an integer of 64 bits (checked arithmetic on `i64`). -/
def ofInt? (n : Int) : Option Int64 := if InRange n then some (Int64.ofInt n) else none

theorem ofInt?_eq_some_iff {n : Int} {i : Int64} : ofInt? n = some i ↔ n = i.toInt := by
  unfold ofInt?
  split
  · next h =>
    rw [Option.some.injEq, ← Int64.toInt_inj, Int64.toInt_ofInt_of_le h.1 h.2]
  · next h =>
    constructor
    · intro hi
      cases hi
    · rintro rfl
      exact absurd (inRange_toInt i) h

theorem ofInt?_toInt (i : Int64) : ofInt? i.toInt = some i := ofInt?_eq_some_iff.2 rfl

/-- The decimal form of an integer (the `Display` of `i64`). -/
def toText (i : Int64) : Text := Text.ofInt i.toInt

/-- Reads a decimal integer: an optional sign and at least one digit, nothing else, in range (the
    `parse` of `i64`). -/
def parse? : Text → Option Int64
  | '-' :: digits => (Text.readNumber? 10 Text.decimalDigit? digits).bind fun n => ofInt? (-n)
  | '+' :: digits => (Text.readNumber? 10 Text.decimalDigit? digits).bind fun n => ofInt? n
  | digits => (Text.readNumber? 10 Text.decimalDigit? digits).bind fun n => ofInt? n

/-- Reads a decimal index: an optional plus sign and digits whose value fits 64 bits (the `parse` of
    `usize`). -/
def parseIndex? (s : Text) : Option Nat :=
  let digits :=
    match s with
    | '+' :: digits => digits
    | digits => digits
  (Text.readNumber? 10 Text.decimalDigit? digits).filter (· < 0x10000000000000000)

end Integer

end EdgeInclude
