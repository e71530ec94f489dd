import EdgeInclude.Text.Basic

/-!
# Sets of characters

A set of characters as ascending ranges of code points, of which no two meet.
Tables are written as text, one range after another, such as `41-5A 5F 61-7A`;
the ends are hexadecimal and belong to the range.

A model of `ClassUnicode` of the package `regex_syntax`.

Results:

* `contains_empty`, `contains_single`: membership in the two smallest sets.
-/

namespace EdgeInclude

/-- A set of code points: ascending ranges with both ends included, apart from one another
    (`regex_syntax::hir::ClassUnicode`). -/
structure CharSet where
  ranges : Array (Nat × Nat)
  deriving DecidableEq

namespace CharSet

/-! ## Membership -/

/-- Bisection for `n` among the ranges from `low` up to, not including, `high`. -/
def bisect (ranges : Array (Nat × Nat)) (n : Nat) : (fuel low high : Nat) → Bool
  | 0, _, _ => false
  | fuel + 1, low, high =>
    if low < high then
      let middle := (low + high) / 2
      match ranges[middle]? with
      | none => false
      | some (first, last) =>
        if n < first then bisect ranges n fuel low middle
        else if last < n then bisect ranges n fuel (middle + 1) high
        else true
    else false

/-- Whether a code point is in the set. -/
def containsCode (set : CharSet) (n : Nat) : Bool :=
  bisect set.ranges n set.ranges.size 0 set.ranges.size

/-- Whether a character is in the set. -/
def contains (set : CharSet) (c : Char) : Bool := set.containsCode c.toNat

/-! ## Small sets -/

/-- The set without characters. -/
def empty : CharSet := ⟨#[]⟩

/-- The code points between two, both included. -/
def codes (first last : Nat) : CharSet := if last < first then empty else ⟨#[(first, last)]⟩

/-- The characters between two, both included. -/
def range (first last : Char) : CharSet := codes first.toNat last.toNat

/-- The set of a single character. -/
def single (c : Char) : CharSet := ⟨#[(c.toNat, c.toNat)]⟩

/-- Every ASCII character. -/
def ascii : CharSet := codes 0 0x7F

/-- Whether a set has no characters. -/
def isEmpty (s : CharSet) : Bool := s.ranges.isEmpty

/-- Whether all characters of a set are ASCII. -/
def isAscii (s : CharSet) : Bool := s.ranges.all (·.2 < 0x80)

/-- The only character of a set, if it has just one. -/
def only? (s : CharSet) : Option Char :=
  match s.ranges.toList with
  | [(first, last)] => if first = last then some (Char.ofNat first) else none
  | _ => none

theorem contains_empty (c : Char) : empty.contains c = false := rfl

theorem contains_single (c d : Char) : (single d).contains c = (c.toNat == d.toNat) := by
  have h : ∀ n m : Nat, (if n < m then false else if m < n then false else true) = (n == m) := by
    intro n m
    by_cases h₁ : n < m
    · have : n ≠ m := by omega
      simp [h₁, this]
    · by_cases h₂ : m < n
      · have : n ≠ m := by omega
        simp [h₁, h₂, this]
      · have : n = m := by omega
        simp [this]
  simpa [contains, containsCode, single, bisect] using h c.toNat d.toNat

/-! ## Operations -/

/-- Ascending ranges after a range from `first` to `last`, those that meet made one. -/
def joinFrom (first last : Nat) : List (Nat × Nat) → List (Nat × Nat)
  | [] => [(first, last)]
  | (a, b) :: rest =>
    if a ≤ last + 1 then joinFrom first (max last b) rest
    else (first, last) :: joinFrom a b rest

/-- The set of the code points in any of some ranges. -/
def ofRanges (ranges : List (Nat × Nat)) : CharSet :=
  match (ranges.filter fun r => r.1 ≤ r.2).mergeSort fun r s => r.1 ≤ s.1 with
  | [] => empty
  | (first, last) :: rest => ⟨(joinFrom first last rest).toArray⟩

/-- The characters in one set or the other. -/
def union (s t : CharSet) : CharSet := ofRanges (s.ranges.toList ++ t.ranges.toList)

/-- The characters in any of some sets. -/
def unions (sets : List CharSet) : CharSet := ofRanges (sets.flatMap (·.ranges.toList))

/-- The ranges of code points from `next` on that ascending ranges leave out. -/
def gaps (next : Nat) : List (Nat × Nat) → List (Nat × Nat)
  | [] => if next ≤ 0x10FFFF then [(next, 0x10FFFF)] else []
  | (first, last) :: rest =>
    if next < first then (next, first - 1) :: gaps (last + 1) rest else gaps (last + 1) rest

/-- The code points that are no characters, as they stand for halves of characters. -/
def surrogates : CharSet := codes 0xD800 0xDFFF

/-- The characters outside of a set. -/
def compl (s : CharSet) : CharSet := ⟨(gaps 0 (s.union surrogates).ranges.toList).toArray⟩

/-- Every character. -/
def all : CharSet := compl empty

/-- The characters in both sets. -/
def inter (s t : CharSet) : CharSet := (s.compl.union t.compl).compl

/-- The characters in the first set but not in the second. -/
def diff (s t : CharSet) : CharSet := (s.compl.union t).compl

/-- The characters in exactly one of two sets. -/
def symmDiff (s t : CharSet) : CharSet := (s.diff t).union (t.diff s)

/-- The complement of a set if `negated` says so. -/
def negateIf (negated : Bool) (s : CharSet) : CharSet := if negated then s.compl else s

/-! ## Tables -/

/-- A table being read: the ranges read so far, the first end of the range being
    read once its dash is passed, and the digits of the current end. -/
structure Reading where
  ranges : Array (Nat × Nat) := #[]
  first : Option Nat := none
  current : Option Nat := none

/-- Closes the range being read, if there is one. -/
def Reading.close (r : Reading) : Reading :=
  match r.current with
  | none => { r with first := none }
  | some last => { ranges := r.ranges.push (r.first.getD last, last) }

/-- Reads one more character of a table. -/
def Reading.next (r : Reading) (c : Char) : Reading :=
  match Text.hexDigit? c with
  | some d => { r with current := some (r.current.getD 0 * 16 + d) }
  | none => if c == '-' then { r with first := r.current, current := none } else r.close

/-- The set that a table says. -/
def ofTable (table : String) : CharSet := ⟨(table.toList.foldl Reading.next {}).close.ranges⟩

end CharSet

end EdgeInclude
