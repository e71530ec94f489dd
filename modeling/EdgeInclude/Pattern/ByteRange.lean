import EdgeInclude.Text.CharSet
import EdgeInclude.Text.Utf8

/-!
# Ranges of bytes

The characters of a set as the sequences of bytes that encode them: each sequence
says for every byte between which bounds it lies, and all combinations of such
bytes encode characters of the set.

A model of `Utf8Sequences` of the package `regex_syntax`.
-/

namespace EdgeInclude

namespace CharSet

/-- The least and the greatest value of a byte. -/
abbrev ByteRange := Nat × Nat

/-- The last code points that are encoded in one, two and three bytes. -/
def lastOfLengths : List Nat := [0x7F, 0x7FF, 0xFFFF]

/-- The sizes of the blocks of code points that have all but their last one, two or three bytes
    in common. -/
def blockSizes : List Nat := [0x40, 0x1000, 0x40000]

/-- Where to cut a range that begins or ends within a block while it goes on in another. -/
def cutAtBlock? (first last size : Nat) : Option Nat :=
  if first / size = last / size then none
  else if first % size ≠ 0 then some ((first / size + 1) * size - 1)
  else if last % size ≠ size - 1 then some (last / size * size - 1)
  else none

/-- The code point after which to cut a range that is more than one sequence of bytes. -/
def cutAfter? (first last : Nat) : Option Nat :=
  match lastOfLengths.find? fun n => first ≤ n && n < last with
  | some n => some n
  | none => if last ≤ 0x7F then none else blockSizes.findSome? (cutAtBlock? first last)

/-- The bytes of a code point. -/
def bytesOf (n : Nat) : List Nat := (Text.utf8 [Char.ofNat n]).map (·.toNat)

/-- The byte sequences of a range of code points in ascending order. No range is cut more than
    `fuel` times on the way to a sequence. -/
def sequencesBetween : (fuel first last : Nat) → List (List ByteRange)
  | 0, _, _ => []
  | fuel + 1, first, last =>
    if first < 0xE000 ∧ 0xD7FF < last then
      sequencesBetween fuel first 0xD7FF ++ sequencesBetween fuel 0xE000 last
    else if last < first then []
    else
      match cutAfter? first last with
      | some n => sequencesBetween fuel first n ++ sequencesBetween fuel (n + 1) last
      | none => [(bytesOf first).zip (bytesOf last)]

/-- The byte sequences of a set in ascending order (`regex_syntax::utf8::Utf8Sequences`). -/
def byteSequences (s : CharSet) : List (List ByteRange) :=
  s.ranges.toList.flatMap fun (first, last) => sequencesBetween 32 first last

end CharSet

end EdgeInclude
