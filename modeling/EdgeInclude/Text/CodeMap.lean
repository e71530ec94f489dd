import EdgeInclude.Text.CharSet

/-!
# Maps of characters

Maps from code points to one or more code points. Tables are written as text, one
entry after another: `C0:41,300` maps a code point to two, `41-5A:61` maps a range
to as many code points in a row, and `100-12E/2:101` maps every second code point
of a range.
-/

namespace EdgeInclude

/-- Entries of a map: every `step`-th code point from `first` to `last`. The image is that of
    the first one, and the others go on from there. -/
structure CodeRun where
  first : Nat
  last : Nat
  step : Nat
  image : List Nat

namespace CodeRun

/-- Reads a hexadecimal number of a table. -/
def readCode (s : Text) : Nat := Text.ofDigits 16 (s.filterMap Text.hexDigit?)

/-- Reads an entry of a table. -/
def ofText (s : Text) : CodeRun :=
  let (key, image) := (Text.splitFirst [':'] s).getD (s, [])
  let (span, step) := (Text.splitFirst ['/'] key).getD (key, ['1'])
  let (first, last) := (Text.splitFirst ['-'] span).getD (span, span)
  { first := readCode first, last := readCode last, step := readCode step
    image := (image.splitOn ',').map readCode }

/-- The image of a code point between the ends of a run. -/
def image? (r : CodeRun) (n : Nat) : Option (List Nat) :=
  if (n - r.first) % r.step = 0 then some (r.image.map (· + (n - r.first))) else none

end CodeRun

/-- A map of code points: runs in ascending order. -/
structure CodeMap where
  runs : Array CodeRun

namespace CodeMap

/-- Bisection for the run of `n` from `low` up to, not including, `high`. -/
def bisect (runs : Array CodeRun) (n : Nat) : (fuel low high : Nat) → Option CodeRun
  | 0, _, _ => none
  | fuel + 1, low, high =>
    if low < high then
      let middle := (low + high) / 2
      match runs[middle]? with
      | none => none
      | some r =>
        if n < r.first then bisect runs n fuel low middle
        else if r.last < n then bisect runs n fuel (middle + 1) high
        else some r
    else none

/-- The image of a code point, if it is mapped. -/
def find? (m : CodeMap) (n : Nat) : Option (List Nat) :=
  (bisect m.runs n m.runs.size 0 m.runs.size).bind (·.image? n)

/-- The map that a table says. -/
def ofTable (table : String) : CodeMap :=
  let entries := (table.toList.splitOnP fun c => c == ' ' || c == '\n').filter (!·.isEmpty)
  ⟨(entries.map CodeRun.ofText).toArray⟩

end CodeMap

end EdgeInclude
