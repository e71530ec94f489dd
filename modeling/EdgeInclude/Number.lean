import EdgeInclude.Text.Blank

/-!
# Numbers in texts

Decimal numbers as they are written in texts, and the order of two texts: that
of their numbers if both are numbers, and that of their characters otherwise.

A model of `condition::ordering`, with the reading of floating-point numbers
that it uses.
-/

namespace EdgeInclude

namespace Number

/-- Reads the exponent that ends a number: nothing, or a mark, an optional sign and
    digits. -/
def readExponent? : Text → Option Int
  | [] => some 0
  | mark :: s =>
    if mark ≠ 'e' ∧ mark ≠ 'E' then none
    else
      match s with
      | '-' :: digits =>
        (Text.readNumber? 10 Text.decimalDigit? digits).map fun n => -(n : Int)
      | '+' :: digits => (Text.readNumber? 10 Text.decimalDigit? digits).map Int.ofNat
      | digits => (Text.readNumber? 10 Text.decimalDigit? digits).map Int.ofNat

/-- Splits digits with an optional point: the digits before it, those after it, and the rest
    of the text. -/
def splitDigits (s : Text) : Text × Text × Text :=
  match s.dropWhile Char.isDigit with
  | '.' :: rest =>
    (s.takeWhile Char.isDigit, rest.takeWhile Char.isDigit, rest.dropWhile Char.isDigit)
  | rest => (s.takeWhile Char.isDigit, [], rest)

/-- The floating-point number nearest to `m · 10 ^ e`. Outside of the exponents that numbers
    of this size can have, the result is zero or infinite. -/
def scaled (m : Nat) (e : Int) : Float :=
  let size := ((Nat.toDigits 10 m).length : Int) + e
  if m = 0 ∨ size < -400 then 0.0
  else if 400 < size then 1.0 / 0.0
  else if e < 0 then Float.ofScientific m true e.natAbs
  else Float.ofScientific m false e.natAbs

/-- Reads a number without a sign. -/
def readUnsigned? (s : Text) : Option Float :=
  let word := s.map Char.toLower
  if word = "inf".toList ∨ word = "infinity".toList then some (1.0 / 0.0)
  else if word = "nan".toList then some (0.0 / 0.0)
  else
    let (whole, fraction, rest) := splitDigits s
    match readExponent? rest, Text.readNumber? 10 Text.decimalDigit? (whole ++ fraction) with
    | some e, some m => some (scaled m (e - fraction.length))
    | _, _ => none

/-- Reads a number: digits with an optional point, sign and exponent, or the name of an infinite or
    undefined value (the `parse` of `f64`). -/
def read? : Text → Option Float
  | '-' :: s => (readUnsigned? s).map fun x => -x
  | '+' :: s => readUnsigned? s
  | s => readUnsigned? s

/-- Whether a text is at least another one: as a number if both are numbers between blanks, and by
    the order of characters otherwise (`>=` in `condition::compare`, by `condition::ordering`). -/
def atLeast (a b : Text) : Bool :=
  match read? a.trim, read? b.trim with
  | some x, some y => y ≤ x
  | _, _ => Text.precedes b a

end Number

end EdgeInclude
