import EdgeInclude.Text.Basic

/-!
# Punycode

Labels of domains written in ASCII: the ASCII characters of a label, and then
numbers in base 36 that say which other characters stand where.

A model of `punycode` of the package `idna`.
-/

namespace EdgeInclude

namespace Punycode

/-! ## Digits -/

/-- The digit with a value below 36. -/
def digit (n : Nat) : Char := Char.ofNat (if n < 26 then n + 'a'.toNat else n - 26 + '0'.toNat)

/-- The value of a digit. -/
def digitValue? (c : Char) : Option Nat :=
  if c.isLower then some (c.toNat - 'a'.toNat)
  else if c.isDigit then some (c.toNat - '0'.toNat + 26)
  else none

/-- The bias after a number has been written, `count` characters having been placed. -/
def adapt (delta count : Nat) (first : Bool) : Nat :=
  let delta := if first then delta / 700 else delta / 2
  reduce 16 (delta + delta / count) 0
where
  /-- Divides until the number is small, counting in steps of the base. -/
  reduce : (fuel delta k : Nat) → Nat
    | 0, _, k => k
    | fuel + 1, delta, k =>
      if 455 < delta then reduce fuel (delta / 35) (k + 36) else k + 36 * delta / (delta + 38)

/-- The threshold of the digit at `k` under a bias; a digit below it is the last of a number. -/
def threshold (bias k : Nat) : Nat := if k ≤ bias then 1 else if bias + 26 ≤ k then 26 else k - bias

/-- The digits of a number under a bias. -/
def number (bias : Nat) : (fuel k q : Nat) → Text
  | 0, _, _ => []
  | fuel + 1, k, q =>
    let t := threshold bias k
    if q < t then [digit q]
    else digit (t + (q - t) % (36 - t)) :: number bias fuel (k + 36) ((q - t) / (36 - t))

/-! ## Writing -/

/-- The state of an encoding: the code point reached, the number to be written next, the bias,
    how many characters are placed, and the text so far. -/
structure Encoding where
  code : Nat
  delta : Nat
  bias : Nat
  placed : Nat
  basic : Nat
  output : Text

/-- Goes past one code point of the label. -/
def Encoding.step (e : Encoding) (c : Nat) : Encoding :=
  if c < e.code then { e with delta := e.delta + 1 }
  else if c = e.code then
    { e with
      output := e.output ++ number e.bias 40 36 e.delta
      bias := adapt e.delta (e.placed + 1) (e.placed == e.basic)
      delta := 0
      placed := e.placed + 1 }
  else e

/-- Writes the remaining code points of a label in ascending order. -/
def encodeRest (label : List Nat) : (fuel : Nat) → Encoding → Text
  | 0, e => e.output
  | fuel + 1, e =>
    match (label.filter (e.code ≤ ·)).min? with
    | none => e.output
    | some m =>
      let e := { e with delta := e.delta + (m - e.code) * (e.placed + 1), code := m }
      let e := label.foldl Encoding.step e
      encodeRest label fuel { e with delta := e.delta + 1, code := m + 1 }

/-- The Punycode of a label (`idna::punycode::encode`). -/
def encode (label : Text) : Text :=
  let basic := label.filter (·.toNat < 128)
  let lead := if basic.isEmpty then [] else basic ++ ['-']
  encodeRest (label.map Char.toNat) label.length
    { code := 128, delta := 0, bias := 72, placed := basic.length, basic := basic.length,
      output := lead }

/-! ## Reading -/

/-- What no weight of a digit reaches. -/
def weightLimit : Nat := 0x100000000

/-- Reads a number under a bias, the digit at `k` having a weight. -/
def readNumber? (bias : Nat) : (k weight : Nat) → Text → Option (Nat × Text)
  | _, _, [] => none
  | k, weight, c :: cs => do
    let d ← digitValue? c
    let t := threshold bias k
    if d < t then return (d * weight, cs)
    let weight' := weight * (36 - t)
    if weightLimit ≤ weight' then none
    let (n, rest) ← readNumber? bias (k + 36) weight' cs
    return (d * weight + n, rest)

/-- Reads the remaining numbers of a label. Each says how far to go from the place `i` in the
    label until the next character stands there, where the code point grows by one with every
    round. -/
def decodeRest? : (fuel code i bias : Nat) → (label : Text) → Text → Option Text
  | _, _, _, _, label, [] => some label
  | 0, _, _, _, _, _ :: _ => none
  | fuel + 1, code, i, bias, label, s => do
    let (delta, rest) ← readNumber? bias 36 1 s
    let count := label.length + 1
    let code := code + (i + delta) / count
    let place := (i + delta) % count
    if ¬code.isValidChar then none
    decodeRest? fuel code (place + 1) (adapt delta count (i == 0))
      (label.take place ++ Char.ofNat code :: label.drop place) rest

/-- Reads the Punycode of a label (`idna::punycode::decode`). -/
def decode? (s : Text) : Option Text :=
  let (basic, rest) :=
    match Text.splitLast '-' s with
    | some ([], _) | none => ([], s)
    | some (basic, rest) => (basic, rest)
  decodeRest? rest.length 128 0 72 basic rest

end Punycode

end EdgeInclude
