import EdgeInclude.Url.Domain.Direction
import EdgeInclude.Url.Domain.Joiner
import EdgeInclude.Url.Domain.Mapping
import EdgeInclude.Url.Punycode

/-!
# Domains

Domain names are written in ASCII. A label with other characters is written as
`xn--` and its Punycode; such a label is taken only if it says what could be
shown.

A model of `domain_to_ascii` of the package `idna`, as the package `url` calls
it.
-/

namespace EdgeInclude

namespace Domain

/-- Whether all characters of a text are ASCII. -/
def isAscii (s : Text) : Bool := s.all (·.toNat < 0x80)

/-- Characters that no domain may hold once its characters are mapped. -/
def forbidden (c : Char) : Bool :=
  c.toNat ≤ 0x20 || c.toNat == 0x7F || "#%/:<>?@[\\]^|".toList.contains c

/-- The mark of a label in Punycode. -/
def punycodeMark : Text := "xn--".toList

/-- The length up to which labels are written in Punycode. -/
def maxEncoded : Nat := 1000

/-- The length up to which Punycode is read. -/
def maxDecoded : Nat := 2000

/-- Whether a label with characters outside ASCII may be shown: no mark stands at its start,
    and joiners are where they make a difference. -/
def isShowable (label : Text) : Bool :=
  match label with
  | [] => true
  | c :: _ => !(Category.marks.any (·.contains c)) && Joiner.areInPlace [] label

/-- The label that Punycode says. It has to be mapped already. -/
def readPunycode? (s : Text) : Option Text :=
  if !isAscii s || s.isEmpty || s.getLast? == some '-' || maxDecoded < s.length then none
  else (Punycode.decode? s).filter fun label => mapped? label == some label && isShowable label

/-- A label as it is shown. -/
def shownLabel? (label : Text) : Option Text :=
  match Text.after? punycodeMark label with
  | some s => readPunycode? s
  | none => if isAscii label || isShowable label then some label else none

/-- A label in ASCII. -/
def asciiLabel? (label : Text) : Option Text :=
  if isAscii label then some label
  else if maxEncoded < label.length then none
  else some (punycodeMark ++ Punycode.encode label)

/-- A domain in ASCII; none if there can be no such domain (`idna::domain_to_ascii`). -/
def toAscii? (s : Text) : Option Text := do
  let mapped ← mapped? s
  if mapped.isEmpty || mapped.any forbidden then none
  let labels := mapped.splitOn '.'
  if !Direction.agree (← labels.mapM shownLabel?) then none
  return Text.joinWith ['.'] (← labels.mapM asciiLabel?)

end Domain

end EdgeInclude
