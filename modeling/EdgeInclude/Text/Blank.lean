import EdgeInclude.Text.Basic

/-!
# Blanks

White space in the sense of the Unicode property `White_Space`, and texts with
the blanks at their ends removed. This is the white space of values and
conditions; markup itself knows the five ASCII characters of
`Text.isMarkupSpace` only.

Results:

* `isBlank_of_isMarkupSpace`: the white space of markup is blank.
-/

namespace EdgeInclude

namespace Text

/-- The characters with the property `White_Space` (`char::is_whitespace`). -/
def isBlank (c : Char) : Bool :=
  let n := c.toNat
  (0x09 ≤ n && n ≤ 0x0D) || n == 0x20 || n == 0x85 || n == 0xA0 || n == 0x1680 ||
    (0x2000 ≤ n && n ≤ 0x200A) || n == 0x2028 || n == 0x2029 || n == 0x202F ||
    n == 0x205F || n == 0x3000

theorem isBlank_of_isMarkupSpace {c : Char} (h : isMarkupSpace c = true) : isBlank c = true := by
  simp only [isMarkupSpace, Bool.or_eq_true, beq_iff_eq] at h
  rcases h with (((rfl | rfl) | rfl) | rfl) | rfl <;> rfl

/-- A text without the blanks at its start (`str::trim_start`). -/
def trimStart (s : Text) : Text := s.dropWhile isBlank

/-- A text without the blanks at its end (`str::trim_end`). -/
def trimEnd (s : Text) : Text := (s.reverse.dropWhile isBlank).reverse

/-- A text without the blanks at either end (`str::trim`). -/
def trim (s : Text) : Text := trimEnd (trimStart s)

end Text

end EdgeInclude
