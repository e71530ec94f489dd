import EdgeInclude.Text.Basic

/-!
# Attributes

The attributes of a tag: keys alone, and keys with a bare or a quoted value. A
quoted value ends at the first quote of its kind that does not follow a
backslash; without such a quote it is read as a bare value, up to the next
white space.

A model of `parse::parse_attributes`, `parse::closing_quote` and
`parse::Attributes`.
-/

namespace EdgeInclude

/-- The attributes of a tag in the order in which they are written (`parse::Attributes`). A key may
    occur several times. -/
structure Attributes where
  entries : List (Text × Option Text)

namespace Attributes

/-! ## Reading -/

/-- The text before the first `quote` that does not follow a backslash, and the text after it;
    `previous` is the character before the text (`parse::closing_quote`). -/
def splitAtQuote (quote previous : Char) : Text → Option (Text × Text)
  | [] => none
  | c :: cs =>
    if c = quote ∧ previous ≠ '\\' then some ([], cs)
    else (splitAtQuote quote c cs).map fun (value, rest) => (c :: value, rest)

/-- Reads a quoted value after its opening quote. A quote that follows at once closes it. -/
def readQuoted (quote : Char) : Text → Option (Text × Text)
  | [] => none
  | c :: cs =>
    if c = quote then some ([], cs)
    else (splitAtQuote quote c cs).map fun (value, rest) => (c :: value, rest)

/-- Reads a value up to the next white space. -/
def readBare (s : Text) : Text × Text :=
  (s.takeWhile (!Text.isMarkupSpace ·), s.dropWhile (!Text.isMarkupSpace ·))

/-- Reads a value that starts with `c`. -/
def readValue (c : Char) (cs : Text) : Text × Text :=
  if c = '"' ∨ c = '\'' then (readQuoted c cs).getD (readBare (c :: cs)) else readBare (c :: cs)

/-- Characters that keys consist of: all but white space and the equals sign. -/
def isKeyPart (c : Char) : Bool := !Text.isMarkupSpace c && c != '='

/-- Reads what follows a key: a value after an equals sign, or nothing but the character
    that ends the key. -/
def readAfterKey : Text → Option Text × Text
  | '=' :: c :: cs =>
    if Text.isMarkupSpace c then (none, c :: cs)
    else ((readValue c cs).1, (readValue c cs).2)
  | _ :: cs => (none, cs)
  | [] => (none, [])

/-- Reads attributes; the first `skip` characters belong to one already read. A key starts
    at a character of names, and what stands before one is passed over. -/
def readFrom : Nat → Text → List (Text × Option Text)
  | _, [] => []
  | skip + 1, _ :: cs => readFrom skip cs
  | 0, c :: cs =>
    if Text.isNameChar c then
      let key := (c :: cs).takeWhile isKeyPart
      let after := readAfterKey ((c :: cs).dropWhile isKeyPart)
      (key, after.1) :: readFrom (cs.length - after.2.length) cs
    else readFrom 0 cs

/-- The attributes that a text says (`parse::parse_attributes`). -/
def ofText (s : Text) : Attributes := ⟨readFrom 0 s⟩

/-! ## Looking up -/

/-- The last occurrence of a key. -/
def find? (a : Attributes) (key : Text) : Option (Option Text) := a.entries.reverse.lookup key

/-- Whether a key occurs (`Attributes::contains`). -/
def contains (a : Attributes) (key : Text) : Bool := (a.find? key).isSome

/-- The value of the last occurrence of a key, if it has one (`Attributes::get`). -/
def get? (a : Attributes) (key : Text) : Option Text := (a.find? key).join

/-- The number of different keys (`Attributes::len`). -/
def size (a : Attributes) : Nat := (a.entries.map Prod.fst).eraseDups.length

end Attributes

end EdgeInclude
