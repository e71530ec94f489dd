/-!
# Text

Documents, names and values are texts: lists of characters. This module holds
the classes of ASCII characters that markup is made of, and the searches on
texts that everything else is built from.

The searches take the place of those on strings:
`parse::starts_with_ignore_case`, `parse::find_ignore_case`, and those of the
standard library that the module `functions` calls.

Results:

* `eq_append_of_afterPrefix?`: what follows a prefix is what is left of the
  text once the prefix is taken off it.
* `eq_append_of_splitFirst`: splitting at a mark loses nothing but the mark.
-/

namespace EdgeInclude

/-- A text, character by character. -/
abbrev Text := List Char

namespace Text

/-! ## Classes of characters -/

/-- ASCII letters, digits and the underscore: the characters of the names of tags and attributes
    (`parse::is_name_char`). -/
def isNameChar (c : Char) : Bool := c.isAlphanum || c == '_'

/-- The white space of markup: space, tab, line feed, form feed and carriage
    return. -/
def isMarkupSpace (c : Char) : Bool :=
  c == ' ' || c == '\t' || c == '\n' || c == '\x0c' || c == '\r'

/-- The value of a hexadecimal digit of either case. -/
def hexDigit? (c : Char) : Option Nat :=
  if '0' ≤ c ∧ c ≤ '9' then some (c.toNat - '0'.toNat)
  else if 'a' ≤ c ∧ c ≤ 'f' then some (c.toNat - 'a'.toNat + 10)
  else if 'A' ≤ c ∧ c ≤ 'F' then some (c.toNat - 'A'.toNat + 10)
  else none

/-- The value of a decimal ASCII digit. -/
def decimalDigit? (c : Char) : Option Nat :=
  if c.isDigit then some (c.toNat - '0'.toNat) else none

/-- The number that a list of digit values stands for in the given base. -/
def ofDigits (base : Nat) (digits : List Nat) : Nat :=
  digits.foldl (fun n d => n * base + d) 0

/-- The number that a text of digits stands for; a text without digits stands for none. -/
def readNumber? (base : Nat) (digit? : Char → Option Nat) : Text → Option Nat
  | [] => none
  | s => (s.mapM digit?).map (ofDigits base)

/-- The decimal digits of a natural number. -/
def ofNat (n : Nat) : Text := Nat.toDigits 10 n

/-- An integer in decimal, with a minus sign before a negative one. -/
def ofInt : Int → Text
  | .ofNat n => ofNat n
  | .negSucc n => '-' :: ofNat (n + 1)

/-! ## Order -/

/-- Whether a text comes before another one in the order of characters, or is the same
    (`str::cmp`). -/
def precedes : Text → Text → Bool
  | [], _ => true
  | _ :: _, [] => false
  | c :: cs, d :: ds => decide (c.toNat < d.toNat) || (c == d && precedes cs ds)

/-! ## Prefixes -/

/-- Equality of characters up to the case of ASCII letters. -/
def sameLetter (a b : Char) : Bool := a.toLower == b.toLower

/-- What follows `lead` at the start of a text, where `same` says which characters
    count as equal. -/
def afterPrefix? (same : Char → Char → Bool) : Text → Text → Option Text
  | [], s => some s
  | _ :: _, [] => none
  | p :: ps, c :: cs => if same p c then afterPrefix? same ps cs else none

/-- What follows `lead`, read exactly. -/
abbrev after? (lead s : Text) : Option Text := afterPrefix? (· == ·) lead s

/-- What follows `lead`, read without regard to the case of ASCII letters
    (`parse::starts_with_ignore_case`). -/
abbrev afterAnyCase? (lead s : Text) : Option Text := afterPrefix? sameLetter lead s

theorem eq_append_of_afterPrefix? {same : Char → Char → Bool} {lead s rest : Text}
    (h : afterPrefix? same lead s = some rest) :
    ∃ head, s = head ++ rest ∧ head.length = lead.length := by
  induction lead generalizing s with
  | nil => exact ⟨[], by simpa [afterPrefix?] using h, rfl⟩
  | cons p ps ih =>
    cases s with
    | nil => simp [afterPrefix?] at h
    | cons c cs =>
      simp only [afterPrefix?] at h
      split at h
      · obtain ⟨head, rfl, hlen⟩ := ih h
        exact ⟨c :: head, rfl, by simp [hlen]⟩
      · cases h

theorem eq_append_of_after? {lead s rest : Text} (h : after? lead s = some rest) :
    s = lead ++ rest := by
  induction lead generalizing s with
  | nil => exact Option.some.inj h
  | cons p ps ih =>
    cases s with
    | nil => cases h
    | cons c cs =>
      rw [after?, afterPrefix?] at h
      split at h
      · next hpc => rw [ih h, beq_iff_eq.1 hpc, List.cons_append]
      · cases h

/-- A text that ends in `tail`, without it (`str::strip_suffix`). -/
def beforeSuffix? (tail s : Text) : Option Text :=
  (after? tail.reverse s.reverse).map List.reverse

/-! ## Searching -/

/-- The text before the first place where `mark` stands, and the text after it (`str::find`). -/
def splitFirst (mark : Text) : Text → Option (Text × Text)
  | [] => (after? mark []).map ([], ·)
  | c :: cs =>
    match after? mark (c :: cs) with
    | some rest => some ([], rest)
    | none => (splitFirst mark cs).map fun (before, rest) => (c :: before, rest)

theorem eq_append_of_splitFirst {mark s before rest : Text}
    (h : splitFirst mark s = some (before, rest)) : s = before ++ mark ++ rest := by
  induction s generalizing before with
  | nil =>
    obtain ⟨r, hr, he⟩ := Option.map_eq_some_iff.1 h
    obtain ⟨rfl, rfl⟩ : [] = before ∧ r = rest := Prod.mk.inj he
    exact eq_append_of_after? hr
  | cons c cs ih =>
    rw [splitFirst] at h
    split at h
    · next r hr =>
      obtain ⟨rfl, rfl⟩ : [] = before ∧ r = rest := Prod.mk.inj (Option.some.inj h)
      exact eq_append_of_after? hr
    · obtain ⟨⟨b, r⟩, hb, he⟩ := Option.map_eq_some_iff.1 h
      obtain ⟨rfl, rfl⟩ : c :: b = before ∧ r = rest := Prod.mk.inj he
      rw [ih hb]
      rfl

/-- The text before the last place where a character stands, and the text after it
    (`str::rfind`). -/
def splitLast (mark : Char) : Text → Option (Text × Text)
  | [] => none
  | c :: cs =>
    match splitLast mark cs with
    | some (before, rest) => some (c :: before, rest)
    | none => if c = mark then some ([], cs) else none

/-- Whether `needle` stands somewhere in a text (`str::contains`). -/
def hasPart (needle s : Text) : Bool := (splitFirst needle s).isSome

/-- The least position at which `needle` stands. -/
def firstPosition? (needle s : Text) : Option Nat :=
  (splitFirst needle s).map fun (before, _) => before.length

/-- The greatest position at which `needle` stands. -/
def lastPosition? (needle : Text) : Text → Option Nat
  | [] => if (after? needle []).isSome then some 0 else none
  | c :: cs =>
    match lastPosition? needle cs with
    | some n => some (n + 1)
    | none => if (after? needle (c :: cs)).isSome then some 0 else none

/-! ## Replacing -/

/-- Replaces the first `limit` places of the non-empty `needle`, left to right and
    without overlap; `skip` characters belong to a place already replaced. -/
def replacePlaces (needle value : Text) : Nat → Nat → Text → Text
  | _, _, [] => []
  | limit, skip + 1, _ :: cs => replacePlaces needle value limit skip cs
  | 0, 0, c :: cs => c :: cs
  | limit + 1, 0, c :: cs =>
    if (after? needle (c :: cs)).isSome then
      value ++ replacePlaces needle value limit (needle.length - 1) cs
    else c :: replacePlaces needle value (limit + 1) 0 cs

/-- Inserts `value` before each of the first `limit` boundaries between characters,
    where the start and the end of the text are boundaries too. -/
def insertAtBoundaries (value : Text) : Nat → Text → Text
  | 0, s => s
  | _ + 1, [] => value
  | limit + 1, c :: cs => value ++ c :: insertAtBoundaries value limit cs

/-- Replaces the first `limit` places of `needle`, or all of them where no limit is given
    (`str::replace` and `str::replacen`). An empty needle stands at every boundary. -/
def replace (needle value : Text) (limit : Option Nat) (s : Text) : Text :=
  let limit := limit.getD (s.length + 1)
  match needle with
  | [] => insertAtBoundaries value limit s
  | _ => replacePlaces needle value limit 0 s

/-- The parts in order, with `separator` between each two (`join`). -/
def joinWith (separator : Text) (parts : List Text) : Text :=
  (parts.intersperse separator).flatten

end Text

end EdgeInclude
