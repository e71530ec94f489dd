import EdgeInclude.Entity.Names

/-!
# Character references

Writing text into markup, and reading the character references in it. There
are two readings. The lenient one replaces every reference that it knows and
leaves all else as written. The strict one knows the five names of XML only and
refuses a text with any `&` that does not begin a reference.

Models of `html_escape::decode_html_entities`, `html_escape::encode_text` and
`quick_xml::escape::unescape`, and of what `Processor::fetch_fragment` makes of
them.

Results:

* `lenient_eq_self`, `strict?_eq_some_self`: text without `&` is read as it is.
-/

namespace EdgeInclude

namespace Entity

/-! ## Numbers -/

/-- The number in `#…`, decimal or, after one of the `marks`, hexadecimal. -/
def numeric? (marks : List Char) : Text → Option Nat
  | [] => none
  | c :: cs =>
    if c ∈ marks then Text.readNumber? 16 Text.hexDigit? cs
    else Text.readNumber? 10 Text.decimalDigit? (c :: cs)

/-- The character at a code point, if there is one. -/
def char? (n : Nat) : Option Char := if n.isValidChar then some (Char.ofNat n) else none

/-! ## Lenient reading -/

/-- Control characters other than white space are not written as references. -/
def isReferable (n : Nat) : Bool :=
  0x20 ≤ n || n == 0x09 || n == 0x0A || n == 0x0C || n == 0x0D

/-- What the text between `&` and `;` stands for. -/
def lenientReference? : Text → Option Text
  | '#' :: cs => do
    let n ← numeric? ['x', 'X'] cs
    let c ← char? n
    if isReferable n then some [c] else none
  | name => named? name

/-- The text up to the `;` that ends a reference; another `&` comes first in none. -/
def referenceBody? : Text → Option Text
  | [] => none
  | ';' :: _ => some []
  | '&' :: _ => none
  | c :: cs => (referenceBody? cs).map (c :: ·)

/-- Reads references; the first `skip` characters belong to one already read. -/
def lenientFrom : Nat → Text → Text
  | _, [] => []
  | skip + 1, _ :: cs => lenientFrom skip cs
  | 0, c :: cs =>
    if c = '&' then
      match referenceBody? cs with
      | none => c :: lenientFrom 0 cs
      | some body =>
        match lenientReference? body with
        | none => c :: lenientFrom 0 cs
        | some value => value ++ lenientFrom (body.length + 1) cs
    else c :: lenientFrom 0 cs

/-- Replaces every reference by its characters and leaves what is none as written
    (`html_escape::decode_html_entities`). -/
def lenient (s : Text) : Text := lenientFrom 0 s

/-! ## Strict reading -/

/-- What the text between `&` and `;` stands for in XML without declarations. -/
def strictReference? : Text → Option Char
  | '#' :: cs => do
    let n ← numeric? ['x'] cs
    if n = 0 then none else char? n
  | name =>
    if name = ['l', 't'] then some '<'
    else if name = ['g', 't'] then some '>'
    else if name = ['a', 'm', 'p'] then some '&'
    else if name = ['a', 'p', 'o', 's'] then some '\''
    else if name = ['q', 'u', 'o', 't'] then some '"'
    else none

/-- Reads references; the first `skip` characters belong to one already read. -/
def strictFrom : Nat → Text → Option Text
  | _, [] => some []
  | skip + 1, _ :: cs => strictFrom skip cs
  | 0, c :: cs =>
    if c = '&' then do
      let body ← referenceBody? cs
      let value ← strictReference? body
      (strictFrom (body.length + 1) cs).map (value :: ·)
    else (strictFrom 0 cs).map (c :: ·)

/-- Replaces every reference by its character, or refuses the text
    (`quick_xml::escape::unescape`). -/
def strict? (s : Text) : Option Text := strictFrom 0 s

/-- The URL that an attribute of markup says: read strictly if that is possible, and leniently if a
    bare `&` stands in it (the unescaping of `Processor::fetch_fragment`). -/
def unescapeUrl (s : Text) : Text := (strict? s).getD (lenient s)

/-! ## Writing -/

/-- A character as it stands between tags. -/
def encodeChar : Char → Text
  | '&' => ['&', 'a', 'm', 'p', ';']
  | '<' => ['&', 'l', 't', ';']
  | '>' => ['&', 'g', 't', ';']
  | c => [c]

/-- A text as it stands between tags (`html_escape::encode_text`). -/
def encode (s : Text) : Text := s.flatMap encodeChar

/-! ## Texts without references -/

theorem lenient_eq_self {s : Text} (h : '&' ∉ s) : lenient s = s := by
  have : ∀ s : Text, '&' ∉ s → lenientFrom 0 s = s := by
    intro s
    induction s with
    | nil => intro _; rfl
    | cons c cs ih =>
      intro h
      obtain ⟨hc, hcs⟩ := not_or.1 (mt List.mem_cons.2 h)
      rw [lenientFrom, if_neg (Ne.symm hc), ih hcs]
  exact this s h

theorem strict?_eq_some_self {s : Text} (h : '&' ∉ s) : strict? s = some s := by
  have : ∀ s : Text, '&' ∉ s → strictFrom 0 s = some s := by
    intro s
    induction s with
    | nil => intro _; rfl
    | cons c cs ih =>
      intro h
      obtain ⟨hc, hcs⟩ := not_or.1 (mt List.mem_cons.2 h)
      rw [strictFrom, if_neg (Ne.symm hc), ih hcs, Option.map_some]
  exact this s h

end Entity

end EdgeInclude
