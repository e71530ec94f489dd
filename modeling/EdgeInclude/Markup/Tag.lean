import EdgeInclude.Text.Basic

/-!
# Tags

Reading the tag of a namespace at the start of a text. A tag either closes
itself or has a body, which reaches up to the end tag that is its own: start and
end tags of the same name in between are paired with each other. The letter case
of namespace and name does not matter.

A model of `parse::read_tag`, `parse::find_tag_end` and
`parse::find_closing_tag`.
-/

namespace EdgeInclude

/-- A tag as it is written in a document (`parse::RawTag`). -/
structure Tag where
  /-- The whole markup, from the opening `<` to the last `>`. -/
  raw : Text
  /-- The name without its namespace. -/
  name : Text
  /-- What stands between the name and the end of the start tag. -/
  attributes : Text
  /-- What stands between start and end tag; a tag that closes itself has none. -/
  body : Option Text
  deriving DecidableEq

namespace Tag

/-- What a tag of a namespace begins with. -/
def opener (ns : Text) : Text := '<' :: ns ++ [':']

/-- What an end tag of a namespace begins with. -/
def endOpener (ns : Text) : Text := '<' :: '/' :: ns ++ [':']

/-- Whether a text goes on with a character of names (`parse::is_name_char`). -/
def continuesName : Text → Bool
  | [] => false
  | c :: _ => Text.isNameChar c

/-! ## Start tags -/

/-- The text before the `>` that ends a start tag, and the text after it (`parse::find_tag_end`).
    `quote` is the quote of the value that the text starts in, if any, and `afterEquals` says
    whether it follows an equals sign; only there a quote begins a value. -/
def splitStart : (quote : Option Char) → (afterEquals : Bool) → Text → Option (Text × Text)
  | _, _, [] => none
  | some q, _, c :: cs =>
    (splitStart (if c = q then none else some q) (c == '=') cs).map fun (s, rest) => (c :: s, rest)
  | none, afterEquals, c :: cs =>
    if afterEquals && (c == '"' || c == '\'') then
      (splitStart (some c) false cs).map fun (s, rest) => (c :: s, rest)
    else if c = '>' then some ([], cs)
    else (splitStart none (c == '=') cs).map fun (s, rest) => (c :: s, rest)

/-- Whether the text of a start tag up to its `>` closes the tag itself. -/
def closesItself (s : Text) : Bool := s.getLast? == some '/'

/-! ## Bodies -/

/-- A tag in the body of a tag of the same name, with the number of its characters. -/
inductive Mark where
  | starting (length : Nat)
  | selfClosing (length : Nat)
  /-- An end tag, with the text after it. -/
  | ending (length : Nat) (rest : Text)
  deriving DecidableEq

/-- What follows `lead` at the start of a text, if that does not go on with a character of
    names. -/
def afterName? (lead s : Text) : Option Text :=
  (Text.afterAnyCase? lead s).filter (!continuesName ·)

/-- The rest of an end tag whose first `length` characters have been read: white space and the
    closing `>`. -/
def endMark? (length : Nat) (s : Text) : Option Mark :=
  match s.dropWhile Text.isMarkupSpace with
  | '>' :: rest => some (.ending (length + (s.takeWhile Text.isMarkupSpace).length + 1) rest)
  | _ => none

/-- The rest of a start tag whose first `length` characters have been read. -/
def startMark? (length : Nat) (s : Text) : Option Mark :=
  match splitStart none false s with
  | some (inner, _) =>
    let length := length + inner.length + 1
    some (if closesItself inner then .selfClosing length else .starting length)
  | none => none

/-- The tag at the start of a text among those whose start tags begin with `start` and whose
    end tags begin with `stop`. -/
def mark? (start stop s : Text) : Option Mark :=
  match afterName? stop s with
  | some rest => endMark? stop.length rest
  | none =>
    match afterName? start s with
    | some rest => startMark? start.length rest
    | none => none

/-- The text before the end tag that belongs to a start tag, and the text after it
    (`parse::find_closing_tag`). `depth` further start tags are open, and the first `skip`
    characters belong to a tag already counted. -/
def splitBody (start stop : Text) : (depth skip : Nat) → Text → Option (Text × Text)
  | _, _, [] => none
  | depth, skip + 1, c :: cs =>
    (splitBody start stop depth skip cs).map fun (s, rest) => (c :: s, rest)
  | depth, 0, c :: cs =>
    match mark? start stop (c :: cs), depth with
    | some (.ending _ rest), 0 => some ([], rest)
    | some (.ending length _), depth + 1 =>
      (splitBody start stop depth (length - 1) cs).map fun (s, rest) => (c :: s, rest)
    | some (.starting length), depth =>
      (splitBody start stop (depth + 1) (length - 1) cs).map fun (s, rest) => (c :: s, rest)
    | some (.selfClosing length), depth =>
      (splitBody start stop depth (length - 1) cs).map fun (s, rest) => (c :: s, rest)
    | none, depth => (splitBody start stop depth 0 cs).map fun (s, rest) => (c :: s, rest)

/-! ## Whole tags -/

/-- Reads the rest of a tag after its name (the end of `parse::read_tag`). Returns the attributes,
    the body and the text after the tag. -/
def readAfterName? (ns name s : Text) : Option (Text × Option Text × Text) :=
  match splitStart none false s with
  | none => none
  | some (inner, rest) =>
    if closesItself inner then some (inner.dropLast, none, rest)
    else
      (splitBody (opener ns ++ name) (endOpener ns ++ name) 0 0 rest).map fun (body, rest) =>
        (inner, some body, rest)

/-- Reads the tag at the start of a text (`parse::read_tag`). Returns it with the text after it. -/
def read? (ns s : Text) : Option (Tag × Text) :=
  match Text.afterAnyCase? (opener ns) s with
  | none => none
  | some named =>
    let name := named.takeWhile Char.isAlpha
    let after := named.dropWhile Char.isAlpha
    if name.isEmpty || continuesName after then none
    else
      (readAfterName? ns name after).map fun (attributes, body, rest) =>
        (⟨s.take (s.length - rest.length), name, attributes, body⟩, rest)

end Tag

end EdgeInclude
