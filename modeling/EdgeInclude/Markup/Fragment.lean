import EdgeInclude.Markup.Tag

/-!
# Fragments

A document as texts and outermost tags in turn. Tags inside the body of a tag
stay in that body, and a start tag without its end tag is plain text.

A model of `parse::scan`.
-/

namespace EdgeInclude

/-- A part of a document (`parse::Fragment`). -/
inductive Fragment where
  | text (s : Text)
  | tag (t : Tag)
  deriving DecidableEq

/-- A document cut at its outermost tags: the text before the first tag, and every tag with
    the text after it. -/
structure Markup where
  lead : Text
  tags : List (Tag × Text)

namespace Markup

/-- The texts and tags in turn, with a text at either end. -/
def fragments (m : Markup) : List Fragment :=
  .text m.lead :: m.tags.flatMap fun (tag, after) => [.tag tag, .text after]

/-- Puts a character before the text that the document begins with. -/
def consChar (c : Char) (m : Markup) : Markup := { m with lead := c :: m.lead }

/-- Puts a tag before the document. -/
def consTag (t : Tag) (m : Markup) : Markup := ⟨[], (t, m.lead) :: m.tags⟩

/-- Cuts a document; its first `skip` characters belong to a tag already read (the loop of
    `parse::scan`). -/
def scanFrom (ns : Text) : Nat → Text → Markup
  | _, [] => ⟨[], []⟩
  | skip + 1, _ :: cs => scanFrom ns skip cs
  | 0, c :: cs =>
    match Tag.read? ns (c :: cs) with
    | some (tag, rest) => consTag tag (scanFrom ns (cs.length - rest.length) cs)
    | none => consChar c (scanFrom ns 0 cs)

/-- Cuts a document at its outermost tags of a namespace, leftmost first (`parse::scan`). -/
def scan (ns s : Text) : Markup := scanFrom ns 0 s

end Markup

end EdgeInclude
