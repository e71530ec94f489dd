import EdgeInclude.Markup.Attribute
import EdgeInclude.Markup.Fragment
import EdgeInclude.Text.Blank

/-!
# Directives

What a tag instructs. The name of a tag counts without regard to case, and a tag
without a body counts as one with an empty body.

A model of how `Processor::tag_receiver` tells tags apart, with the attributes
that it and `Processor::include`, `Processor::assign` and `Processor::try_block`
look up.
-/

namespace EdgeInclude

/-- The instruction of a tag (the cases of `Processor::tag_receiver`). -/
inductive Directive where
  /-- Takes in the content of a URL, or of another one if that fails. -/
  | include (src : Option Text) (alt : Option Text) (reprocess continueOnError : Bool)
  /-- Processes a part of the body, and another part if the first one fails. -/
  | tryBlock (body : Text)
  /-- Shows a template. -/
  | show (template : Text)
  /-- Processes the body. -/
  | vars (body : Text)
  /-- Processes the first of several cases that applies. -/
  | choose (body : Text)
  /-- A case with a condition; what its pattern matched is bound to a name. -/
  | when (test : Option Text) (matchName : Option Text) (body : Text)
  /-- The case that applies if no other does. -/
  | otherwise (body : Text)
  /-- Binds a name. -/
  | assign (name : Option Text) (value : Text)
  /-- Shows the body as it is written. -/
  | verbatim (body : Text)
  /-- Shows nothing. -/
  | nothing
  /-- An instruction that is not known; the tag is shown as it is written. -/
  | unknown (name raw : Text)

namespace Directive

/-- The instruction of a `vars` tag: with a name and no body it shows a template. -/
def ofVars (name : Option Text) (body : Text) : Directive :=
  match name, body with
  | some template, [] => .show template
  | _, _ => .vars body

/-- The instruction of a tag with the given name in lower case (the dispatch of
    `Processor::tag_receiver`). -/
def ofName (name : Text) (a : Attributes) (body raw : Text) : Directive :=
  if name = "include".toList then
    .include (a.get? "src".toList) (a.get? "alt".toList)
      (a.get? "dca".toList == some "esi".toList)
      (a.get? "onerror".toList == some "continue".toList)
  else if name = "try".toList then .tryBlock body
  else if name = "vars".toList then ofVars (a.get? "name".toList) body
  else if name = "choose".toList then .choose body
  else if name = "when".toList then
    .when (a.get? "test".toList) (a.get? "matchname".toList) body
  else if name = "otherwise".toList then .otherwise body
  else if name = "assign".toList then
    .assign (a.get? "name".toList) ((a.get? "value".toList).getD body.trim)
  else if name = "text".toList then .verbatim body
  else if name = "comment".toList ∨ name = "remove".toList then .nothing
  else .unknown name raw

/-- The instruction of a tag (`Processor::tag_receiver`). -/
def ofTag (t : Tag) : Directive :=
  ofName (t.name.map Char.toLower) (Attributes.ofText t.attributes) (t.body.getD []) t.raw

end Directive

/-- The parts of a block that is tried: what is attempted, and what is processed if that
    fails. -/
structure TryParts where
  attempt : Text
  except : Option Text

namespace TryParts

/-- Takes in a tag of the block. A later part takes the place of an earlier one of its
    kind, and other tags are passed over. -/
def add (parts : TryParts) (t : Tag) : TryParts :=
  let name := t.name.map Char.toLower
  if name = "attempt".toList then { parts with attempt := t.body.getD [] }
  else if name = "except".toList then { parts with except := some (t.body.getD []) }
  else parts

/-- The parts of the body of a block (the scan in `Processor::try_block`). -/
def ofBody (ns body : Text) : TryParts :=
  ((Markup.scan ns body).tags.map Prod.fst).foldl add ⟨[], none⟩

end TryParts

end EdgeInclude
