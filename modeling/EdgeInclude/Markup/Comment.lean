import EdgeInclude.Markup.Tag

/-!
# Comment wrappers

Markup that other readers of a document shall not see is wrapped into comments
that begin with the name of the namespace. Unwrapping puts each of them into a
`vars` tag, where its content is processed.

A model of `parse::rewrite_esi_comments`.
-/

namespace EdgeInclude

namespace Comment

/-- A part of a document: text outside of wrappers, or the content of a wrapper. -/
inductive Piece where
  | plain (s : Text)
  | wrapped (content : Text)
  deriving DecidableEq

/-- What a wrapper begins with. -/
def opener (ns : Text) : Text := '<' :: '!' :: '-' :: '-' :: ns

/-- What a wrapper ends with. -/
def closer : Text := ['-', '-', '>']

/-- Cuts a document; its first `skip` characters belong to a piece already found (the loop of
    `parse::rewrite_esi_comments`). An opener that a name goes on from is no opener, and one that is
    never closed ends the search. -/
def piecesFrom (ns : Text) : Nat → Text → List Piece
  | _, [] => []
  | skip + 1, _ :: cs => piecesFrom ns skip cs
  | 0, c :: cs =>
    match Text.afterAnyCase? (opener ns) (c :: cs) with
    | none => .plain [c] :: piecesFrom ns 0 cs
    | some rest =>
      if Tag.continuesName rest then
        .plain ((c :: cs).take (opener ns).length) :: piecesFrom ns (cs.length - rest.length) cs
      else
        match Text.splitFirst closer rest with
        | none => [.plain (c :: cs)]
        | some (content, after) => .wrapped content :: piecesFrom ns (cs.length - after.length) cs

/-- A document cut at its wrappers. -/
def pieces (ns s : Text) : List Piece := piecesFrom ns 0 s

/-- The start tag that takes the place of an opener. -/
def varsStart (ns : Text) : Text := Tag.opener ns ++ ['v', 'a', 'r', 's', '>']

/-- The end tag that takes the place of a closer. -/
def varsEnd (ns : Text) : Text := Tag.endOpener ns ++ ['v', 'a', 'r', 's', '>']

/-- A piece with its wrapper replaced by a tag (`parse::rewrite_esi_comments`). -/
def Piece.unwrap (ns : Text) : Piece → Text
  | plain s => s
  | wrapped content => varsStart ns ++ content ++ varsEnd ns

/-- Whether a piece is the content of a wrapper. -/
def Piece.isWrapped : Piece → Bool
  | plain _ => false
  | wrapped _ => true

/-- A document with all its wrappers replaced by tags. -/
def unwrap (ns s : Text) : Text := (pieces ns s).flatMap (Piece.unwrap ns)

/-- Whether a document has a wrapper (if not, `parse::rewrite_esi_comments` borrows it). -/
def hasWrapper (ns s : Text) : Bool := (pieces ns s).any Piece.isWrapped

end Comment

end EdgeInclude
