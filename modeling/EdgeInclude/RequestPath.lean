import EdgeInclude.Text.Percent

/-!
# Documents in request paths

A document can be carried in the path of a request, percent-encoded and between
slashes.

A model of `adapter::document_from_path`.
-/

namespace EdgeInclude

/-- A text without a slash at its start and without one at its end. -/
def withoutSlashes (s : Text) : Text :=
  let s := (Text.after? ['/'] s).getD s
  (Text.beforeSuffix? ['/'] s).getD s

/-- The document that a request path carries (`adapter::document_from_path`). -/
def documentOfPath (path : Text) : Text := withoutSlashes path.percentDecode

end EdgeInclude
