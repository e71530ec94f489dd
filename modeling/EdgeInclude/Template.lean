import EdgeInclude.Expression.Read

/-!
# Templates

A text with expressions in it. Which parts of a text are expressions is settled
by the text and the names of the library functions alone, before anything is
evaluated; rendering then puts the value of each expression in its place.

A model of `interpolate::interpolate`.
-/

namespace EdgeInclude

/-- A part of a template. -/
inductive Segment where
  /-- A character that stands for itself. -/
  | literal (c : Char)
  /-- The dollar sign of a call that cannot be read; it stands for itself. -/
  | refused (reason : ReadError)
  /-- An expression, replaced by its value. -/
  | expression (e : Expr)

namespace Segment

/-- The text that a segment is rendered as. -/
def render (ctx : Context) : Segment → Text
  | literal c => [c]
  | refused _ => ['$']
  | expression e => (e.value ctx).display

/-- The log line about a call that cannot be read. -/
def refusal (reason : ReadError) : Event :=
  .debug ("not an expression: ".toList ++ (Error.expression reason.message).message)

/-- What rendering a segment leaves in the log. -/
def events (ctx : Context) : Segment → List Event
  | literal _ => []
  | refused reason => [refusal reason]
  | expression e => e.events ctx

end Segment

namespace Template

/-- The segments of a text; its first `skip` characters belong to an expression that has been read
    (the loop of `interpolate::interpolate`). -/
def segmentsFrom (known : Text → Bool) : Nat → Text → List Segment
  | _, [] => []
  | skip + 1, _ :: cs => segmentsFrom known skip cs
  | 0, c :: cs =>
    match Expr.read known (c :: cs) with
    | .plain => .literal c :: segmentsFrom known 0 cs
    | .refused reason => .refused reason :: segmentsFrom known 0 cs
    | .expression e rest => .expression e :: segmentsFrom known (cs.length - rest.length) cs

/-- The segments of a text, where `known` says which names are those of functions. -/
def segments (known : Text → Bool) (s : Text) : List Segment := segmentsFrom known 0 s

/-- A text with its expressions replaced by their values (`interpolate::interpolate`). -/
def render (ctx : Context) (s : Text) : Text :=
  (segments ctx.library.contains s).flatMap (Segment.render ctx)

/-- What rendering a text leaves in the log (the log lines of `interpolate::interpolate`). -/
def events (ctx : Context) (s : Text) : List Event :=
  (segments ctx.library.contains s).flatMap (Segment.events ctx)

end Template

end EdgeInclude
