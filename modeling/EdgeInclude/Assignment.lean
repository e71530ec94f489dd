import EdgeInclude.Template

/-!
# Assignments

The value that an assignment gives to a variable. A quote at its start makes
the value a literal; a single expression gives the value it has, of whatever
kind; anything else is a template and gives a text.

A model of `expression::evaluate_assignment`.
-/

namespace EdgeInclude

namespace Assignment

/-- A value that is never null: the empty text takes its place. -/
def nonNull : Value → Value
  | .null => .string []
  | v => v

/-- The value of an assignment (`expression::evaluate_assignment`). -/
def value (ctx : Context) (s : Text) : Value :=
  match s with
  | '\'' :: literal => .string ((Text.beforeSuffix? ['\''] literal).getD literal)
  | s =>
    match Expr.read ctx.library.contains s with
    | .expression e [] => nonNull (e.value ctx)
    | _ => .string (Template.render ctx s)

/-- What an assignment leaves in the log (the log lines of `expression::evaluate_assignment`). An
    expression at the start of a longer text is evaluated once to see whether it is all, and once
    more as part of the template. -/
def events (ctx : Context) (s : Text) : List Event :=
  match s with
  | '\'' :: _ => []
  | s =>
    match Expr.read ctx.library.contains s with
    | .expression e [] => e.events ctx
    | .expression e _ => e.events ctx ++ Template.events ctx s
    | .refused reason => Segment.refusal reason :: Template.events ctx s
    | .plain => Template.events ctx s

end Assignment

end EdgeInclude
