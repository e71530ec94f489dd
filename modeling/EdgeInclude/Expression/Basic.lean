import EdgeInclude.Event

/-!
# Expressions

The expressions that stand in documents: references to variables and calls of
library functions.

A model of `expression::Expr` and `expression::eval_expr`.

Results:

* `evalAll_eq_mapM`: arguments are evaluated left to right up to the first that
  fails.
-/

namespace EdgeInclude

/-- A variable, or the part of a variable under a key. -/
structure Reference where
  name : Text
  key : Option Text
  deriving DecidableEq

/-- An expression (`expression::Expr`). -/
inductive Expr where
  | integer (n : Int64)
  | string (s : Text)
  | reference (ref : Reference)
  | call (name : Text) (args : List Expr)

/-- What an expression is evaluated in: the functions that it may call and the variables that it
    sees (`expression::EvalContext`). -/
structure Context where
  library : Library
  scope : Scope

namespace Expr

mutual

/-- The value of an expression (`expression::eval_expr`). -/
def eval (ctx : Context) : Expr → Except CallError Value
  | integer n => .ok (.integer n)
  | string s => .ok (.string s)
  | reference ref => .ok (ctx.scope.lookup ref.name ref.key)
  | call name args =>
    match evalAll ctx args with
    | .ok values => ctx.library.call name values
    | .error e => .error e

/-- The values of arguments, evaluated from left to right (the loop of `expression::eval_expr`). -/
def evalAll (ctx : Context) : List Expr → Except CallError (List Value)
  | [] => .ok []
  | e :: es =>
    match eval ctx e with
    | .ok value =>
      match evalAll ctx es with
      | .ok values => .ok (value :: values)
      | .error e => .error e
    | .error e => .error e

end

theorem evalAll_eq_mapM (ctx : Context) (es : List Expr) :
    evalAll ctx es = es.mapM (eval ctx) := by
  induction es with
  | nil => rfl
  | cons e es ih =>
    rw [evalAll, ih, List.mapM_cons]
    cases eval ctx e with
    | error e => rfl
    | ok value => cases es.mapM (eval ctx) <;> rfl

/-- The value of an expression in a document, where a call that fails is null (the end of
    `expression::try_evaluate_interpolated`). -/
def value (ctx : Context) (e : Expr) : Value :=
  match e.eval ctx with
  | .ok value => value
  | .error _ => .null

/-- What evaluating an expression in a document leaves in the log. -/
def events (ctx : Context) (e : Expr) : List Event :=
  match e.eval ctx with
  | .ok _ => []
  | .error (.refused message) => [.warn (Error.function message).message]
  | .error (.fault f) => [.fault f]

end Expr

end EdgeInclude
