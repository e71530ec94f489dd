import EdgeInclude.Text.Blank

/-!
# Conditions

The tests of a document: terms joined by `&&` and `||`. What the terms of a
condition are, and what is compared in each, is settled by its text before
anything is substituted in it.

A model of what `condition::evaluate_condition` and `condition::evaluate_term`
read before they evaluate: the patterns `SEPARATOR` and `COMPARISON`, and the
quotes that `condition::operand` takes off.
-/

namespace EdgeInclude

/-- How a term is joined to what stands before it (`condition::Logic`). -/
inductive Connective where
  | and
  | or
  deriving DecidableEq, Repr

/-- What two operands are compared by. -/
inductive Comparison where
  | equal
  | notEqual
  | atLeast
  | atMost
  | has
  | hasAnyCase
  | matches
  | matchesAnyCase
  deriving DecidableEq, Repr

/-- One side of a comparison. -/
inductive Operand where
  /-- A text that stands for itself. -/
  | raw (s : Text)
  /-- A text with expressions in it. -/
  | template (s : Text)
  deriving DecidableEq

/-- What a term asks. -/
inductive Question where
  | comparison (left : Operand) (sign : Comparison) (right : Operand)
  /-- Whether a template is rendered as any text at all. -/
  | nonEmpty (template : Text)
  deriving DecidableEq

/-- A term of a condition. -/
structure Term where
  negated : Bool
  question : Question
  deriving DecidableEq

/-- A condition: a term, and further terms joined to what stands before them. -/
structure Condition where
  first : Term
  rest : List (Connective × Term)

namespace Condition

/-! ## Terms -/

/-- Reads the connective between two terms, with the blanks around it (`condition::SEPARATOR`). -/
def readConnective? (s : Text) : Option (Connective × Text) :=
  match s with
  | [] => none
  | c :: _ =>
    if !Text.isBlank c then none
    else
      match s.dropWhile Text.isBlank with
      | '&' :: '&' :: d :: rest =>
        if Text.isBlank d then some (.and, rest.dropWhile Text.isBlank) else none
      | '|' :: '|' :: d :: rest =>
        if Text.isBlank d then some (.or, rest.dropWhile Text.isBlank) else none
      | _ => none

/-- Cuts a text at its connectives; the first `skip` characters belong to one already read (the loop
    of `condition::evaluate_condition`). -/
def splitFrom : Nat → Text → Text × List (Connective × Text)
  | _, [] => ([], [])
  | skip + 1, _ :: cs => splitFrom skip cs
  | 0, c :: cs =>
    match readConnective? (c :: cs) with
    | some (connective, rest) =>
      let (term, terms) := splitFrom (cs.length - rest.length) cs
      ([], (connective, term) :: terms)
    | none =>
      let (term, terms) := splitFrom 0 cs
      (c :: term, terms)

/-! ## Comparisons -/

/-- The comparisons by the text that stands for them (`condition::COMPARISON`). A text comes after
    those that it is the beginning of. -/
def comparisons : List (Text × Comparison) :=
  [(['=', '='], .equal), (['='], .equal), (['!', '='], .notEqual), (['>', '='], .atLeast),
    (['<', '='], .atMost), ("has_i".toList, .hasAnyCase), ("has".toList, .has),
    ("matches_i".toList, .matchesAnyCase), ("matches".toList, .matches)]

/-- Reads the text of a comparison and the blanks after it. -/
def readComparison? (s : Text) : Option (Comparison × Text) :=
  comparisons.findSome? fun (sign, comparison) =>
    match Text.after? sign s with
    | some (c :: rest) =>
      if Text.isBlank c then some (comparison, rest.dropWhile Text.isBlank) else none
    | _ => none

/-- Cuts a term at the first comparison that stands between blanks (`condition::COMPARISON`). -/
def splitComparison? : Text → Option (Text × Comparison × Text)
  | [] => none
  | c :: cs =>
    let here :=
      if Text.isBlank c then readComparison? ((c :: cs).dropWhile Text.isBlank) else none
    match here with
    | some (comparison, right) => some ([], comparison, right)
    | none => (splitComparison? cs).map fun (left, rest) => (c :: left, rest)

/-- The text between `start` and `stop`, if a text begins with the one and then ends with the
    other. -/
def between? (start stop s : Text) : Option Text :=
  (Text.after? start s).bind (Text.beforeSuffix? stop)

end Condition

/-! ## Reading -/

/-- The operand that a text says (what `condition::operand` reads). Three quotes around it make it
    raw, and single quotes around a template are no part of it. -/
def Operand.ofText (s : Text) : Operand :=
  let s := s.trim
  match Condition.between? ['\'', '\'', '\''] ['\'', '\'', '\''] s with
  | some inner => .raw inner
  | none => .template ((Condition.between? ['\''] ['\''] s).getD s)

/-- The term that a text says (what `condition::evaluate_term` reads). -/
def Term.ofText (s : Text) : Term :=
  let s := s.trim
  let (negated, s) :=
    match s with
    | '!' :: rest => (true, Text.trimStart rest)
    | s => (false, s)
  let s := ((Condition.between? ['('] [')'] s).map Text.trim).getD s
  match Condition.splitComparison? s with
  | some (left, comparison, right) =>
    ⟨negated, .comparison (Operand.ofText left) comparison (Operand.ofText right)⟩
  | none => ⟨negated, .nonEmpty s⟩

/-- The condition that a text says (what `condition::evaluate_condition` reads). -/
def Condition.ofText (s : Text) : Condition :=
  let (first, rest) := Condition.splitFrom 0 s
  ⟨Term.ofText first, rest.map fun (connective, term) => (connective, Term.ofText term)⟩

end EdgeInclude
