import EdgeInclude.Condition.Basic
import EdgeInclude.Number
import EdgeInclude.Pattern.Read
import EdgeInclude.Pattern.Search
import EdgeInclude.Template

/-!
# Verdicts

Deciding a condition. Its terms are decided from left to right, and a term is
passed over, together with all that follow it, once what stands before it is
decisive: a false one before `&&`, a true one before `||`.

A model of what `condition::evaluate_condition` evaluates, with
`condition::evaluate_term`, `condition::operand` and `condition::compare`.
-/

namespace EdgeInclude

/-- What a condition comes to (`condition::ConditionResult`). -/
inductive Verdict where
  | no
  | yes
  /-- A pattern was found: the text that matched it and the text of each group. -/
  | matched (groups : List Value)

namespace Verdict

/-- Whether the condition is fulfilled (`ConditionResult::is_truthy`). -/
def holds : Verdict → Bool
  | no => false
  | yes => true
  | matched _ => true

/-- The value of a verdict (`ConditionResult::into_value`). -/
def value : Verdict → Value
  | no => .boolean false
  | yes => .boolean true
  | matched groups => .list groups

end Verdict

/-- What is found out about a term: whether it is true, the groups of a pattern that was
    found, and what deciding it leaves in the log. -/
structure Finding where
  holds : Bool
  groups : Option (List Value) := none
  events : List Event := []

/-! ## Operands -/

/-- The text of an operand (`condition::operand`). -/
def Operand.text (ctx : Context) : Operand → Text
  | .raw s => s
  | .template s => Template.render ctx s

/-- What substituting an operand leaves in the log. -/
def Operand.events (ctx : Context) : Operand → List Event
  | .raw _ => []
  | .template s => Template.events ctx s

/-! ## Comparisons -/

namespace Condition

/-- A group as a value; one that took no part in the match is null. -/
def groupValue : Option Text → Value
  | some s => .string s
  | none => .null

/-- The groups of the first match of the pattern that a text says, or `none` if the text says no
    pattern (`Regex::captures`). -/
def search (ignoreCase : Bool) (pattern s : Text) : Option (Option (List (Option Text))) :=
  ((Pattern.ofText? ignoreCase pattern).bind Pattern.program?).map (Pattern.firstMatch · s)

/-- The log line about a text that says no pattern. -/
def invalidPattern : Event := .warn "invalid regular expression".toList

/-- Looks for a pattern in a text (`matches` and `matches_i` in `condition::compare`). -/
def findPattern (ignoreCase : Bool) (pattern s : Text) : Finding :=
  match search ignoreCase pattern s with
  | none => { holds := false, events := [invalidPattern] }
  | some none => { holds := false }
  | some (some groups) => { holds := true, groups := some (groups.map groupValue) }

/-- Compares two texts (`condition::compare`). -/
def compare (left right : Text) : Comparison → Finding
  | .equal => { holds := left == right }
  | .notEqual => { holds := left != right }
  | .atLeast => { holds := Number.atLeast left right }
  | .atMost => { holds := Number.atLeast right left }
  | .has => { holds := Text.hasPart right left }
  | .hasAnyCase => { holds := Text.hasPart right.lower left.lower }
  | .matches => findPattern false right left
  | .matchesAnyCase => findPattern true right left

end Condition

/-! ## Terms -/

/-- Answers the question of a term. -/
def Question.answer (ctx : Context) : Question → Finding
  | .comparison left sign right =>
    let found := Condition.compare (left.text ctx) (right.text ctx) sign
    { found with events := left.events ctx ++ right.events ctx ++ found.events }
  | .nonEmpty template =>
    { holds := !(Template.render ctx template).isEmpty, events := Template.events ctx template }

/-- Decides a term (`condition::evaluate_term`). A pattern that was found keeps its groups, whether
    or not the term is negated. -/
def Term.decide (ctx : Context) (t : Term) : Finding :=
  let found := t.question.answer ctx
  { found with holds := found.holds != t.negated }

/-! ## Conditions -/

/-- Whether the truth of what stands before a connective settles the condition. -/
def Connective.settledBy (holds : Bool) : Connective → Bool
  | .and => !holds
  | .or => holds

namespace Condition

/-- Decides the remaining terms after a finding (the loop of `condition::evaluate_condition`). Of
    several patterns that were found the last one counts. -/
def decideFrom (ctx : Context) (found : Finding) : List (Connective × Term) → Finding
  | [] => found
  | (connective, term) :: rest =>
    if connective.settledBy found.holds then found
    else
      let next := term.decide ctx
      decideFrom ctx
        { holds := next.holds
          groups := next.groups <|> found.groups
          events := found.events ++ next.events } rest

/-- What is found out about a condition (`condition::evaluate_condition`). -/
def decide (ctx : Context) (c : Condition) : Finding :=
  decideFrom ctx (c.first.decide ctx) c.rest

end Condition

/-- The verdict of a finding (the result of `condition::evaluate_condition`). -/
def Finding.verdict (found : Finding) : Verdict :=
  if found.holds then
    match found.groups with
    | some groups => .matched groups
    | none => .yes
  else .no

end EdgeInclude
