import EdgeInclude.Pattern.Basic
import EdgeInclude.Text.Case

/-!
# Normal forms of patterns

Patterns are put together in normal form: neighbouring texts are one text, sets
of a single character are texts, sequences hold no sequences and alternatives no
alternatives, what only looks around is not repeated, and what all alternatives
begin with stands before them.

A model of the smart constructors of `Hir` in the package `regex_syntax`.
-/

namespace EdgeInclude

namespace Pattern

/-! ## Sets -/

/-- The pattern of a character of a set (`Hir::class`). -/
def ofSet (s : CharSet) : Pattern :=
  match s.only? with
  | some c => literal [c]
  | none => set s

/-! ## Sequences -/

/-- The parts of a pattern that stands in a sequence. -/
def parts : Pattern → List Pattern
  | empty => []
  | seq ps => ps
  | p => [p]

/-- Parts with neighbouring texts joined. -/
def joinLiterals : List Pattern → List Pattern
  | [] => []
  | literal s :: ps =>
    match joinLiterals ps with
    | literal t :: rest => literal (s ++ t) :: rest
    | rest => literal s :: rest
  | p :: ps => p :: joinLiterals ps

/-- The sequence of some patterns (`Hir::concat`). -/
def ofParts (ps : List Pattern) : Pattern :=
  match joinLiterals (ps.flatMap parts) with
  | [] => empty
  | [p] => p
  | ps => seq ps

/-! ## Alternatives -/

/-- The alternatives of a pattern that stands among alternatives. -/
def options : Pattern → List Pattern
  | alternatives ps => ps
  | p => [p]

/-- The code point of a text of one character. -/
def code? : Pattern → Option Nat
  | literal [c] => some c.toNat
  | _ => none

/-- The set that a pattern is. -/
def set? : Pattern → Option CharSet
  | set s => some s
  | _ => none

/-- The parts of a sequence. -/
def seq? : Pattern → Option (List Pattern)
  | seq ps => some ps
  | _ => none

/-- What two sequences begin with. -/
def sharedParts : List Pattern → List Pattern → List Pattern
  | p :: ps, q :: qs => if same p q then p :: sharedParts ps qs else []
  | _, _ => []

/-- What all of some sequences begin with. -/
def sharedStart : List (List Pattern) → List Pattern
  | [] => []
  | ps :: rest => rest.foldl sharedParts ps

mutual

/-- The number of patterns that a pattern is made of. -/
def nodes : Pattern → Nat
  | empty => 1
  | literal _ => 1
  | set _ => 1
  | assertion _ => 1
  | group _ p => nodes p + 1
  | seq ps => nodesOfAll ps + 1
  | alternatives ps => nodesOfAll ps + 1
  | repetition p _ _ _ => nodes p + 1

/-- The number of patterns that some patterns are made of. -/
def nodesOfAll : List Pattern → Nat
  | [] => 0
  | p :: ps => nodes p + nodesOfAll ps

end

/-- The alternatives of some patterns. Characters, and likewise sets, are one set; a beginning
    that sequences share is taken out of them, of which `fuel` bounds the number of times. -/
def choose : (fuel : Nat) → List Pattern → Pattern
  | 0, ps => alternatives ps
  | fuel + 1, ps =>
    match ps.flatMap options with
    | [] => set .empty
    | [p] => p
    | ps =>
      match ps.mapM code?, ps.mapM set?, ps.mapM seq? with
      | some codes, _, _ => ofSet (.ofCodes codes)
      | none, some sets, _ => ofSet (.unions sets)
      | none, none, none => alternatives ps
      | none, none, some sequences =>
        match sharedStart sequences with
        | [] => alternatives ps
        | shared =>
          ofParts (shared ++
            [choose fuel (sequences.map fun qs => ofParts (qs.drop shared.length))])

/-- The alternatives of some patterns, the preferred ones first (`Hir::alternation`). -/
def ofOptions (ps : List Pattern) : Pattern := choose (nodesOfAll ps + 1) ps

/-! ## Repetition -/

/-- A repetition of a pattern, `low` times at least and `high` times at most (`Hir::repetition`). -/
def repeated (p : Pattern) (low : Nat) (high : Option Nat) (greedy : Bool) : Pattern :=
  let (low, high) :=
    if p.takesNothing then (min low 1, some (min (high.getD 1) 1)) else (low, high)
  if low = 0 ∧ high = some 0 then empty
  else if low = 1 ∧ high = some 1 then p
  else repetition p low high greedy

end Pattern

end EdgeInclude
