import EdgeInclude.Text.Letter

/-!
# Patterns

Regular expressions over characters: texts, sets, assertions about a position,
groups that are remembered, sequences, alternatives in order of preference, and
greedy or reluctant repetition.

A model of `Hir` of the package `regex_syntax`, with which the package `regex`
reads patterns.
-/

namespace EdgeInclude

/-! ## Assertions -/

/-- A place at a word, said by the characters before and after it. -/
inductive WordEdge where
  | boundary
  | noBoundary
  | start
  | finish
  | startHalf
  | finishHalf
  deriving DecidableEq

/-- Whether a place is at an edge, where `before` and `after` say whether the characters around
    it belong to words. -/
def WordEdge.holds (before after : Bool) : WordEdge → Bool
  | boundary => before != after
  | noBoundary => before == after
  | start => !before && after
  | finish => before && !after
  | startHalf => !before
  | finishHalf => !after

/-- A condition on a position in a text (`regex_syntax::hir::Look`). -/
inductive Assertion where
  | textStart
  | textEnd
  | lineStart
  | lineEnd
  | lineStartCrlf
  | lineEndCrlf
  /-- An edge of a word of ASCII or, with `unicode`, of any script. -/
  | word (edge : WordEdge) (unicode : Bool)
  deriving DecidableEq

namespace Assertion

/-- The characters of words within ASCII. -/
def asciiWord : CharSet := .ofTable "30-39 41-5A 5F 61-7A"

/-- The characters of words. -/
def wordChars (unicode : Bool) : CharSet := if unicode then Text.word else asciiWord

/-- Whether an assertion holds between two characters, where `none` is an end of the text. -/
def holds (before after : Option Char) : Assertion → Bool
  | textStart => before.isNone
  | textEnd => after.isNone
  | lineStart => before.isNone || before == some '\n'
  | lineEnd => after.isNone || after == some '\n'
  | lineStartCrlf =>
    before.isNone || before == some '\n' || (before == some '\r' && after != some '\n')
  | lineEndCrlf =>
    after.isNone || after == some '\r' || (after == some '\n' && before != some '\r')
  | word edge unicode =>
    edge.holds (before.any (wordChars unicode).contains) (after.any (wordChars unicode).contains)

end Assertion

/-! ## Patterns -/

/-- A regular expression (`regex_syntax::hir::Hir`). -/
inductive Pattern where
  | empty
  | literal (s : Text)
  | set (chars : CharSet)
  | assertion (a : Assertion)
  /-- A group that is remembered under an index. -/
  | group (index : Nat) (inner : Pattern)
  | seq (parts : List Pattern)
  /-- Alternatives, the preferred ones first. -/
  | alternatives (options : List Pattern)
  | repetition (inner : Pattern) (low : Nat) (high : Option Nat) (greedy : Bool)

namespace Pattern

/-! ## Lengths -/

mutual

/-- Whether a pattern matches nothing but places between characters. -/
def takesNothing : Pattern → Bool
  | empty => true
  | literal s => s.isEmpty
  | set _ => false
  | assertion _ => true
  | group _ p => takesNothing p
  | seq ps => allTakeNothing ps
  | alternatives ps => allTakeNothing ps
  | repetition p _ _ _ => takesNothing p

/-- Whether all of some patterns match nothing but places between characters. -/
def allTakeNothing : List Pattern → Bool
  | [] => true
  | p :: ps => takesNothing p && allTakeNothing ps

end

mutual

/-- The least number of characters that a pattern takes; none if it can match nothing. -/
def leastLength? : Pattern → Option Nat
  | empty => some 0
  | literal s => some s.length
  | set s => if s.isEmpty then none else some 1
  | assertion _ => some 0
  | group _ p => leastLength? p
  | seq ps => leastLengthOfSeq? ps
  | alternatives ps => leastLengthOfOptions? ps
  | repetition p low _ _ => (leastLength? p).map (· * low)

/-- The least number of characters that a sequence takes. -/
def leastLengthOfSeq? : List Pattern → Option Nat
  | [] => some 0
  | p :: ps =>
    match leastLength? p, leastLengthOfSeq? ps with
    | some m, some n => some (m + n)
    | _, _ => none

/-- The least number of characters that one of some alternatives takes; none as soon as one of
    them can match nothing. -/
def leastLengthOfOptions? : List Pattern → Option Nat
  | [] => none
  | [p] => leastLength? p
  | p :: ps =>
    match leastLength? p, leastLengthOfOptions? ps with
    | some m, some n => some (min m n)
    | _, _ => none

end

/-- Whether a pattern takes a character whenever it matches. -/
def takesSome (p : Pattern) : Bool := (leastLength? p).any (0 < ·)

/-! ## Equality -/

mutual

/-- Whether two patterns are the same. -/
def same : Pattern → Pattern → Bool
  | empty, empty => true
  | literal s, literal t => s == t
  | set s, set t => s == t
  | assertion a, assertion b => a == b
  | group i p, group j q => i == j && same p q
  | seq ps, seq qs => allSame ps qs
  | alternatives ps, alternatives qs => allSame ps qs
  | repetition p low high greedy, repetition q low' high' greedy' =>
    low == low' && high == high' && greedy == greedy' && same p q
  | _, _ => false

/-- Whether the patterns in two lists are the same. -/
def allSame : List Pattern → List Pattern → Bool
  | [], [] => true
  | p :: ps, q :: qs => same p q && allSame ps qs
  | _, _ => false

end

end Pattern

end EdgeInclude
