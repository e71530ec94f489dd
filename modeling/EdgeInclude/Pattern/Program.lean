import EdgeInclude.Pattern.Basic

/-!
# Programs of patterns

A pattern as a list of instructions. An instruction goes on to the next one
unless it says otherwise, and of two ways to go on the first is preferred.

Programs take the place of the automata that the package `regex_automata` compiles.
-/

namespace EdgeInclude

namespace Pattern

/-- An instruction. -/
inductive Instr where
  /-- Takes a character of a set. -/
  | take (s : CharSet)
  | assertion (a : Assertion)
  /-- Remembers the position. -/
  | save (slot : Nat)
  | jump (target : Nat)
  /-- Goes on at one place or, failing that, at another. -/
  | split (preferred other : Nat)

/-- A choice between going on at `inside` and at `outside`; a greedy one prefers the former. -/
def choice (greedy : Bool) (inside outside : Nat) : Instr :=
  if greedy then .split inside outside else .split outside inside

/-- `n` copies of code of the given length, placed one after another from `start` on. -/
def copies (code : Nat → List Instr) (length : Nat) : (n start : Nat) → List Instr
  | 0, _ => []
  | n + 1, start => code start ++ copies code length n (start + length)

/-- Up to `n` copies of code, each after a choice to leave for `stop`. -/
def optionalCopies (code : Nat → List Instr) (length : Nat) (greedy : Bool) (stop : Nat) :
    (n start : Nat) → List Instr
  | 0, _ => []
  | n + 1, start =>
    choice greedy (start + 1) stop :: code (start + 1) ++
      optionalCopies code length greedy stop n (start + 1 + length)

/-- Code that is repeated without an upper bound, `low` times at least. Code that may take
    nothing is entered through a choice of its own, so that the preferred way comes first. -/
def unbounded (code : Nat → List Instr) (length : Nat) (greedy mayBeEmpty : Bool) :
    (low start : Nat) → List Instr
  | 0, start =>
    if mayBeEmpty then
      choice greedy (start + 1) (start + length + 2) :: code (start + 1) ++
        [choice greedy (start + 1) (start + length + 2)]
    else
      choice greedy (start + 1) (start + length + 2) :: code (start + 1) ++ [.jump start]
  | low + 1, start =>
    let last := start + low * length
    copies code length low start ++ code last ++ [choice greedy last (last + length + 1)]

mutual

/-- The number of instructions of a pattern. -/
def size : Pattern → Nat
  | empty => 0
  | literal s => s.length
  | set _ => 1
  | assertion _ => 1
  | group _ p => size p + 2
  | seq ps => sizeOfSeq ps
  | alternatives ps => sizeOfOptions ps
  | repetition p low (some high) _ => low * size p + (high - low) * (size p + 1)
  | repetition p 0 none _ => size p + 2
  | repetition p (low + 1) none _ => (low + 1) * size p + 1

/-- The number of instructions of a sequence. -/
def sizeOfSeq : List Pattern → Nat
  | [] => 0
  | p :: ps => size p + sizeOfSeq ps

/-- The number of instructions of alternatives. -/
def sizeOfOptions : List Pattern → Nat
  | [] => 0
  | [p] => size p
  | p :: ps => size p + 2 + sizeOfOptions ps

end

mutual

/-- The instructions of a pattern, placed from `start` on. -/
def code : Pattern → Nat → List Instr
  | empty, _ => []
  | literal s, _ => s.map fun c => .take (.single c)
  | set s, _ => [.take s]
  | assertion a, _ => [.assertion a]
  | group i p, start => .save (2 * i) :: code p (start + 1) ++ [.save (2 * i + 1)]
  | seq ps, start => codeOfSeq ps start
  | alternatives ps, start => codeOfOptions ps (start + sizeOfOptions ps) start
  | repetition p low (some high) greedy, start =>
    copies (code p) (size p) low start ++
      optionalCopies (code p) (size p) greedy
        (start + low * size p + (high - low) * (size p + 1)) (high - low) (start + low * size p)
  | repetition p low none greedy, start =>
    unbounded (code p) (size p) greedy (!takesSome p) low start

/-- The instructions of a sequence. -/
def codeOfSeq : List Pattern → Nat → List Instr
  | [], _ => []
  | p :: ps, start => code p start ++ codeOfSeq ps (start + size p)

/-- The instructions of alternatives that all go on at `stop`. -/
def codeOfOptions : List Pattern → (stop start : Nat) → List Instr
  | [], _, _ => []
  | [p], _, start => code p start
  | p :: ps, stop, start =>
    .split (start + 1) (start + size p + 2) :: code p (start + 1) ++
      .jump stop :: codeOfOptions ps stop (start + size p + 2)

end

/-- The number of groups of a program, with the whole match as the first. -/
def groupCount (program : Array Instr) : Nat :=
  program.foldl (fun n i =>
    match i with
    | .save slot => max n (slot / 2 + 1)
    | _ => n) 1

end Pattern

end EdgeInclude
