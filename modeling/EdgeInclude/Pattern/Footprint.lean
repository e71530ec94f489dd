import EdgeInclude.Pattern.Basic
import EdgeInclude.Pattern.ByteRange
import Std.Data.HashMap

/-!
# Footprints of patterns

Patterns may be searched for by automata over the bytes of a text, one that goes
forwards and one that goes backwards. A pattern is affordable if both stay within
a limit of memory. Here the states of such automata are counted, and not built.

Every state takes as much memory as any other; each transition of a state with
several, and each way out of a fork, takes some more. A part of a pattern that
ends in a fork takes another way out of it when something follows. Sets with
characters outside ASCII share states, as far as a table of limited size
remembers them; a state that finds its slot of the table taken is a new one.

A model of the memory that the package `regex_automata` counts against the limit
of `RegexBuilder::size_limit`.
-/

namespace EdgeInclude

/-- The memory that an automaton takes: its states, and what they take beyond their own size. -/
structure Footprint where
  states : Nat := 0
  extra : Nat := 0

namespace Footprint

/-! ## Sizes -/

/-- The size of a state. -/
def stateSize : Nat := 32

/-- The size of a transition. -/
def edgeSize : Nat := 8

/-- The size of a way out of a fork. -/
def branchSize : Nat := 4

/-- The memory that an automaton may take (the default of `RegexBuilder::size_limit`). -/
def limit : Nat := 10 * 1024 * 1024

/-- The memory of an automaton. -/
def bytes (m : Footprint) : Nat := m.states * stateSize + m.extra

/-- Whether an automaton takes more memory than it may. -/
def isOver (m : Footprint) : Bool := limit < m.bytes

/-- Adds `n` simple states. -/
def plain (m : Footprint) (n : Nat) : Footprint := { m with states := m.states + n }

/-- Adds a state with some transitions. -/
def withEdges (m : Footprint) (n : Nat) : Footprint :=
  { states := m.states + 1, extra := m.extra + n * edgeSize }

/-- Adds a way out of a fork. -/
def branch (m : Footprint) : Footprint := { m with extra := m.extra + branchSize }

/-- Adds a fork with `n` ways out. -/
def fork (m : Footprint) (n : Nat) : Footprint :=
  { states := m.states + 1, extra := m.extra + n * branchSize }

/-- What an automaton takes after a part of it, with whether that part ends in a fork, once
    something follows. -/
def linked (part : Footprint × Bool) : Footprint := if part.2 then part.1.branch else part.1

/-! ## Sets -/

/-- The slot for some numbers in a table of a given size. -/
def slotOf (slots : UInt64) (numbers : List Nat) : Nat :=
  (numbers.foldl (fun (h : UInt64) n => (h ^^^ n.toUInt64) * 1099511628211)
    14695981039346656037 % slots).toNat

/-- An automaton being counted, with a table of states by slots. The transitions of a state are
    known by a list of numbers. -/
structure Shared where
  footprint : Footprint
  table : Std.HashMap Nat (List Nat × Nat) := {}

/-- The number of slots for the states of an automaton that goes forwards. -/
def forwardSlots : UInt64 := 10000

/-- The number of slots for the states of an automaton that goes backwards. -/
def backwardSlots : UInt64 := 1000

/-- Adds a state with known transitions, which takes the memory that `add` says. -/
def Shared.enter (slot : Nat) (add : Footprint → Footprint) (edges : List Nat) (b : Shared) :
    Nat × Shared :=
  let n := b.footprint.states
  (n, { footprint := add b.footprint, table := b.table.insert slot (edges, n) })

/-- The state with known transitions: one that its slot remembers, or else a new one. -/
def Shared.intern (slots : UInt64) (add : Footprint → Footprint) (edges : List Nat)
    (b : Shared) : Nat × Shared :=
  let slot := slotOf slots edges
  match b.table[slot]? with
  | some (known, n) => if known = edges then (n, b) else b.enter slot add edges
  | none => b.enter slot add edges

/-- Byte sequences by their first bytes, as long as these stay the same. -/
def groupByFirst : List (List CharSet.ByteRange) →
    List (CharSet.ByteRange × List (List CharSet.ByteRange))
  | [] => []
  | [] :: rest => groupByFirst rest
  | (r :: tail) :: rest =>
    match groupByFirst rest with
    | [] => [(r, [tail])]
    | (q, tails) :: groups =>
      if r = q then (r, tail :: tails) :: groups else (r, [tail]) :: (q, tails) :: groups

/-- The state from which byte sequences lead to `target`, those of equal first bytes through one
    state. No sequence is longer than `fuel`. -/
def Shared.trie (target : Nat) :
    (fuel : Nat) → List (List CharSet.ByteRange) → Shared → Nat × Shared
  | 0, _, b => (target, b)
  | fuel + 1, sequences, b =>
    let (edges, b) := (groupByFirst sequences).foldl (fun (edges, b) (r, tails) =>
        let (n, b) :=
          if tails.all List.isEmpty then (target, b) else Shared.trie target fuel tails b
        ([r.1, r.2, n] :: edges, b)) ([], b)
    b.intern forwardSlots (·.withEdges edges.length) edges.reverse.flatten

/-- Adds a set to an automaton that goes forwards. -/
def addForward (s : CharSet) (m : Footprint) : Footprint :=
  ((Shared.mk (m.plain 1) {}).trie m.states 4 s.byteSequences).2.footprint

/-- Adds a byte sequence, the last byte first, to the ways out of a fork. -/
def Shared.chain (stop : Nat) (b : Shared) (sequence : List CharSet.ByteRange) : Shared :=
  let (_, b) := sequence.foldl (fun (n, b) r =>
      b.intern backwardSlots (·.plain 1) [n, r.1, r.2]) (stop, b)
  { b with footprint := b.footprint.branch }

/-- Adds a set to an automaton that goes backwards. -/
def addBackward (s : CharSet) (m : Footprint) : Footprint :=
  (s.byteSequences.foldl (Shared.chain (m.states + 1)) ⟨m.plain 2, {}⟩).footprint

/-- Adds a set. -/
def addSet (backward : Bool) (s : CharSet) (m : Footprint) : Footprint :=
  if s.isAscii then (m.plain 1).withEdges s.ranges.size
  else if backward then addBackward s m
  else addForward s m

/-! ## Texts -/

/-- Adds the states that tell texts of at most `fuel` bytes apart. Where a text ends, those that
    were to be tried before it are kept from those after it. -/
def addTexts : (fuel : Nat) → List (List UInt8) → Footprint → Footprint
  | 0, _, m => m
  | fuel + 1, texts, m =>
    if texts.all List.isEmpty then m
    else
      let chunks := (texts.splitOnP List.isEmpty).filter (!·.isEmpty)
      let ends := ((texts.dropWhile List.isEmpty).filter List.isEmpty).length +
        (if (texts.head?.map List.isEmpty).getD false then 1 else 0)
      chunks.foldl (fun m chunk =>
          let heads := (chunk.filterMap List.head?).eraseDups
          let m := if heads.length = 1 then m.plain 1 else m.withEdges heads.length
          heads.foldl (fun m b =>
            addTexts fuel ((chunk.filter (·.head? == some b)).map List.tail) m) m)
        (m.fork (chunks.length + ends))

/-- The bytes of a text in the order in which an automaton takes them. -/
def bytesInOrder (backward : Bool) (s : Text) : List UInt8 :=
  if backward then s.utf8.reverse else s.utf8

/-! ## Repetition -/

/-- Adds `n` parts in a row, unless they take too much. -/
def addCopies (add : Footprint → Footprint × Bool) : (n : Nat) → Footprint → Footprint × Bool
  | 0, m => (m.plain 1, false)
  | 1, m => add m
  | n + 2, m => if m.isOver then (m, false) else addCopies add (n + 1) (linked (add m))

/-- Adds `n` parts that may be left out from some of them on, unless they take too much. -/
def addOptional (add : Footprint → Footprint × Bool) : (n : Nat) → Footprint → Footprint
  | 0, m => m
  | n + 1, m => if m.isOver then m else addOptional add n (linked (add (m.fork 2)))

/-- Adds a part that is repeated without an upper bound, `low` times at least. -/
def addUnbounded (add : Footprint → Footprint × Bool) (takesSome : Bool) :
    (low : Nat) → Footprint → Footprint × Bool
  | 0, m =>
    if takesSome then ((linked (add (m.fork 1))), true)
    else (((linked (add m)).fork 2).fork 2 |>.plain 1, false)
  | 1, m => ((linked (add m)).fork 1, true)
  | low + 2, m => ((linked (add (linked (addCopies add (low + 1) m)))).fork 1, true)

/-- Adds a part that is repeated between `low` and `high` times. -/
def addBounded (add : Footprint → Footprint × Bool) (low high : Nat) (m : Footprint) :
    Footprint × Bool :=
  if low = high then addCopies add low m
  else if low = 0 ∧ high = 1 then ((linked (add (m.fork 2))).plain 1, false)
  else (addOptional add (high - low) ((linked (addCopies add low m)).plain 1), false)

end Footprint

namespace Pattern

open Footprint

/-! ## Patterns -/

/-- The text that a pattern is. -/
def literal? : Pattern → Option Text
  | literal s => some s
  | _ => none

mutual

/-- Adds the states of a pattern. Says whether the last of them is a fork. -/
def addTo (backward : Bool) : Pattern → Footprint → Footprint × Bool
  | empty, m => (m.plain 1, false)
  | literal s, m => (m.plain s.byteCount, false)
  | set s, m => (addSet backward s m, false)
  | assertion _, m => (m.plain 1, false)
  | group _ p, m =>
    if backward then addTo backward p m
    else ((linked (addTo backward p (m.plain 1))).plain 1, false)
  | seq ps, m => if backward then addBackwards ps m else addForwards ps m
  | alternatives ps, m =>
    match ps.mapM literal? with
    | some texts =>
      let texts := texts.map (bytesInOrder backward)
      (addTexts ((texts.map List.length).foldl max 0 + 1) texts (m.plain 1), false)
    | none => (addEach backward 0 ps m, false)
  | repetition p low none _, m => addUnbounded (addTo backward p) (takesSome p) low m
  | repetition p low (some high) _, m => addBounded (addTo backward p) low high m

/-- Adds the parts of a sequence in their order. -/
def addForwards : List Pattern → Footprint → Footprint × Bool
  | [], m => (m.plain 1, false)
  | [p], m => addTo false p m
  | p :: ps, m => addForwards ps (linked (addTo false p m))

/-- Adds the parts of a sequence, the last one first. -/
def addBackwards : List Pattern → Footprint → Footprint × Bool
  | [], m => (m.plain 1, false)
  | [p], m => addTo true p m
  | p :: ps, m => addTo true p (linked (addBackwards ps m))

/-- Adds alternatives, of which `n` came before. The fork before them and the state after them
    are added once there are two. -/
def addEach (backward : Bool) (n : Nat) : List Pattern → Footprint → Footprint
  | [], m => m
  | p :: ps, m =>
    let m := (linked (addTo backward p m)).branch
    addEach backward (n + 1) ps (if n = 1 then m.plain 2 else m)

end

/-! ## Ends of texts -/

mutual

/-- Whether a pattern matches at the start of the text only, as far as its first parts say. -/
def startsText : Pattern → Bool
  | assertion a => a == .textStart
  | group _ p => startsText p
  | seq ps => startsTextInSeq ps
  | alternatives ps => allStartText ps
  | repetition p low _ _ => low != 0 && startsText p
  | _ => false

/-- Whether one of the parts up to the first that takes something is at the start of the
    text. -/
def startsTextInSeq : List Pattern → Bool
  | [] => false
  | p :: ps => startsText p || (takesNothing p && startsTextInSeq ps)

/-- Whether all of some patterns match at the start of the text only. -/
def allStartText : List Pattern → Bool
  | [] => true
  | p :: ps => startsText p && allStartText ps

end

mutual

/-- Whether a pattern matches at the end of the text only, as far as its last parts say. -/
def endsText : Pattern → Bool
  | assertion a => a == .textEnd
  | group _ p => endsText p
  | seq ps => endsTextInSeq ps
  | alternatives ps => allEndText ps
  | repetition p low _ _ => low != 0 && endsText p
  | _ => false

/-- Whether one of the parts after the last that takes something is at the end of the text. -/
def endsTextInSeq : List Pattern → Bool
  | [] => false
  | p :: ps => endsTextInSeq ps || (allTakeNothing ps && endsText p)

/-- Whether all of some patterns match at the end of the text only. -/
def allEndText : List Pattern → Bool
  | [] => true
  | p :: ps => endsText p && allEndText ps

end

/-! ## Automata -/

/-- The states that lead to a pattern from any place before it, unless there is only one such
    place. -/
def lead (fixed : Bool) : Footprint :=
  if fixed then plain {} 1 else (((fork {} 1).plain 1).withEdges 1).branch

/-- The memory of the automaton that goes forwards, where the whole match is a group too. -/
def forwardFootprint (p : Pattern) : Footprint :=
  ((addTo false (group 0 p) (lead p.startsText)).1).plain 1

/-- The memory of the automaton that goes backwards. -/
def backwardFootprint (p : Pattern) : Footprint :=
  (linked (addTo true p (lead p.endsText))).plain 1

/-- Whether a pattern stays within the limit of memory (the size limit of `regex::RegexBuilder`). -/
def isAffordable (p : Pattern) : Bool :=
  !p.forwardFootprint.isOver && !p.backwardFootprint.isOver

end Pattern

end EdgeInclude
