import EdgeInclude.Pattern.Footprint
import EdgeInclude.Pattern.Program

/-!
# Searching for patterns

The leftmost match of a pattern in a text and, among the matches at one place,
the one that the pattern prefers. A place of the program that was tried at a
position of the text without success is not tried there again, whatever way
leads to it, so a search takes time in the size of the program times the length
of the text.

A model of the leftmost-first search of the package `regex`.
-/

namespace EdgeInclude

namespace Pattern

/-- The positions remembered so far, by slot. -/
abbrev Slots := List (Nat × Nat)

/-- A way to go on: a place of the program, a position of the text and what is remembered. -/
structure Thread where
  place : Nat
  position : Nat
  slots : Slots

/-- The character before a position. -/
def charBefore (text : Array Char) (position : Nat) : Option Char :=
  if position = 0 then none else text[position - 1]?

/-- Where a thread can go on from an instruction. -/
def Thread.next (text : Array Char) (t : Thread) : Instr → List Thread
  | .take s =>
    if text[t.position]?.any s.contains then [⟨t.place + 1, t.position + 1, t.slots⟩] else []
  | .assertion a =>
    if a.holds (charBefore text t.position) text[t.position]? then
      [{ t with place := t.place + 1 }]
    else []
  | .save slot => [{ t with place := t.place + 1, slots := (slot, t.position) :: t.slots }]
  | .jump target => [{ t with place := target }]
  | .split preferred other => [{ t with place := preferred }, { t with place := other }]

/-- Follows the pending ways, the first of them first, until one reaches the end of the
    program. `tried` says which places were tried at which positions. -/
def explore (program : Array Instr) (text : Array Char) :
    (fuel : Nat) → (tried : Array Bool) → (pending : List Thread) → Option Thread × Array Bool
  | 0, tried, _ => (none, tried)
  | _ + 1, tried, [] => (none, tried)
  | fuel + 1, tried, t :: pending =>
    match program[t.place]? with
    | none => (some t, tried)
    | some instr =>
      let key := t.place * (text.size + 1) + t.position
      if tried.getD key true then explore program text fuel tried pending
      else explore program text fuel (tried.set! key true) (t.next text instr ++ pending)

/-- Searches at every position from `start` on, of which `n` are left. -/
def searchFrom (program : Array Instr) (text : Array Char) :
    (n start : Nat) → Array Bool → Option (Nat × Thread)
  | 0, _, _ => none
  | n + 1, start, tried =>
    match explore program text (2 * tried.size + 2) tried [⟨0, start, []⟩] with
    | (some t, _) => some (start, t)
    | (none, tried) => searchFrom program text n (start + 1) tried

/-- The part of a text between two positions. -/
def part (text : Array Char) (first last : Nat) : Text := (text.extract first last).toList

/-- The text of a group, if the group took part in the match. -/
def groupText (text : Array Char) (slots : Slots) (i : Nat) : Option Text :=
  match slots.lookup (2 * i), slots.lookup (2 * i + 1) with
  | some first, some last => some (part text first last)
  | _, _ => none

/-- The program of a pattern, unless the pattern takes too much memory. -/
def program? (p : Pattern) : Option (Array Instr) :=
  if p.isAffordable then some (code p 0).toArray else none

/-- The groups of the first match of a program in a text, the whole match being the first
    (`Regex::captures`). -/
def firstMatch (program : Array Instr) (s : Text) : Option (List (Option Text)) :=
  let text := s.toArray
  let tried := Array.replicate (program.size * (text.size + 1)) false
  (searchFrom program text (text.size + 1) 0 tried).map fun (start, t) =>
    some (part text start t.position) ::
      (List.range (groupCount program - 1)).map fun i => groupText text t.slots (i + 1)

end Pattern

end EdgeInclude
