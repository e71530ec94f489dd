import EdgeInclude.Event

/-!
# Courses

How something that takes several rounds goes: what happens in each round, in
which round it comes to an end, and what it ends with. Courses follow one
another or run side by side. In a round, those that run side by side go on one
after another in their order. The first that fails fails them all: no later one
goes on in that round, and none goes on in any round after it.

A course can be known up to a round only. Then it ends, as far as is known, in
that round, with nothing known about what it ends with.

That the first failure in time decides is an assumption about
`futures_util::future::try_join_all`, which `Task::resolve` calls. The function
keeps to it for up to 30 elements of a level. Among more than that it sees a
failure only once all elements before the one that fails are done, so the level
can fail later than its course does, and like another of its elements. For such a
level courses are right where every request ends in the round in which it begins.

Results:

* `text?_join`: courses come to a good end together exactly if each of them
  does, and then their texts stand in their order.
* `join_at_stop`, `join_cases`: otherwise they end in the round in which the first of them
  stops.
* `ending_join`: and if they fail, they fail like one of them.
-/

namespace EdgeInclude

/-- How something goes, round by round. -/
structure Course where
  /-- What happens, each with its round, in order. -/
  events : List (Nat × Event)
  /-- The round of the end. -/
  finish : Nat
  /-- The text or the error at the end, if it is known. -/
  ending : Option (Except Error Text)

namespace Course

/-- Ends at once with a text. -/
def done (round : Nat) (s : Text) : Course := ⟨[], round, some (.ok s)⟩

/-- Ends at once with an error. -/
def fail (round : Nat) (e : Error) : Course := ⟨[], round, some (.error e)⟩

/-- Is not known from a round on. -/
def unknown (round : Nat) : Course := ⟨[], round, none⟩

/-- Something that happens in a round before a course goes on. -/
def note (round : Nat) (events : List Event) (c : Course) : Course :=
  { c with events := events.map (round, ·) ++ c.events }

/-- A course followed, in the round in which it ends, by what its end calls for. -/
def andThen (c : Course) (next : Nat → Except Error Text → Course) : Course :=
  match c.ending with
  | none => c
  | some result =>
    let d := next c.finish result
    ⟨c.events ++ d.events, d.finish, d.ending⟩

/-- The text of a course that has come to a good end. -/
def text? (c : Course) : Option Text :=
  match c.ending with
  | some (.ok s) => some s
  | _ => none

/-- Whether a course fails, or is not known any further. -/
def stops (c : Course) : Bool := c.text?.isNone

/-! ## Side by side -/

/-- The round in which the first of several courses stops. -/
def stopRound? (cs : List Course) : Option Nat := ((cs.filter stops).map finish).min?

/-- Events in the order of their rounds; in one round they keep their order. -/
def byRound (events : List (Nat × Event)) : List (Nat × Event) :=
  events.mergeSort fun a b => a.1 ≤ b.1

/-- What happens in a course up to, and including, a round. -/
def eventsUpTo (round : Nat) (c : Course) : List (Nat × Event) :=
  c.events.filter fun e => e.1 ≤ round

/-- What happens in a course before a round. -/
def eventsBefore (round : Nat) (c : Course) : List (Nat × Event) :=
  c.events.filter fun e => e.1 < round

/-- Courses that run side by side from a round on and all come to a good end. -/
def joinDone (start : Nat) (cs : List Course) : Course where
  events := byRound (cs.flatMap events)
  finish := (cs.map finish).foldl max start
  ending := some (.ok (cs.filterMap text?).flatten)

/-- Courses that run side by side up to a round in which one of them stops. -/
def joinStopped (round : Nat) (cs : List Course) : Course :=
  let stopsHere := fun c : Course => c.stops && c.finish == round
  let before := cs.takeWhile (!stopsHere ·)
  match cs.dropWhile (!stopsHere ·) with
  | [] => unknown round
  | c :: later =>
    { events := byRound (before.flatMap (eventsUpTo round) ++ c.events ++
        later.flatMap (eventsBefore round))
      finish := round
      ending := c.ending }

/-- Courses that run side by side from a round on (`futures_util::future::try_join_all`, as
    `Task::resolve` calls it). The first of them to stop, in time and then in their order, stops
    the others; for more than 30 of them that is an assumption. -/
def join (start : Nat) (cs : List Course) : Course :=
  match stopRound? cs with
  | none => joinDone start cs
  | some round => joinStopped round cs

theorem stopRound?_eq_none_iff {cs : List Course} :
    stopRound? cs = none ↔ ∀ c ∈ cs, c.stops = false := by
  simp [stopRound?, List.min?_eq_none_iff]

theorem join_done {start : Nat} {cs : List Course} (h : ∀ c ∈ cs, c.stops = false) :
    join start cs = joinDone start cs := by
  rw [join, stopRound?_eq_none_iff.2 h]

theorem join_stopped {start round : Nat} {cs : List Course} (h : stopRound? cs = some round) :
    join start cs = joinStopped round cs := by
  rw [join, h]

/-- If one of several courses stops, there is a first that does in the round of the stop. Those
    before it go on up to that round, and those after it up to the round before. -/
theorem join_at_stop (start : Nat) {round : Nat} {cs : List Course}
    (h : stopRound? cs = some round) :
    ∃ before c later, cs = before ++ c :: later ∧
      (∀ b ∈ before, (b.stops && b.finish == round) = false) ∧ c.stops = true ∧
      c.finish = round ∧
        join start cs = ⟨byRound (before.flatMap (eventsUpTo round) ++ c.events ++
          later.flatMap (eventsBefore round)), round, c.ending⟩ := by
  obtain ⟨first, hfirst, hfinish⟩ := List.mem_map.1 (List.min?_mem h)
  obtain ⟨hmem, hstops⟩ := List.mem_filter.1 hfirst
  let goesOn := fun c : Course => !(c.stops && c.finish == round)
  have hgoes : ∀ b ∈ cs.takeWhile goesOn, goesOn b = true :=
    List.all_eq_true.1 List.all_takeWhile
  cases hdrop : cs.dropWhile goesOn with
  | nil =>
    have htake : cs.takeWhile goesOn = cs := by
      rw [← List.append_nil (cs.takeWhile goesOn), ← hdrop, List.takeWhile_append_dropWhile]
    have hfirst := hgoes first (htake.symm ▸ hmem)
    simp [goesOn, hstops, hfinish] at hfirst
  | cons c later =>
    have hc := List.head?_dropWhile_not goesOn cs
    rw [hdrop] at hc
    simp only [goesOn, List.head?_cons, Bool.not_eq_false', Bool.and_eq_true, beq_iff_eq] at hc
    refine ⟨cs.takeWhile goesOn, c, later, ?_, fun b hb => ?_, hc.1, hc.2, ?_⟩
    · rw [← hdrop, List.takeWhile_append_dropWhile]
    · simpa only [goesOn, Bool.not_eq_true'] using hgoes b hb
    · rw [join_stopped h, joinStopped]
      dsimp only
      rw [hdrop]

/-- Courses side by side all come to a good end, or else one of them stops the others: those
    before it go on up to the round in which it stops, and those after it up to the round
    before. -/
theorem join_cases (start : Nat) (cs : List Course) :
    (∀ c ∈ cs, c.stops = false) ∧ join start cs = joinDone start cs ∨
      ∃ before c later, cs = before ++ c :: later ∧ c.stops = true ∧
        join start cs = ⟨byRound (before.flatMap (eventsUpTo c.finish) ++ c.events ++
          later.flatMap (eventsBefore c.finish)), c.finish, c.ending⟩ := by
  cases hround : stopRound? cs with
  | none =>
    have hall := stopRound?_eq_none_iff.1 hround
    exact .inl ⟨hall, join_done hall⟩
  | some round =>
    obtain ⟨before, c, later, hcs, -, hstops, rfl, hjoin⟩ := join_at_stop start hround
    exact .inr ⟨before, c, later, hcs, hstops, hjoin⟩

theorem text?_join (start : Nat) (cs : List Course) :
    (join start cs).text? =
      if ∀ c ∈ cs, c.stops = false then some (cs.filterMap text?).flatten else none := by
  obtain ⟨hall, hjoin⟩ | ⟨before, c, later, rfl, hstops, hjoin⟩ := join_cases start cs
  · rw [if_pos hall, hjoin]
    rfl
  · have hnot : ¬∀ d ∈ before ++ c :: later, d.stops = false := by
      intro hall
      have hc := hall c (List.mem_append_right _ List.mem_cons_self)
      rw [hstops] at hc
      cases hc
    rw [if_neg hnot, hjoin]
    exact Option.isNone_iff_eq_none.1 hstops

theorem ending_of_stops_eq_false {c : Course} (h : c.stops = false) :
    ∃ s, c.text? = some s ∧ c.ending = some (.ok s) := by
  obtain ⟨s, hs⟩ := Option.isSome_iff_exists.1 (Option.isNone_eq_false_iff.1 h)
  refine ⟨s, hs, ?_⟩
  unfold text? at hs
  split at hs
  · next hending => rw [hending, Option.some.inj hs]
  · cases hs

/-- Courses side by side come to a good end if all do, or else fail like one of them. -/
theorem ending_join {n : Nat} {cs : List Course} {r : Except Error Text}
    (h : (join n cs).ending = some r) :
    ((∀ c ∈ cs, c.stops = false) ∧ r = .ok (cs.filterMap text?).flatten) ∨
      ∃ c ∈ cs, ∃ e, c.ending = some (.error e) ∧ r = .error e := by
  obtain ⟨hall, hjoin⟩ | ⟨before, c, later, rfl, hstops, hjoin⟩ := join_cases n cs
  · rw [hjoin] at h
    exact .inl ⟨hall, (Option.some.inj h).symm⟩
  · rw [hjoin] at h
    have hending : c.ending = some r := h
    cases r with
    | error e => exact .inr ⟨c, List.mem_append_right _ List.mem_cons_self, e, hending, rfl⟩
    | ok s =>
      -- A course that stops does not come to a good end.
      rw [stops, text?, hending] at hstops
      cases hstops

end Course

end EdgeInclude
