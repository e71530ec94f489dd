import EdgeInclude.Run.Course
import Mathlib.Data.List.Forall2

/-!
# Deadlines

Courses that run side by side go on until one of them stops. Each of the others has a
deadline then: a round from which on it does not go on. A course that comes before the one
that stops still takes its turn in the round of the stop, and one that comes after it does
not.

Results:
* `deadlines_cases`: no course has a deadline if none stops, and otherwise each but the first
  that stops has one.
* `firstStop_cases`: so, if one of them stops, each of the others has the deadline that its
  position asks for, and does not stop before that.
* `firstStop_of_stops`: and the one that stops them is the one that stops before its deadline.
* `events_join`: what happens in courses side by side is what happens in each of them before
  its deadline, in the order of rounds.
-/

namespace EdgeInclude

namespace Course

/-- What happens before a deadline, if there is one. -/
def eventsUntil (deadline : Option Nat) (c : Course) : List (Nat × Event) :=
  c.events.filter fun e => deadline.all (e.1 < ·)

/-- The deadlines of courses of which the first stops in a round: that stops, and has none. -/
def deadlinesFrom (round : Nat) : List Course → List (Option Nat)
  | [] => []
  | c :: cs =>
    if c.stops && c.finish == round then none :: cs.map fun _ => some round
    else some (round + 1) :: deadlinesFrom round cs

/-- The deadlines of courses that run side by side. -/
def deadlines (cs : List Course) : List (Option Nat) :=
  match stopRound? cs with
  | none => cs.map fun _ => none
  | some round => deadlinesFrom round cs

variable {cs : List Course} {round : Nat}

theorem deadlinesFrom_append {before later : List Course} {c : Course}
    (hbefore : ∀ b ∈ before, (b.stops && b.finish == round) = false) (hstops : c.stops = true)
    (hfinish : c.finish = round) :
    deadlinesFrom round (before ++ c :: later) =
      (before.map fun _ => some (round + 1)) ++ none :: later.map fun _ => some round := by
  induction before with
  | nil => simp [deadlinesFrom, hstops, hfinish]
  | cons b before ih =>
    obtain ⟨hb, hbefore⟩ := List.forall_mem_cons.1 hbefore
    simp [deadlinesFrom, hb, ih hbefore]

/-- No course stops before the round in which the first of them does. -/
theorem le_finish_of_stopRound? {c : Course} (h : stopRound? cs = some round) (hc : c ∈ cs)
    (hstops : c.stops = true) : round ≤ c.finish := by
  have hfinish : c.finish ∈ (cs.filter stops).map finish :=
    List.mem_map_of_mem (List.mem_filter.2 ⟨hc, hstops⟩)
  exact (List.min?_eq_some_iff.1 h).2 _ hfinish

/-- No course has a deadline if none stops. Otherwise one of those that stop has none, and the
    others have one because of it, before which they do not stop. -/
theorem deadlines_cases (start : Nat) (cs : List Course) :
    (∀ c ∈ cs, c.stops = false) ∧ deadlines cs = cs.map (fun _ => none) ∧
        join start cs = joinDone start cs ∨
      ∃ before c later, cs = before ++ c :: later ∧ c.stops = true ∧
        (∀ b ∈ before, b.stops = true → c.finish + 1 ≤ b.finish) ∧
        (∀ d ∈ later, d.stops = true → c.finish ≤ d.finish) ∧
        deadlines cs = (before.map fun _ => some (c.finish + 1)) ++
          none :: later.map (fun _ => some c.finish) ∧
        join start cs = ⟨byRound (before.flatMap (eventsUpTo c.finish) ++ c.events ++
          later.flatMap (eventsBefore c.finish)), c.finish, c.ending⟩ := by
  cases hround : stopRound? cs with
  | none =>
    have hall := stopRound?_eq_none_iff.1 hround
    refine .inl ⟨hall, ?_, join_done hall⟩
    rw [deadlines, hround]
  | some round =>
    obtain ⟨before, c, later, rfl, hbefore, hstops, rfl, hjoin⟩ := join_at_stop start hround
    refine .inr ⟨before, c, later, rfl, hstops, fun b hb hstop => ?_, fun d hd hstop => ?_, ?_,
      hjoin⟩
    · have hle := le_finish_of_stopRound? hround (List.mem_append_left _ hb) hstop
      have hne := hbefore b hb
      rw [hstop, Bool.true_and, beq_eq_false_iff_ne] at hne
      omega
    · exact le_finish_of_stopRound? hround (List.mem_append_right _ (List.mem_cons_of_mem _ hd))
        hstop
    · rw [deadlines, hround]
      exact deadlinesFrom_append hbefore hstops rfl

/-- The deadline of the course at a position, if the one at the position `first` stops in a
    round. -/
def cutoff (position first round : Nat) : Nat := if position < first then round + 1 else round

theorem le_cutoff (position first round : Nat) : round ≤ cutoff position first round := by
  unfold cutoff
  split
  · exact Nat.le_succ round
  · exact Nat.le_refl round

/-- The course at the position `first` is the one of several that stops the others. -/
structure FirstStop (start : Nat) (cs : List Course) (first : Nat) (c : Course) : Prop where
  atPosition : cs[first]? = some c
  stops : c.stops = true
  finish : (join start cs).finish = c.finish
  ending : (join start cs).ending = c.ending
  /-- It has no deadline itself. -/
  free : (deadlines cs)[first]? = some none
  /-- The others have one, and do not stop before. -/
  others : ∀ j d, cs[j]? = some d → j ≠ first →
    (deadlines cs)[j]? = some (some (cutoff j first c.finish)) ∧
      (d.stops = true → cutoff j first c.finish ≤ d.finish)

theorem firstStop_cases (start : Nat) (cs : List Course) :
    (∀ c ∈ cs, c.stops = false) ∧ (∀ deadline ∈ deadlines cs, deadline = none) ∨
      ∃ first c, FirstStop start cs first c := by
  obtain ⟨hall, hdeadlines, -⟩ |
      ⟨before, c, later, rfl, hstops, hbefore, hlater, hdeadlines, hjoin⟩ :=
    deadlines_cases start cs
  · refine .inl ⟨hall, ?_⟩
    rw [hdeadlines]
    exact List.forall_mem_map.2 fun _ _ => rfl
  · refine .inr ⟨before.length, c, ?_, hstops, by rw [hjoin], by rw [hjoin], ?_, ?_⟩
    · simp
    · simp [hdeadlines]
    · intro j d hd hne
      obtain hlt | hgt := Nat.lt_or_gt_of_ne hne
      · rw [List.getElem?_append_left hlt] at hd
        rw [cutoff, if_pos hlt, hdeadlines, List.getElem?_append_left (by simpa using hlt),
          List.getElem?_map, hd]
        exact ⟨rfl, hbefore d (List.mem_of_getElem? hd)⟩
      · obtain ⟨m, rfl⟩ := Nat.exists_eq_add_of_lt hgt
        have hposition : before.length + m + 1 - before.length = m + 1 := by omega
        rw [List.getElem?_append_right (by omega), hposition, List.getElem?_cons_succ] at hd
        rw [cutoff, if_neg (by omega), hdeadlines,
          List.getElem?_append_right (by rw [List.length_map]; omega), List.length_map, hposition,
          List.getElem?_cons_succ, List.getElem?_map, hd]
        exact ⟨rfl, hlater d (List.mem_of_getElem? hd)⟩

/-- A course that stops before its deadline is the one that stops the others. -/
theorem firstStop_of_stops (start : Nat) {j : Nat} {d : Course} {deadline : Option Nat}
    (hd : cs[j]? = some d) (hstops : d.stops = true)
    (hdeadline : (deadlines cs)[j]? = some deadline)
    (hbefore : deadline.all (d.finish < ·) = true) : FirstStop start cs j d := by
  obtain ⟨hall, -⟩ | ⟨first, c, hfirst⟩ := firstStop_cases start cs
  · rw [hall d (List.mem_of_getElem? hd)] at hstops
    cases hstops
  · by_cases hne : j = first
    · subst hne
      obtain rfl := Option.some.inj (hd.symm.trans hfirst.atPosition)
      exact hfirst
    · obtain ⟨hcutoff, hlate⟩ := hfirst.others j d hd hne
      obtain rfl := Option.some.inj (hcutoff.symm.trans hdeadline)
      have hlt : d.finish < cutoff j first c.finish := of_decide_eq_true hbefore
      exact absurd (hlate hstops) (Nat.not_le_of_lt hlt)

/-- What happens in courses side by side is what happens in each before its deadline. -/
theorem events_join (start : Nat) (cs : List Course) :
    (join start cs).events = byRound (List.zipWith eventsUntil (deadlines cs) cs).flatten := by
  have hconst : ∀ (deadline : Option Nat) (cs : List Course),
      List.zipWith eventsUntil (cs.map fun _ => deadline) cs =
        cs.map (eventsUntil deadline) := by
    intro deadline cs
    induction cs with
    | nil => rfl
    | cons c cs ih => rw [List.map_cons, List.zipWith_cons_cons, ih, List.map_cons]
  have hnone : ∀ c : Course, eventsUntil none c = c.events := by
    intro c
    simp [eventsUntil]
  obtain ⟨-, hdeadlines, hjoin⟩ | ⟨before, c, later, rfl, -, -, -, hdeadlines, hjoin⟩ :=
    deadlines_cases start cs
  · have hall : cs.map (eventsUntil none) = cs.map events := by
      exact List.map_congr_left fun c _ => hnone c
    rw [hjoin, joinDone, hdeadlines, hconst, hall, List.flatMap_def]
  · have hupTo : before.map (eventsUntil (some (c.finish + 1))) =
        before.map (eventsUpTo c.finish) := by
      refine List.map_congr_left fun b _ => ?_
      simp only [eventsUntil, eventsUpTo, Option.all_some, Nat.lt_succ_iff]
    rw [hjoin, hdeadlines, List.zipWith_append (by simp), List.zipWith_cons_cons, hconst, hconst,
      List.flatten_append, List.flatten_cons, hnone, hupTo, ← List.append_assoc]
    rfl

end Course

end EdgeInclude
