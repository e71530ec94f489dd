import EdgeInclude.Proofs.Plan.Quiet
import EdgeInclude.Proofs.Run.Invariant
import Mathlib.Data.List.TakeWhile

/-!
# Runs that are broken off

A fault breaks a run off. Nothing comes of what the outcome of the run says beyond the first
fault among its events, so what is known of all outcomes is known of the runs that return,
and of the others up to there.

Results:
* `exit_eq_returned_iff`, `exit_eq_faulted_iff`: a run returns if there is no fault among its
  events, and is broken off by the first of them otherwise.
* `faults_of_exit`: only a library function breaks a run off.
* `exit_of_interpret?`: so every run returns if no function of the library ever faults.
-/

namespace EdgeInclude

/-! ## Exits -/

namespace Outcome

variable {o : Outcome} {before later : List Event} {f : Fault}

theorem exit_of_faultless (h : ∀ e ∈ o.events, e.isFault = false) : o.exit = .returned o := by
  have hdrop : o.events.dropWhile (!·.isFault) = [] := by
    refine List.dropWhile_eq_nil_iff.2 fun e he => ?_
    rw [h e he]
    rfl
  rw [exit, hdrop]

theorem exit_of_fault (hbefore : ∀ e ∈ before, e.isFault = false)
    (h : o.events = before ++ .fault f :: later) : o.exit = .faulted before f := by
  have hgo : ∀ e ∈ before, (!e.isFault) = true := by
    intro e he
    rw [hbefore e he]
    rfl
  have hdrop : o.events.dropWhile (!·.isFault) = .fault f :: later := by
    rw [h, List.dropWhile_append_of_pos hgo]
    rfl
  have htake : o.events.takeWhile (!·.isFault) = before := by
    rw [h, List.takeWhile_append_of_pos hgo]
    exact List.append_nil before
  rw [exit, hdrop, htake]

/-- There is no fault among events, or else a first one. -/
theorem faultless_or_fault (events : List Event) :
    (∀ e ∈ events, e.isFault = false) ∨ ∃ before f later,
      (∀ e ∈ before, e.isFault = false) ∧ events = before ++ .fault f :: later := by
  induction events with
  | nil => exact .inl (List.forall_mem_nil _)
  | cons e events ih =>
    cases e with
    | fault f => exact .inr ⟨[], f, events, List.forall_mem_nil _, rfl⟩
    | request _ | line _ _ =>
      obtain h | ⟨before, f, later, hbefore, rfl⟩ := ih
      · exact .inl (List.forall_mem_cons.2 ⟨rfl, h⟩)
      · exact .inr ⟨_ :: before, f, later, List.forall_mem_cons.2 ⟨rfl, hbefore⟩, rfl⟩

theorem exit_eq_returned_iff {o' : Outcome} :
    o.exit = .returned o' ↔ o' = o ∧ ∀ e ∈ o.events, e.isFault = false := by
  obtain h | ⟨before, f, later, hbefore, h⟩ := faultless_or_fault o.events
  · rw [exit_of_faultless h, Exit.returned.injEq]
    exact ⟨fun ho => ⟨ho.symm, h⟩, fun ho => ho.1.symm⟩
  · rw [exit_of_fault hbefore h]
    constructor
    · intro ho
      cases ho
    · rintro ⟨-, hfaultless⟩
      have hfault : Event.isFault (.fault f) = false := hfaultless _ (h ▸ by simp)
      cases hfault

theorem exit_eq_faulted_iff :
    o.exit = .faulted before f ↔
      (∀ e ∈ before, e.isFault = false) ∧ ∃ later, o.events = before ++ .fault f :: later := by
  constructor
  · intro hexit
    obtain h | ⟨before', f', later, hbefore, h⟩ := faultless_or_fault o.events
    · rw [exit_of_faultless h] at hexit
      cases hexit
    · rw [exit_of_fault hbefore h] at hexit
      cases hexit
      exact ⟨hbefore, later, h⟩
  · rintro ⟨hbefore, later, h⟩
    exact exit_of_fault hbefore h

end Outcome

/-! ## Runs -/

/-- Whether an event, if it is a fault, is that of a function of a library. -/
def Event.FaultOf (lib : Library) (e : Event) : Prop := ∀ f, e = .fault f → lib.Faults f

theorem Event.Evaluates.faultOf {lib : Library} {e : Event} (h : e.Evaluates lib) :
    e.FaultOf lib := by
  rintro f rfl
  cases h with
  | fault hfault => exact hfault

namespace Processor

/-- Whatever is fetched and joined, only planning brings faults about. -/
theorem faultOf_invariant (p : Processor) : p.Invariant (Event.FaultOf p.library)
    fun _ c => ∀ event ∈ c.events, event.2.FaultOf p.library where
  ended n ending := List.forall_mem_nil _
  request n url := List.forall_mem_singleton.2 fun _ h => by cases h
  note events hc hnoted := by
    refine List.forall_mem_append.2 ⟨List.forall_mem_map.2 hnoted, hc⟩
  andThen hc hnext := by
    unfold Course.andThen
    split
    · exact hc
    · exact List.forall_mem_append.2 ⟨hc, hnext _ _⟩
  join h event hevent := by
    obtain ⟨c, hc, hevent, -⟩ := Course.exists_of_mem_events_join hevent
    exact h c hc event hevent
  lines _ _ _ h := by cases h

variable {p : Processor} {limit : Nat} {substitute : Bool} {document : Text} {scope : Scope}
  {o : Outcome}

theorem faultOf_of_interpret? (h : p.interpret? limit substitute document scope = some o) :
    ∀ e ∈ o.events, e.FaultOf p.library := by
  have hplan : ∀ store substitute document scope, ∀ e ∈
      (Pass.ofDocument p.toInterpreter store substitute document scope).plan.events,
      e.FaultOf p.library :=
    fun _ _ _ _ e he => (Plan.evaluated_ofNested _ _ _ _ e he).faultOf
  obtain ⟨depth, hwithin⟩ := interpretWithin?_of_interpret? h
  obtain ⟨result, -, rfl⟩ := Option.map_eq_some_iff.1 hwithin
  have hprocess := (faultOf_invariant p).process (fun store => hplan store true) depth
  exact List.forall_mem_map.2
    ((faultOf_invariant p).runPass hprocess 0 _ (hplan .empty substitute document scope))

/-- Only a fault of a library function breaks a run off. -/
theorem faults_of_exit (h : p.interpret? limit substitute document scope = some o)
    {before : List Event} {f : Fault} (hexit : o.exit = .faulted before f) :
    p.library.Faults f := by
  obtain ⟨-, later, hevents⟩ := Outcome.exit_eq_faulted_iff.1 hexit
  exact faultOf_of_interpret? h (.fault f) (hevents ▸ by simp) f rfl

/-- Every run returns if no function of the library ever faults. -/
theorem exit_of_interpret? (h : p.interpret? limit substitute document scope = some o)
    (hlibrary : ∀ f, ¬p.library.Faults f) : o.exit = .returned o := by
  cases hexit : o.exit with
  | returned o' => rw [(Outcome.exit_eq_returned_iff.1 hexit).1]
  | faulted before f => exact absurd (faults_of_exit h hexit) (hlibrary f)

end Processor

end EdgeInclude
