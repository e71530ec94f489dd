import EdgeInclude.Proofs.Plan.Depth
import EdgeInclude.Proofs.Run.Failure
import EdgeInclude.Proofs.Run.Invariant

/-!
# Blocks that are tried

A block is planned, attempted and recovered at three different times. What it attempts
is planned with the level around it, and all that this binds stays bound. It is
attempted when the level is run. Only if that fails, the other part of the block is
processed, as a level of its own, and takes the place of what was attempted.

Results:
* `spans_process`: whatever is processed from a round on happens from that round on.
* `tries_attempt`: what a block yields if all its elements come to a good end, and what if
  one of them fails.
* `tryBlock_recovers`: so it is for every block of a level, and the rest of the level sees
  what the attempt binds, and nothing that the other part binds.
-/

namespace EdgeInclude

/-! ## Rounds -/

namespace Course

/-- Whether a course begins no sooner than a round, and nothing happens after its end. -/
structure Spans (start : Nat) (c : Course) : Prop where
  start_le : start ≤ c.finish
  within : ∀ event ∈ c.events, start ≤ event.1 ∧ event.1 ≤ c.finish

variable {n : Nat} {c : Course}

theorem Spans.note (h : Spans n c) (events : List Event) : Spans n (c.note n events) := by
  refine ⟨h.start_le, fun event hevent => ?_⟩
  obtain hnoted | hevent := List.mem_append.1 hevent
  · obtain ⟨_, -, rfl⟩ := List.mem_map.1 hnoted
    exact ⟨Nat.le_refl n, h.start_le⟩
  · exact h.within event hevent

theorem Spans.andThen {next : Nat → Except Error Text → Course} (h : Spans n c)
    (hnext : ∀ round result, Spans round (next round result)) : Spans n (c.andThen next) := by
  unfold Course.andThen
  split
  · exact h
  · next result _ =>
    have hlater := hnext c.finish result
    refine ⟨Nat.le_trans h.start_le hlater.start_le, fun event hevent => ?_⟩
    obtain hevent | hevent := List.mem_append.1 hevent
    · obtain ⟨hstart, hfinish⟩ := h.within event hevent
      exact ⟨hstart, Nat.le_trans hfinish hlater.start_le⟩
    · obtain ⟨hstart, hfinish⟩ := hlater.within event hevent
      exact ⟨Nat.le_trans h.start_le hstart, hfinish⟩

theorem spans_join {cs : List Course} (h : ∀ c ∈ cs, Spans n c) : Spans n (join n cs) where
  start_le := by
    obtain ⟨-, hjoin⟩ | ⟨before, c, later, rfl, -, hjoin⟩ := join_cases n cs
    · rw [hjoin]
      exact (le_foldl_max n (cs.map finish)).1
    · rw [hjoin]
      exact (h c (List.mem_append_right _ List.mem_cons_self)).start_le
  within event hevent := by
    obtain ⟨c, hc, hevent, hend⟩ := exists_of_mem_events_join hevent
    obtain ⟨hbegun, hended⟩ := (h c hc).within event hevent
    exact ⟨hbegun, hend.elim (Nat.le_trans hended) id⟩

/-! ## Ends -/

/-- Courses side by side of which one fails do not come to a good end. -/
theorem ending_join_of_fails {cs : List Course} {e : Error} {result : Except Error Text}
    (hc : c ∈ cs) (hfails : c.ending = some (.error e)) (h : (join n cs).ending = some result) :
    ∃ cause, result = .error cause ∧ ∃ d ∈ cs, d.ending = some (.error cause) := by
  obtain ⟨hdone, -⟩ | ⟨d, hd, cause, hending, rfl⟩ := ending_join h
  · obtain ⟨s, -, hs⟩ := ending_of_stops_eq_false (hdone c hc)
    rw [hfails] at hs
    cases hs
  · exact ⟨cause, rfl, d, hd, hending⟩

/-- Courses side by side come to an end if each of them does. -/
theorem ending_join_isSome {cs : List Course} (h : ∀ c ∈ cs, c.ending.isSome = true) :
    (join n cs).ending.isSome = true := by
  obtain ⟨-, hjoin⟩ | ⟨before, c, later, rfl, -, hjoin⟩ := join_cases n cs
  · rw [hjoin]
    rfl
  · rw [hjoin]
    exact h c (List.mem_append_right _ List.mem_cons_self)

end Course

namespace Processor

open Course

variable {p : Processor}

/-- Every course begins no sooner than its round, whatever is noted in it. -/
theorem spans_invariant (p : Processor) : p.Invariant (fun _ => True) Spans where
  ended n ending := ⟨Nat.le_refl n, List.forall_mem_nil _⟩
  request n url := by
    refine ⟨Nat.le_add_right _ _, List.forall_mem_singleton.2 ?_⟩
    exact ⟨Nat.le_refl n, Nat.le_add_right _ _⟩
  note events hc _ := hc.note events
  andThen hc hnext := hc.andThen hnext
  join h := spans_join h
  lines _ _ := trivial

/-- Whatever is processed from a round on happens from that round on. -/
theorem spans_process (depth : Nat) (store : Store) (n : Nat) (document : Text) (scope : Scope) :
    Spans n (p.process depth store n document scope) :=
  (spans_invariant p).process (fun _ _ _ _ _ => trivial) depth store n document scope

/-! ## Blocks -/

variable {process : Nat → Text → Scope → Course} {layer : Cell → Scope}

/-- How a block goes that is tried from a round on: `run` runs the elements of its queue, and
    `process` processes its other part, if there is one, from the round on in which the queue
    has failed. -/
structure Tries (run : Element → Course) (process : Nat → Text → Course) (start : Nat)
    (queue : List Element) (except : Option Text) (block : Course) : Prop where
  /-- If all elements that depend on requests come to a good end, the block is what is
      attempted, and yields the texts of the elements. -/
  done : (∀ el ∈ queue, el.awaited ≠ [] → (run el).stops = false) →
    block = .join start (queue.map run) ∧
      block.ending = some (.ok (queue.filterMap fun el => (run el).text?).flatten)
  /-- If one of the elements fails, what is attempted does not come to a good end, and the
      error is that of one of the elements. -/
  fails : ∀ el ∈ queue, ∀ e, (run el).ending = some (.error e) →
    ∀ result, (Course.join start (queue.map run)).ending = some result →
      ∃ cause, result = .error cause ∧ ∃ el ∈ queue, (run el).ending = some (.error cause)
  /-- What is attempted comes to an end if all elements do. -/
  ends : (∀ el ∈ queue, (run el).ending.isSome = true) →
    (Course.join start (queue.map run)).ending.isSome = true
  /-- Without another part, the block is what is attempted, and fails if that fails. -/
  unrecovered : except = none → block = .join start (queue.map run)
  /-- With another part, the block ends as that ends. All that happens in the attempt happens
      before, up to the round in which it fails. -/
  recovered : ∀ cause, (Course.join start (queue.map run)).ending = some (.error cause) →
    ∀ document, except = some document →
      let attempt := Course.join start (queue.map run)
      let recovery := process attempt.finish document
      block.ending = recovery.ending ∧ block.finish = recovery.finish ∧
        block.events =
          attempt.events ++ (attempt.finish, exceptLine cause) :: recovery.events ∧
        (∀ event ∈ attempt.events, start ≤ event.1 ∧ event.1 ≤ attempt.finish) ∧
        ∀ event ∈ recovery.events, attempt.finish ≤ event.1

theorem stops_runElement_of_awaited {n : Nat} {e : Element} (h : e.awaited = []) :
    (p.runElement process layer n e).stops = false := by
  cases e with
  | text s => rfl
  | pending i cell => cases h
  | attempt queue except cell => cases h

/-- Every block goes as a block that is tried. -/
theorem tries_attempt (h : ∀ n document scope, Spans n (process n document scope)) (n : Nat)
    (queue : List Element) (except : Option Text) (cell : Cell) :
    Tries (p.runElement process layer n) (fun round document => process round document (layer cell))
      n queue except (p.runElement process layer n (.attempt queue except cell)) where
  done hdone := by
    have hall : ∀ c ∈ queue.map (p.runElement process layer n), c.stops = false := by
      refine List.forall_mem_map.2 fun el hel => ?_
      by_cases hawaited : el.awaited = []
      · exact stops_runElement_of_awaited hawaited
      · exact hdone el hel hawaited
    have hending : (Course.join n (queue.map (p.runElement process layer n))).ending =
        some (.ok (queue.filterMap fun el => (p.runElement process layer n el).text?).flatten) := by
      rw [join_done hall, joinDone, List.filterMap_map]
      rfl
    have hblock : p.runElement process layer n (.attempt queue except cell) =
        .join n (queue.map (p.runElement process layer n)) := by
      refine runElement_attempt_eq fun e he => ?_
      rw [hending] at he
      cases he
    exact ⟨hblock, hblock ▸ hending⟩
  fails el hel e he result hresult := by
    obtain ⟨cause, hcause, c, hc, hending⟩ :=
      ending_join_of_fails (List.mem_map_of_mem hel) he hresult
    obtain ⟨el', hel', rfl⟩ := List.mem_map.1 hc
    exact ⟨cause, hcause, el', hel', hending⟩
  ends hends := ending_join_isSome (List.forall_mem_map.2 hends)
  unrecovered hnone := runElement_attempt_eq fun _ _ => hnone
  recovered cause hcause document hexcept := by
    have hattempt : Spans n (Course.join n (queue.map (p.runElement process layer n))) := by
      rw [← runElements_eq_map]
      exact spans_join ((spans_invariant p).runElements h n queue)
    subst hexcept
    rw [runElement, runElements_eq_map, Course.andThen, hcause]
    exact ⟨rfl, rfl, rfl, hattempt.within, fun event hevent =>
      ((h _ document (layer cell)).within event hevent).1⟩

/-- For every level, whatever its requests bring and whenever, and for every block that is
    tried in it, at any depth of nesting, with `final` the variables at the end of the level:

    * What the last tag of the kind says is attempted, and planned under the variables at the
      place of the block as a part of the level. It becomes an element of the queue of the
      level, together with what the last tag of the other kind says. It is planned as a whole,
      whatever is nested in it, if the namespace has no `<` and no `!`.
    * If all that is attempted comes to a good end, it is what the block yields, and the other
      part is not processed. If something fails, the other part is processed once the attempt
      has failed, under an empty layer over `final`, and what it yields takes the place of the
      attempt. If there is no other part, the block fails like the attempt.
    * Whether or not it fails, what follows the block in the level sees the bindings that the
      attempt leaves, except for `MATCHES`. Those that the other part makes are made in a layer
      of its own, in a level of its own, and nothing else sees them. -/
theorem tryBlock_recovers (p : Processor) (depth start : Nat) (store : Store)
    (substitute : Bool) (document : Text) (scope : Scope) :
    let i := p.toInterpreter
    let pass := Pass.ofDocument i store substitute document scope
    let steps := Plan.stepsOfDocument i pass.cell substitute document scope
    let final := pass.plan.scope
    let process := fun round document => p.process depth pass.store round document final.child
    let run := p.runElement (p.process depth pass.store) (fun _ => final.child) start
    p.runPass (p.process depth) start pass =
      .note start (pass.plan.events ++ [Element.queueLine pass.plan.queue])
        (.join start (pass.plan.queue.map run)) ∧
    ∀ st next body, (st, next) ∈ Step.allFollowed final steps →
      st.fragment.directive? = some (.tryBlock body) →
      let tags := (Markup.scan i.settings.ns body).tags.map Prod.fst
      let except := TryParts.last? "except".toList tags
      (∃ nested,
        let attempt := (TryParts.last? "attempt".toList tags).getD []
        let planned := Plan.ofNested i pass.cell nested true attempt st.scope
        let block := Element.attempt planned.queue except pass.cell
        (i.settings.ns.openings = 0 →
          planned = Plan.ofDocument i pass.cell true attempt st.scope) ∧
          st.plan = ⟨[block], planned.scope, planned.events⟩ ∧
          block ∈ Element.allAwaited pass.plan.queue ∧
          Tries run process start planned.queue except (run block) ∧
          planned.scope.AgreesExcept Plan.matchesName next) ∧
      ∀ other, except = some other →
        let inner := Pass.ofDocument i pass.store true other final.child
        inner.plan.scope.outer = final.own :: final.outer ∧
          ∀ cell kept, pass.store.get? cell = some kept → inner.store.get? cell = some kept := by
  intro i pass steps final process run
  refine ⟨runPass_eq p (p.process depth) start store substitute document scope, ?_⟩
  intro st next body hfollowed hdirective tags except
  refine ⟨?_, fun other _ => ⟨Plan.outer_ofNested _ _ _ _, fun cell kept hkept => ?_⟩⟩
  · have hst : st ∈ Step.all steps := by
      rw [← Step.map_fst_allFollowed final steps]
      exact List.mem_map_of_mem hfollowed
    obtain ⟨nested, hplan, hwhole⟩ := Plan.plan_eq_ofDirective hst hdirective
    rw [Plan.ofDirective_tryBlock] at hplan
    have hqueue := Plan.allAwaited_subset _ _ _ _ st hst
    refine ⟨nested, ?_⟩
    intro attempt planned block
    have hattempt : (TryParts.ofBody i.settings.ns body).attempt = attempt := by
      rw [TryParts.ofBody_eq]
    refine ⟨fun hns => hwhole hns (attempt, st.scope) (by rw [← hattempt]; rfl), hplan, ?_, ?_, ?_⟩
    · rw [Plan.queue, Element.allAwaited_merge]
      apply hqueue
      rw [hplan]
      exact List.mem_cons_self
    · exact tries_attempt (spans_process depth pass.store) start planned.queue except pass.cell
    · have hagrees := Plan.agreesExcept_allFollowed hfollowed
      rw [hplan] at hagrees
      exact hagrees
  · rw [Pass.get?_eq, if_neg (Pass.ne_cell_of_sealed hkept), hkept]

/-- An attempt that fails leaves its bindings, and no text. -/
example :
    let p : Processor := ⟨⟨{}, .empty⟩, .ofTable []⟩
    let attempt := "<esi:assign name=\"x\" value=\"1\"/>a<esi:include src=\"/a\"/>".toList
    let document := "<esi:try><esi:attempt>".toList ++ attempt ++
      "</esi:attempt><esi:except>b</esi:except></esi:try>$(x)".toList
    (p.interpret? 3 true document .empty).map Outcome.result = some (.ok ['b', '1']) := by
  intro p attempt document
  have hinstant : p.instant = p := rfl
  rw [← hinstant, interpret?_instant]
  decide +kernel

end Processor

end EdgeInclude
