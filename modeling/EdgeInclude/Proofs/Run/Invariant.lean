import EdgeInclude.Proofs.Run.Sealing

/-!
# What holds of every run

A run is made up of requests, of lines in the log, of what planning a level leaves there,
and of courses one after another and side by side. So whatever holds of requests, and is
kept by each of these ways of going on, holds of every run.

Results:
* `exists_of_mem_events_join`: what happens in courses side by side happens in one of them,
  and before they come to their end.
* `Invariant.runElement`, `Invariant.runPass`, `Invariant.process`: what holds of every
  element, every level, and every document that is processed inside of another one.
-/

namespace EdgeInclude

namespace Course

theorem le_foldl_max (n : Nat) (rounds : List Nat) :
    n ≤ rounds.foldl max n ∧ ∀ m ∈ rounds, m ≤ rounds.foldl max n := by
  induction rounds generalizing n with
  | nil => exact ⟨Nat.le_refl n, fun _ h => absurd h List.not_mem_nil⟩
  | cons m rounds ih =>
    obtain ⟨hmax, hrounds⟩ := ih (max n m)
    exact ⟨Nat.le_trans (Nat.le_max_left n m) hmax,
      List.forall_mem_cons.2 ⟨Nat.le_trans (Nat.le_max_right n m) hmax, hrounds⟩⟩

/-- What happens in courses side by side happens in one of them: in one that comes to its end no
    later than all of them, or else no later than that itself. -/
theorem exists_of_mem_events_join {n : Nat} {cs : List Course} {event : Nat × Event}
    (h : event ∈ (join n cs).events) :
    ∃ c ∈ cs, event ∈ c.events ∧
      (c.finish ≤ (join n cs).finish ∨ event.1 ≤ (join n cs).finish) := by
  obtain ⟨-, hjoin⟩ | ⟨before, c, later, rfl, -, hjoin⟩ := join_cases n cs
  · rw [hjoin] at h ⊢
    obtain ⟨c, hc, hevent⟩ := List.mem_flatMap.1 (List.mem_mergeSort.1 h)
    exact ⟨c, hc, hevent, .inl ((le_foldl_max n (cs.map finish)).2 _ (List.mem_map_of_mem hc))⟩
  · rw [hjoin] at h ⊢
    obtain h | hlater := List.mem_append.1 (List.mem_mergeSort.1 h)
    · obtain hbefore | hc := List.mem_append.1 h
      · obtain ⟨b, hb, hevent⟩ := List.mem_flatMap.1 hbefore
        obtain ⟨hevent, hle⟩ := List.mem_filter.1 hevent
        exact ⟨b, List.mem_append_left _ hb, hevent, .inr (of_decide_eq_true hle)⟩
      · exact ⟨c, List.mem_append_right _ List.mem_cons_self, hc, .inl (Nat.le_refl _)⟩
    · obtain ⟨b, hb, hevent⟩ := List.mem_flatMap.1 hlater
      obtain ⟨hevent, hlt⟩ := List.mem_filter.1 hevent
      exact ⟨b, List.mem_append_right _ (List.mem_cons_of_mem c hb), hevent,
        .inr (Nat.le_of_lt (of_decide_eq_true hlt))⟩

end Course

namespace Processor

/-- Something that holds of every course that begins in a round, if it is made up of requests and
    of the events that satisfy `Noted`. -/
structure Invariant (p : Processor) (Noted : Event → Prop) (P : Nat → Course → Prop) : Prop where
  /-- It holds of what is over at once, or not known any further. -/
  ended : ∀ n ending, P n ⟨[], n, ending⟩
  request : ∀ n url, P n (p.request n url)
  /-- It is kept when something is noted before. -/
  note : ∀ {n c} (events : List Event), P n c → (∀ e ∈ events, Noted e) → P n (c.note n events)
  /-- It is kept when something else follows. -/
  andThen : ∀ {n c} {next : Nat → Except Error Text → Course}, P n c →
    (∀ round result, P round (next round result)) → P n (c.andThen next)
  /-- It is kept side by side. -/
  join : ∀ {n cs}, (∀ c ∈ cs, P n c) → P n (.join n cs)
  lines : ∀ level text, Noted (.line level text)

namespace Invariant

variable {p : Processor} {Noted : Event → Prop} {P : Nat → Course → Prop}

theorem noteLine (h : Invariant p Noted P) {n : Nat} {c : Course} (hc : P n c) (level : Level)
    (text : Text) : P n (c.note n [.line level text]) :=
  h.note _ hc (List.forall_mem_singleton.2 (h.lines level text))

theorem fetchInclude (h : Invariant p Noted P) (n : Nat) (i : Include) :
    P n (p.fetchInclude n i) := by
  refine h.andThen (h.request n i.src) fun round result => ?_
  split
  · exact h.noteLine (h.request round _) _ _
  · exact h.ended round _

section

variable {process : Nat → Text → Scope → Course} {layer : Cell → Scope}

theorem runInclude (h : Invariant p Noted P)
    (hprocess : ∀ n document scope, P n (process n document scope)) (scope : Scope) (n : Nat)
    (i : Include) : P n (p.runInclude process scope n i) := by
  refine h.andThen (h.fetchInclude n i) fun round result => ?_
  match result, i.reprocess, i.continueOnError with
  | .ok body, true, _ => exact hprocess round body scope
  | .ok body, false, _ => exact h.ended round _
  | .error e, _, true => exact h.noteLine (h.ended round _) _ _
  | .error e, _, false => exact h.noteLine (h.ended round _) _ _

mutual

theorem runElement (h : Invariant p Noted P)
    (hprocess : ∀ n document scope, P n (process n document scope)) (n : Nat) (e : Element) :
    P n (p.runElement process layer n e) := by
  match e with
  | .text s => exact h.ended n _
  | .pending i cell => exact h.runInclude hprocess (layer cell) n i
  | .attempt queue except cell =>
    rw [Processor.runElement]
    refine h.andThen (h.join (h.runElements hprocess n queue)) fun round result => ?_
    match result, except with
    | .ok s, _ => exact h.ended round _
    | .error e, none => exact h.ended round _
    | .error e, some document => exact h.noteLine (hprocess round document (layer cell)) _ _

theorem runElements (h : Invariant p Noted P)
    (hprocess : ∀ n document scope, P n (process n document scope)) (n : Nat)
    (es : List Element) : ∀ c ∈ p.runElements process layer n es, P n c := by
  match es with
  | [] => exact fun c hc => absurd hc List.not_mem_nil
  | e :: es =>
    have hhead := h.runElement hprocess n e
    have htail := h.runElements hprocess n es
    exact List.forall_mem_cons.2 ⟨hhead, htail⟩

end

end

theorem runPass (h : Invariant p Noted P) {process : Store → Nat → Text → Scope → Course}
    (hprocess : ∀ store n document scope, P n (process store n document scope)) (n : Nat)
    (pass : Pass) (hplan : ∀ e ∈ pass.plan.events, Noted e) :
    P n (p.runPass process n pass) := by
  refine h.note _ (h.join (h.runElements (hprocess pass.store) n pass.plan.queue)) ?_
  exact List.forall_mem_append.2 ⟨hplan, List.forall_mem_singleton.2 (h.lines _ _)⟩

/-- What planning a document leaves in the log satisfies `Noted`, so what holds of all courses
    holds of the processing of every document. -/
theorem process (h : Invariant p Noted P)
    (hplan : ∀ store document scope,
      ∀ e ∈ (Pass.ofDocument p.toInterpreter store true document scope).plan.events, Noted e)
    (depth : Nat) (store : Store) (n : Nat) (document : Text) (scope : Scope) :
    P n (p.process depth store n document scope) := by
  induction depth generalizing store n document scope with
  | zero => exact h.ended n none
  | succ depth ih => exact h.runPass ih n _ (hplan store document scope)

end Invariant

end Processor

end EdgeInclude
