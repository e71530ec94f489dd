import EdgeInclude.Proofs.Run.Sealing

/-!
# One after another

A plain way to process a document: the elements of a level are resolved one at a
time, in document order and each to its end, and the level stops at the first one
that fails. Nothing is begun before it is needed, and no time passes.

Results:
* `join_inRound`: courses that begin and end in one round go on side by side as
  they would one after another.
* `process_instant`, `interpret?_instant`: if no request takes any time, documents
  come to what they come to in this way, with the same log.
-/

namespace EdgeInclude

/-- What resolving something comes to. -/
structure Resolution where
  /-- What happens, in order. -/
  events : List Event
  /-- The text or the error at the end, if it is known. -/
  ending : Option (Except Error Text)

namespace Resolution

/-- Ends with a text. -/
def done (s : Text) : Resolution := ⟨[], some (.ok s)⟩

/-- Ends with an error. -/
def fail (e : Error) : Resolution := ⟨[], some (.error e)⟩

/-- Is not known. -/
def unknown : Resolution := ⟨[], none⟩

/-- Something that happens before the rest. -/
def note (events : List Event) (r : Resolution) : Resolution :=
  { r with events := events ++ r.events }

/-- A resolution followed by what its end calls for. -/
def andThen (r : Resolution) (next : Except Error Text → Resolution) : Resolution :=
  match r.ending with
  | none => r
  | some result => .note r.events (next result)

/-- A resolution whose text follows another one, should it come to a good end. -/
def precededBy (s : Text) (r : Resolution) : Resolution :=
  { r with ending := r.ending.map fun result => result.map (s ++ ·) }

end Resolution

namespace Processor

/-! ## Includes -/

/-- Requests a URL and waits for the answer. -/
def ask (p : Processor) (url : Text) : Resolution where
  events := [.request (p.requestUrl url)]
  ending := some (p.fetcher.answer (p.requestUrl url))

/-- Resolves the content of an include. -/
def askInclude (p : Processor) (i : Include) : Resolution :=
  (p.ask i.src).andThen fun result =>
    match result, i.alt with
    | .error e, some alt => .note [altLine i.src e alt] (p.ask alt)
    | result, _ => ⟨[], some result⟩

/-- Resolves an include; what it brings is processed under the given variables. -/
def resolveInclude (p : Processor) (process : Text → Scope → Resolution) (scope : Scope)
    (i : Include) : Resolution :=
  (p.askInclude i).andThen fun result =>
    match result with
    | .ok body => if i.reprocess then process body scope else .done body
    | .error e =>
      if i.continueOnError then .note [continueLine i.src e] (.done [])
      else .note [failureLine i.src e] (.fail (.unresolvedInclude i.src e))

/-! ## Elements -/

mutual

/-- Resolves an element. -/
def resolveElement (p : Processor) (process : Text → Scope → Resolution) (scope : Scope) :
    Element → Resolution
  | .text s => .done s
  | .pending i _ => p.resolveInclude process scope i
  | .attempt queue except _ =>
    (resolveElements p process scope queue).andThen fun result =>
      match result, except with
      | .error e, some document => .note [exceptLine e] (process document scope)
      | result, _ => ⟨[], some result⟩

/-- Resolves elements one at a time, up to the first that fails. -/
def resolveElements (p : Processor) (process : Text → Scope → Resolution) (scope : Scope) :
    List Element → Resolution
  | [] => .done []
  | e :: es =>
    (resolveElement p process scope e).andThen fun result =>
      match result with
      | .ok s => (resolveElements p process scope es).precededBy s
      | .error e => .fail e

end

/-! ## Documents -/

/-- Resolves a level. What is processed later has its variables as they are at the end. -/
def resolvePass (p : Processor) (process : Store → Text → Scope → Resolution) (pass : Pass) :
    Resolution :=
  .note (pass.plan.events ++ [Element.queueLine pass.plan.queue])
    (p.resolveElements (process pass.store) pass.plan.scope.child pass.plan.queue)

/-- Processes a document that a request brought. -/
def resolve (p : Processor) : (depth : Nat) → Store → Text → Scope → Resolution
  | 0, _, _, _ => .unknown
  | depth + 1, store, document, scope =>
    p.resolvePass (p.resolve depth) (.ofDocument p.toInterpreter store true document scope)

/-- Processes a document under variables, where documents that requests bring are nested
    less deeply than `depth`. -/
def sequentialWithin? (p : Processor) (depth : Nat) (substitute : Bool) (document : Text)
    (scope : Scope) : Option Outcome :=
  let pass := Pass.ofDocument p.toInterpreter .empty substitute document scope
  let resolution := p.resolvePass (p.resolve depth) pass
  resolution.ending.map fun result => ⟨result, resolution.events, pass.plan.scope⟩

/-- Processes a document under variables, or gives up on one whose requests bring documents
    nested at least `limit` deep. -/
def sequential? (p : Processor) (limit : Nat) (substitute : Bool) (document : Text)
    (scope : Scope) : Option Outcome :=
  (List.range limit).findSome? fun depth => p.sequentialWithin? depth substitute document scope

end Processor

/-! ## Everything in one round -/

namespace Resolution

variable {n : Nat}

/-- A resolution as a course that begins and ends in one round. -/
def inRound (n : Nat) (r : Resolution) : Course := ⟨r.events.map (n, ·), n, r.ending⟩

theorem inRound_note (events : List Event) (r : Resolution) :
    (note events r).inRound n = .note n events (r.inRound n) := by
  simp [inRound, note, Course.note]

theorem inRound_andThen {r : Resolution} {next : Except Error Text → Resolution}
    {next' : Nat → Except Error Text → Course}
    (h : ∀ result, (next result).inRound n = next' n result) :
    (r.andThen next).inRound n = (r.inRound n).andThen next' := by
  unfold andThen Course.andThen
  cases hr : r.ending with
  | none => simp [inRound, hr]
  | some result => simp [inRound, hr, note, ← h result]

/-- The text of a resolution that has come to a good end. -/
def text? (r : Resolution) : Option Text :=
  match r.ending with
  | some (.ok s) => some s
  | _ => none

/-- Resolutions one after another, up to the first that does not come to a good end. -/
def oneByOne : List Resolution → Resolution
  | [] => .done []
  | r :: rs => r.andThen fun result =>
    match result with
    | .ok s => (oneByOne rs).precededBy s
    | .error e => .fail e

theorem oneByOne_cons_of_text? {r : Resolution} {s : Text} (h : r.text? = some s)
    (rs : List Resolution) :
    oneByOne (r :: rs) = .note r.events ((oneByOne rs).precededBy s) := by
  have hending : r.ending = some (.ok s) := by
    unfold text? at h
    split at h
    · next hending => rw [hending, Option.some.inj h]
    · cases h
  rw [oneByOne, andThen, hending]

theorem oneByOne_done {rs : List Resolution} (h : ∀ r ∈ rs, r.text? ≠ none) :
    oneByOne rs = ⟨rs.flatMap events, some (.ok (rs.filterMap text?).flatten)⟩ := by
  induction rs with
  | nil => rfl
  | cons r rs ih =>
    obtain ⟨s, hs⟩ := Option.ne_none_iff_exists'.1 (h r List.mem_cons_self)
    rw [oneByOne_cons_of_text? hs, ih fun r hr => h r (List.mem_cons_of_mem _ hr),
      List.filterMap_cons_some hs]
    rfl

theorem oneByOne_stopped {before later : List Resolution} {r : Resolution}
    (hbefore : ∀ r ∈ before, r.text? ≠ none) (hr : r.text? = none) :
    oneByOne (before ++ r :: later) = ⟨before.flatMap events ++ r.events, r.ending⟩ := by
  induction before with
  | nil =>
    obtain ⟨events, ending⟩ := r
    rw [List.nil_append, oneByOne, andThen]
    match ending with
    | none => rfl
    | some (.error e) => simp [note, fail]
    | some (.ok s) => cases hr
  | cons b before ih =>
    obtain ⟨s, hs⟩ := Option.ne_none_iff_exists'.1 (hbefore b List.mem_cons_self)
    have hend : r.ending.map (fun result => result.map (s ++ ·)) = r.ending := by
      obtain ⟨events, ending⟩ := r
      match ending with
      | none => rfl
      | some (.error e) => rfl
      | some (.ok s) => cases hr
    rw [List.cons_append, oneByOne_cons_of_text? hs,
      ih fun r hr => hbefore r (List.mem_cons_of_mem _ hr), precededBy, hend, note,
      List.flatMap_cons, List.append_assoc]

end Resolution

namespace Course

open Resolution

variable {n : Nat}

theorem stops_inRound (r : Resolution) : (r.inRound n).stops = r.text?.isNone := rfl

/-- Events of one round are in order. -/
theorem byRound_map (es : List Event) : byRound (es.map (n, ·)) = es.map (n, ·) := by
  refine List.mergeSort_of_pairwise (List.pairwise_map.2 ?_)
  induction es with
  | nil => exact .nil
  | cons e es ih => exact .cons (fun _ _ => decide_eq_true (Nat.le_refl n)) ih

theorem flatMap_events_inRound (rs : List Resolution) :
    (rs.map (inRound n)).flatMap events = (rs.flatMap Resolution.events).map (n, ·) := by
  rw [List.flatMap_map, List.map_flatMap]
  rfl

theorem eventsUpTo_inRound (r : Resolution) :
    eventsUpTo n (r.inRound n) = (r.inRound n).events := by
  refine List.filter_eq_self.2 fun e he => ?_
  obtain ⟨event, -, rfl⟩ := List.mem_map.1 he
  exact decide_eq_true (Nat.le_refl n)

theorem eventsBefore_inRound (r : Resolution) : eventsBefore n (r.inRound n) = [] := by
  refine List.filter_eq_nil_iff.2 fun e he => ?_
  obtain ⟨event, -, rfl⟩ := List.mem_map.1 he
  simp

theorem foldl_max_finish_inRound (rs : List Resolution) :
    ((rs.map (inRound n)).map finish).foldl max n = n := by
  induction rs with
  | nil => rfl
  | cons r rs ih =>
    rw [List.map_cons, List.map_cons, List.foldl_cons]
    show List.foldl max (max n n) _ = n
    rw [Nat.max_self, ih]

theorem stopRound?_inRound {rs : List Resolution} {r : Resolution} (hmem : r ∈ rs)
    (hr : r.text? = none) : stopRound? (rs.map (inRound n)) = some n := by
  have hfinish : ∀ m ∈ ((rs.map (inRound n)).filter stops).map finish, m = n := by
    intro m hm
    obtain ⟨c, hc, rfl⟩ := List.mem_map.1 hm
    obtain ⟨r, -, rfl⟩ := List.mem_map.1 (List.mem_filter.1 hc).1
    rfl
  refine List.min?_eq_some_iff.2 ⟨?_, fun m hm => Nat.le_of_eq (hfinish m hm).symm⟩
  refine List.mem_map.2 ⟨r.inRound n, List.mem_filter.2 ⟨List.mem_map_of_mem hmem, ?_⟩, rfl⟩
  rw [stops_inRound, hr]
  rfl

theorem joinStopped_inRound {before later : List Resolution} {r : Resolution}
    (hbefore : ∀ r ∈ before, r.text? ≠ none) (hr : r.text? = none) :
    joinStopped n (before.map (inRound n) ++ r.inRound n :: later.map (inRound n)) =
      inRound n ⟨before.flatMap Resolution.events ++ r.events, r.ending⟩ := by
  have hgo : ∀ c ∈ before.map (inRound n), (!(c.stops && c.finish == n)) = true := by
    intro c hc
    obtain ⟨b, hb, rfl⟩ := List.mem_map.1 hc
    rw [stops_inRound, Option.isNone_eq_false_iff.2 (Option.isSome_iff_ne_none.2 (hbefore b hb))]
    rfl
  have hstop : (!((r.inRound n).stops && (r.inRound n).finish == n)) = false := by
    rw [stops_inRound, hr]
    simp [inRound]
  have hearlier : (before.map (inRound n)).flatMap (eventsUpTo n) =
      (before.flatMap Resolution.events).map (n, ·) := by
    simp only [← flatMap_events_inRound, List.flatMap_map, eventsUpTo_inRound]
  have hlater : (later.map (inRound n)).flatMap (eventsBefore n) = [] := by
    rw [List.flatMap_map, List.flatMap_eq_nil_iff]
    exact fun b _ => eventsBefore_inRound b
  unfold joinStopped
  dsimp only
  rw [List.takeWhile_append_of_pos hgo, List.dropWhile_append_of_pos hgo,
    List.takeWhile_cons_of_neg (by simp [hstop]), List.dropWhile_cons_of_neg (by simp [hstop])]
  dsimp only
  rw [List.append_nil, hearlier, hlater, List.append_nil]
  show Course.mk (byRound (_ ++ r.events.map (n, ·))) n r.ending = _
  rw [← List.map_append, byRound_map]
  rfl

/-- Courses that begin and end in one round go on side by side as one after another. -/
theorem join_inRound (rs : List Resolution) :
    join n (rs.map (inRound n)) = (oneByOne rs).inRound n := by
  cases hfind : rs.find? fun r => r.text?.isNone with
  | none =>
    have hdone : ∀ r ∈ rs, r.text? ≠ none := by
      intro r hr h
      simpa [h] using List.find?_eq_none.1 hfind r hr
    have hstops : ∀ c ∈ rs.map (inRound n), c.stops = false := by
      intro c hc
      obtain ⟨r, hr, rfl⟩ := List.mem_map.1 hc
      rw [stops_inRound]
      exact Option.isNone_eq_false_iff.2 (Option.isSome_iff_ne_none.2 (hdone r hr))
    rw [join_done hstops, oneByOne_done hdone, joinDone, flatMap_events_inRound, byRound_map,
      foldl_max_finish_inRound, List.filterMap_map]
    rfl
  | some r =>
    -- All stop in the same round, so the first in their order stops the others.
    obtain ⟨hr, before, later, rfl, hbefore⟩ := List.find?_eq_some_iff_append.1 hfind
    have hr : r.text? = none := Option.isNone_iff_eq_none.1 hr
    have hdone : ∀ r ∈ before, r.text? ≠ none := by
      intro r hr h
      simpa [h] using hbefore r hr
    have hmem : r ∈ before ++ r :: later := List.mem_append_right _ List.mem_cons_self
    rw [join_stopped (stopRound?_inRound hmem hr), oneByOne_stopped hdone hr, List.map_append,
      List.map_cons, joinStopped_inRound hdone hr]

end Course

/-! ## No delays -/

namespace Processor

open Resolution

/-- A processor whose requests take other times. -/
def withDelay (p : Processor) (delay : Text → Nat) : Processor :=
  { p with fetcher := { p.fetcher with delay := delay } }

/-- A processor whose requests take no time. -/
def instant (p : Processor) : Processor := p.withDelay fun _ => 0

variable {p : Processor} {n : Nat}

theorem request_instant (url : Text) : p.instant.request n url = (p.ask url).inRound n := rfl

theorem fetchInclude_instant (i : Include) :
    p.instant.fetchInclude n i = (p.askInclude i).inRound n := by
  rw [fetchInclude, request_instant]
  refine (inRound_andThen fun result => ?_).symm
  match result, i.alt with
  | .error e, some alt => exact inRound_note _ _
  | .error e, none => rfl
  | .ok body, _ => rfl

section

variable {process : Text → Scope → Resolution} {process' : Nat → Text → Scope → Course}
  {scope : Scope}

theorem runInclude_instant
    (h : ∀ document scope, (process document scope).inRound n = process' n document scope)
    (i : Include) :
    p.instant.runInclude process' scope n i = (p.resolveInclude process scope i).inRound n := by
  rw [runInclude, fetchInclude_instant]
  refine (inRound_andThen fun result => ?_).symm
  cases result with
  | ok body =>
    cases hr : i.reprocess with
    | true => exact h body scope
    | false => rfl
  | error e => cases i.continueOnError <;> exact inRound_note _ _

theorem resolveElements_eq (es : List Element) :
    p.resolveElements process scope es = oneByOne (es.map (p.resolveElement process scope)) := by
  induction es with
  | nil => rfl
  | cons e es ih => rw [resolveElements, List.map_cons, oneByOne, ih]

mutual

/-- If no request takes any time, an element is run in one round, as it is resolved. -/
theorem runElement_instant
    (h : ∀ document scope, (process document scope).inRound n = process' n document scope)
    (e : Element) :
    p.instant.runElement process' (fun _ => scope) n e =
      (p.resolveElement process scope e).inRound n := by
  match e with
  | .text s => rfl
  | .pending i cell => exact runInclude_instant h i
  | .attempt queue except cell =>
    rw [runElement, resolveElement, runElements_instant h queue, Course.join_inRound,
      ← resolveElements_eq]
    refine (inRound_andThen fun result => ?_).symm
    match result, except with
    | .error e, some document =>
      show (note [exceptLine e] (process document scope)).inRound n = _
      rw [inRound_note, h]
    | .error e, none => rfl
    | .ok s, _ => rfl

theorem runElements_instant
    (h : ∀ document scope, (process document scope).inRound n = process' n document scope)
    (es : List Element) :
    p.instant.runElements process' (fun _ => scope) n es =
      (es.map (p.resolveElement process scope)).map (inRound n) := by
  match es with
  | [] => rfl
  | e :: es =>
    rw [runElements, runElement_instant h e, runElements_instant h es, List.map_cons,
      List.map_cons]

end

end

/-- If no request takes any time, a level is run in one round, as it is resolved. -/
theorem runPass_instant {process : Store → Text → Scope → Resolution}
    {process' : Store → Nat → Text → Scope → Course}
    (h : ∀ store document scope,
      (process store document scope).inRound n = process' store n document scope)
    (store : Store) (substitute : Bool) (document : Text) (scope : Scope) :
    let pass := Pass.ofDocument p.toInterpreter store substitute document scope
    p.instant.runPass process' n pass = (p.resolvePass process pass).inRound n := by
  intro pass
  rw [resolvePass, inRound_note, resolveElements_eq, ← Course.join_inRound,
    ← runElements_instant (h pass.store), runElements_eq_map]
  exact runPass_eq p.instant process' n store substitute document scope

theorem process_instant (depth : Nat) (store : Store) (document : Text) (scope : Scope) :
    (p.resolve depth store document scope).inRound n =
      p.instant.process depth store n document scope := by
  induction depth generalizing store document scope with
  | zero => rfl
  | succ depth ih => exact (runPass_instant ih store true document scope).symm

/-- If no request takes any time, a document comes to what it comes to if its elements are
    resolved one after another: the same output or error, log and variables. -/
theorem interpret?_instant (limit : Nat) (substitute : Bool) (document : Text) (scope : Scope) :
    p.instant.interpret? limit substitute document scope =
      p.sequential? limit substitute document scope := by
  have hwithin : ∀ depth, p.instant.interpretWithin? depth substitute document scope =
      p.sequentialWithin? depth substitute document scope := by
    intro depth
    let pass := Pass.ofDocument p.toInterpreter .empty substitute document scope
    have hrun : p.instant.runPass (p.instant.process depth) 0 pass =
        (p.resolvePass (p.resolve depth) pass).inRound 0 :=
      runPass_instant (process_instant depth) .empty substitute document scope
    have hevents : ((p.resolvePass (p.resolve depth) pass).inRound 0).events.map Prod.snd =
        (p.resolvePass (p.resolve depth) pass).events := by
      rw [inRound, List.map_map]
      exact List.map_id _
    let course := p.instant.runPass (p.instant.process depth) 0 pass
    show course.ending.map (fun result =>
      Outcome.mk result (course.events.map Prod.snd) pass.plan.scope) = _
    rw [show course = _ from hrun, hevents]
    rfl
  rw [interpret?, sequential?, funext hwithin]

end Processor

end EdgeInclude
