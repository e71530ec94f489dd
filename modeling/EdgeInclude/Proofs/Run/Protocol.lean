import EdgeInclude.Proofs.Run.Standing
import EdgeInclude.Proofs.Run.Stopping

/-!
# The protocol of includes

Each include that a run begins requests its first URL once, its other URL once if the
first request fails, and nothing else; and the run requests nothing but that. An include
is kept from going on only by the failure of another one in its queue, or in a queue around
that. If the run fails, it is one of these includes that has failed, with the error of the
request that it made last. A run that a fault breaks off requests what it does up to the fault,
and does not come to fail; see `Outcome.exit`.

Results:
* `accounts_runElement`, `accounts_process`: what is begun accounts for what is requested.
* `explains_runElement`, `explains_process`: what is begun explains what fails and stops.
* `requests_of_includes`: all of it together, for every document.
-/

namespace EdgeInclude

open Begun

namespace Processor

section

variable {p : Processor} {process : Nat → Text → Scope → Course}
  {inside : Nat → Text → List Begun} {scope : Scope} {start : Nat}

/-! ## Requests -/

theorem isSome_request?_of_mem_further? {i : Include} :
    ∀ e ∈ further? p start i, e.2.request?.isSome = true := by
  intro e he
  unfold further? at he
  split at he
  · cases he
    rfl
  · cases he

/-- What an include requests, up to lines in the log. -/
theorem events_fetchInclude (p : Processor) (start : Nat) (i : Include) :
    ∃ noted : List (Nat × Event), (∀ e ∈ noted, e.2.request? = none) ∧
      (p.fetchInclude start i).events =
        (start, .request (p.requestUrl i.src)) :: (noted ++ (further? p start i).toList) := by
  unfold fetchInclude request Course.andThen further?
  dsimp only
  cases p.fetcher.answer (p.requestUrl i.src) with
  | ok body => exact ⟨[], by simp, rfl⟩
  | error e =>
    cases i.alt with
    | none => exact ⟨[], by simp, rfl⟩
    | some alt =>
      refine ⟨[(start + p.fetcher.delay (p.requestUrl i.src), altLine i.src e alt)], ?_, rfl⟩
      exact List.forall_mem_singleton.2 rfl

theorem accounts_fetchInclude (start : Nat) (i : Include) :
    Accounts p [⟨[], i, start, none⟩] (p.fetchInclude start i).events := by
  obtain ⟨noted, hnoted, hevents⟩ := events_fetchInclude p start i
  have hrequests : requests p ⟨[], i, start, none⟩ =
      (start, .request (p.requestUrl i.src)) :: (further? p start i).toList := by
    unfold requests
    rw [List.filter_eq_self.2]
    exact fun _ _ => rfl
  rw [hevents]
  constructor
  · have hquiet : noted.filter (fun e => e.2.request?.isSome) = [] := by
      refine List.filter_eq_nil_iff.2 fun e he => ?_
      simp [hnoted e he]
    have hfurther : (further? p start i).toList.filter (fun e => e.2.request?.isSome) =
        (further? p start i).toList := by
      refine List.filter_eq_self.2 fun e he => ?_
      exact isSome_request?_of_mem_further? e (Option.mem_toList.1 he)
    rw [List.filter_cons_of_pos rfl, List.filter_append, hquiet, hfurther, List.flatMap_singleton,
      hrequests]
    exact .refl _
  · intro b hb
    obtain rfl := List.mem_singleton.1 hb
    rw [hrequests]
    exact (List.sublist_append_right _ _).cons_cons _

theorem accounts_runInclude (h : ∀ round document,
      Accounts p (inside round document) (process round document scope).events) (i : Include) :
    Accounts p (p.begunInclude inside start i) (p.runInclude process scope start i).events := by
  have hending := p.ending_fetchInclude_eq start i
  rw [begunInclude, ← List.singleton_append, runInclude, Course.andThen, hending]
  refine (accounts_fetchInclude start i).append ?_
  cases p.content i with
  | ok body =>
    cases i.reprocess with
    | true => exact (h _ body).under .body
    | false => exact .nil
  | error e =>
    cases i.continueOnError with
    | true => exact Accounts.nil.note _ (Event.quiet_singleton rfl)
    | false => exact Accounts.nil.note _ (Event.quiet_singleton rfl)

mutual

/-- What an element begins accounts for what it requests. -/
theorem accounts_runElement (h : ∀ round document,
      Accounts p (inside round document) (process round document scope).events) (e : Element) :
    Accounts p (p.begunElement process inside scope start e)
      (p.runElement process (fun _ => scope) start e).events := by
  match e with
  | .text s => exact .nil
  | .pending i cell => exact accounts_runInclude h i
  | .attempt queue except cell =>
    have hattempt := (accounts_join (accounts_runElements h queue) start).under .attempt
    rw [begunElement, runElement, Course.andThen]
    dsimp only
    generalize Course.join start _ = attempt at hattempt ⊢
    -- Something is begun beyond the attempt only if that fails and there is another part.
    unfold begunExcept
    cases attempt.ending with
    | none =>
      rw [List.map_nil, List.append_nil]
      exact hattempt
    | some result =>
      match result, except with
      | .ok s, _ => exact hattempt.append .nil
      | .error cause, none => exact hattempt.append .nil
      | .error cause, some document =>
        exact hattempt.append (((h _ document).under .except).note _ (Event.quiet_singleton rfl))

theorem accounts_runElements (h : ∀ round document,
      Accounts p (inside round document) (process round document scope).events)
    (es : List Element) :
    List.Forall₂ (fun bs c => Accounts p bs c.events)
      (p.begunElements process inside scope start es)
      (p.runElements process (fun _ => scope) start es) := by
  match es with
  | [] => exact .nil
  | e :: es => exact .cons (accounts_runElement h e) (accounts_runElements h es)

end

/-! ## Failures and deadlines -/

theorem failsAt_of_content {i : Include} {cause : Error}
    (hcontinue : i.continueOnError = false) (hcontent : p.content i = .error cause) :
    (⟨[], i, start, none⟩ : Begun).FailsAt p (p.fetchInclude start i).finish
      (.unresolvedInclude i.src cause) := by
  unfold content at hcontent
  unfold FailsAt requests further? fetchInclude request Course.andThen
  cases hsrc : p.fetcher.answer (p.requestUrl i.src) with
  | ok body =>
    simp only [hsrc] at hcontent
    cases hcontent
  | error e =>
    cases halt : i.alt with
    | none =>
      simp only [hsrc, halt] at hcontent
      exact ⟨hcontinue, rfl, ⟨start, rfl, rfl⟩, cause, hsrc.trans hcontent, rfl⟩
    | some alt =>
      simp only [hsrc, halt] at hcontent
      exact ⟨hcontinue, rfl, ⟨_, rfl, rfl⟩, cause, hcontent, rfl⟩

theorem explains_runInclude (h : ∀ round document,
      Explains p (inside round document) (process round document scope)) (i : Include) :
    Explains p (p.begunInclude inside start i) (p.runInclude process scope start i) := by
  have hbegun : ∀ b ∈ [(⟨[], i, start, none⟩ : Begun)], b.deadline = none :=
    List.forall_mem_singleton.2 rfl
  rw [begunInclude, runInclude, Course.andThen, ending_fetchInclude_eq]
  cases hcontent : p.content i with
  | ok body =>
    cases i.reprocess with
    | true =>
      have hinside := h (p.fetchInclude start i).finish body
      exact (hinside.inside rfl rfl).congr rfl rfl
    | false => exact .of_text rfl hbegun
  | error cause =>
    cases hcontinue : i.continueOnError with
    | true => exact .of_text rfl hbegun
    | false =>
      refine ⟨fun e he => ?_, fun b hb deadline hdeadline => ?_⟩
      · cases he
        exact ⟨_, List.mem_cons_self, failsAt_of_content hcontinue hcontent⟩
      · rw [hbegun b hb] at hdeadline
        cases hdeadline

mutual

/-- What an element begins explains how it goes. -/
theorem explains_runElement (h : ∀ round document,
      Explains p (inside round document) (process round document scope)) (e : Element) :
    Explains p (p.begunElement process inside scope start e)
      (p.runElement process (fun _ => scope) start e) := by
  match e with
  | .text s => exact .of_text rfl (List.forall_mem_nil _)
  | .pending i cell => exact explains_runInclude h i
  | .attempt queue except cell =>
    have hattempt := explains_join (explains_runElements h queue) start
    rw [begunElement, runElement, Course.andThen]
    dsimp only
    generalize Course.join start _ = attempt at hattempt ⊢
    obtain ⟨events, finish, ending⟩ := attempt
    match ending, except with
    | none, _ => exact (List.append_nil _).symm ▸ hattempt.under .attempt
    | some (.ok s), _ => exact (List.append_nil _).symm ▸ (hattempt.under .attempt).congr rfl rfl
    | some (.error cause), none =>
      exact (List.append_nil _).symm ▸ (hattempt.under .attempt).congr rfl rfl
    | some (.error cause), some document =>
      have hturns : Turn.attempt ≠ .except := by decide
      exact (hattempt.after rfl (h finish document) hturns).congr rfl rfl

theorem explains_runElements (h : ∀ round document,
      Explains p (inside round document) (process round document scope)) (es : List Element) :
    List.Forall₂ (Explains p) (p.begunElements process inside scope start es)
      (p.runElements process (fun _ => scope) start es) := by
  match es with
  | [] => exact .nil
  | e :: es => exact .cons (explains_runElement h e) (explains_runElements h es)

end

end

/-! ## Levels -/

section

variable {p : Processor} {store : Store} {substitute : Bool} {document : Text} {scope : Scope}

/-- What a level begins accounts for what it requests. Planning it requests nothing. -/
theorem accounts_runPass {process : Store → Nat → Text → Scope → Course}
    {inside : Store → Nat → Text → Scope → List Begun}
    (h : ∀ store round document scope,
      Accounts p (inside store round document scope) (process store round document scope).events)
    (start : Nat) :
    let pass := Pass.ofDocument p.toInterpreter store substitute document scope
    Accounts p (p.begunPass process inside start pass) (p.runPass process start pass).events := by
  intro pass
  have hnoted : Event.Quiet (pass.plan.events ++ [Element.queueLine pass.plan.queue]) :=
    (Plan.quiet_ofNested _ _ _ _).append (Event.quiet_singleton rfl)
  rw [runPass_eq, ← runElements_eq_map]
  refine Accounts.note ?_ start hnoted
  exact accounts_join (accounts_runElements (fun round document => h _ round document _) _) start

theorem accounts_process (depth : Nat) (store : Store) (start : Nat) (document : Text)
    (scope : Scope) :
    Accounts p (p.begunProcess depth store start document scope)
      (p.process depth store start document scope).events := by
  induction depth generalizing store start document scope with
  | zero => exact .nil
  | succ depth ih => exact accounts_runPass ih start

/-- What a level begins explains how it goes. -/
theorem explains_runPass {process : Store → Nat → Text → Scope → Course}
    {inside : Store → Nat → Text → Scope → List Begun}
    (h : ∀ store round document scope,
      Explains p (inside store round document scope) (process store round document scope))
    (start : Nat) :
    let pass := Pass.ofDocument p.toInterpreter store substitute document scope
    Explains p (p.begunPass process inside start pass) (p.runPass process start pass) := by
  intro pass
  rw [runPass_eq, ← runElements_eq_map]
  have hprocess : ∀ round document,
      Explains p (inside pass.store round document pass.plan.scope.child)
        (process pass.store round document pass.plan.scope.child) :=
    fun round document => h pass.store round document pass.plan.scope.child
  exact (explains_join (explains_runElements hprocess pass.plan.queue) start).congr rfl rfl

theorem explains_process (depth : Nat) (store : Store) (start : Nat) (document : Text)
    (scope : Scope) :
    Explains p (p.begunProcess depth store start document scope)
      (p.process depth store start document scope) := by
  induction depth generalizing store start document scope with
  | zero => exact .of_unknown rfl
  | succ depth ih => exact explains_runPass ih start

end

/-- An include that is planned in a level, or in a level inside of it at any depth, by a tag
    whose attributes are substituted under the variables at its place. -/
def Planned (p : Processor) (pass : Pass) (content : Include) : Prop :=
  ∃ store substitute document scope,
    let inner := Pass.ofDocument p.toInterpreter store substitute document scope
    p.Within pass inner ∧
      ∃ st ∈ Step.all (Plan.stepsOfDocument p.toInterpreter inner.cell substitute document scope),
        ∃ src alt,
          st.fragment.directive? =
            some (.include (some src) alt content.reprocess content.continueOnError) ∧
          content.src = Template.render (p.context st.scope) src ∧
          content.alt = alt.map (Template.render (p.context st.scope))

/-- The includes of a level are those of its tags. -/
theorem exists_step_of_mem_includes {i : Interpreter} {store : Store} {substitute : Bool}
    {document : Text} {scope : Scope} {content : Include} :
    let pass := Pass.ofDocument i store substitute document scope
    content ∈ Element.includes pass.plan.queue →
    ∃ st ∈ Step.all (Plan.stepsOfDocument i pass.cell substitute document scope), ∃ src alt,
      st.fragment.directive? =
        some (.include (some src) alt content.reprocess content.continueOnError) ∧
      content.src = Template.render (i.context st.scope) src ∧
      content.alt = alt.map (Template.render (i.context st.scope)) := by
  intro pass hcontent
  obtain ⟨cell, hheld⟩ := Element.mem_includes_iff.1 hcontent
  rw [Plan.queue, Element.allDeferred_merge] at hheld
  obtain ⟨st, hst, d, hd, hdeferred⟩ := Plan.exists_step_of_deferred hheld
  refine ⟨st, hst, ?_⟩
  unfold Directive.deferred? at hdeferred
  split at hdeferred
  · next c cs alt reprocess continueOnError =>
    cases hdeferred
    exact ⟨c :: cs, alt, hd, rfl, rfl⟩
  · cases hdeferred
  · cases hdeferred

theorem planned_of_within {p : Processor} {store : Store} {substitute : Bool} {document : Text}
    {scope : Scope} {inner : Pass} {content : Include}
    (hwithin : p.Within (.ofDocument p.toInterpreter store substitute document scope) inner)
    (hcontent : content ∈ Element.includes inner.plan.queue) :
    p.Planned (.ofDocument p.toInterpreter store substitute document scope) content := by
  obtain rfl | ⟨middle, -, hinner⟩ := Relation.ReflTransGen.cases_tail hwithin
  · exact ⟨store, substitute, document, scope, hwithin, exists_step_of_mem_includes hcontent⟩
  · obtain ⟨other, rfl⟩ := hinner.exists_ofDocument
    exact ⟨_, true, other, _, hwithin, exists_step_of_mem_includes hcontent⟩

/-- In every run, of any document with any variables, functions and patterns, and whatever the
    fetcher answers and whenever:

    * What is requested, and in which round, is what the includes that have been begun request:
      each of them its first URL once, and its other URL once if there is one, the first request
      fails, and the include is not past its deadline then. Nothing else is requested.
    * No include is begun twice, and each makes its requests in this order. It stands in the queue
      of the level, or of a level inside of it, at the end of its path. It is planned by a tag of
      the document, or of a document inside of it, with the URLs of the tag substituted under the
      variables there.
    * An include is under a deadline only if another one has failed in another element, or inside
      of another element, of the queue that it stands in or of a queue around that: in the round
      in which it stops, or in the one before if it comes first in the queue. That failure stops
      all the other elements of the queue.
    * If the run fails, one of these includes fails in that round. It does not go on after errors,
      and the error holds its first URL, as it is before character references are decoded, and the
      answer to the request that it made last.
    * A document that is processed to its end is run in this way. -/
theorem requests_of_includes (p : Processor) (substitute : Bool) (document : Text)
    (scope : Scope) :
    let pass := Pass.ofDocument p.toInterpreter .empty substitute document scope
    (∀ depth,
      let course := p.runPass (p.process depth) 0 pass
      let begun := p.begunPass (p.process depth) (p.begunProcess depth) 0 pass
      (course.events.filter fun e => e.2.request?.isSome).Perm (begun.flatMap (requests p)) ∧
      (Distinct begun ∧ ∀ b ∈ begun, (b.requests p).Sublist course.events ∧
        p.StandsAt pass pass.plan.queue b.path b.content ∧ p.Planned pass b.content) ∧
      (∀ b ∈ begun, ∀ deadline, b.deadline = some deadline →
        StoppedBy p begun b.path deadline ∨ course.ending = none) ∧
      ∀ e, course.ending = some (.error e) → ∃ b ∈ begun, b.FailsAt p course.finish e) ∧
    ∀ limit o, p.interpret? limit substitute document scope = some o → ∃ depth,
      let course := p.runPass (p.process depth) 0 pass
      course.ending = some o.result ∧ o.events = course.events.map Prod.snd := by
  intro pass
  refine ⟨fun depth => ?_, fun limit o h => ?_⟩
  · intro course begun
    have haccounts : Accounts p begun course.events := accounts_runPass (accounts_process depth) 0
    have hexplains : Explains p begun course := explains_runPass (explains_process depth) 0
    have hdistinct : Distinct begun := distinct_begunPass (distinct_begunProcess depth) 0 pass
    refine ⟨haccounts.perm, ⟨hdistinct, fun b hb => ?_⟩, fun b hb deadline hdeadline => ?_,
      hexplains.failure⟩
    · have hstands := standsAt_begunPass depth 0 pass b hb
      obtain ⟨inner, hwithin, hcontent⟩ :=
        hstands.exists_within (List.Subset.refl _) (List.Subset.refl _)
      exact ⟨haccounts.inOrder b hb, hstands, planned_of_within hwithin hcontent⟩
    · exact (hexplains.deadline b hb deadline hdeadline).imp_right And.left
  · obtain ⟨depth, hwithin⟩ := interpretWithin?_of_interpret? h
    obtain ⟨result, hending, rfl⟩ := Option.map_eq_some_iff.1 hwithin
    exact ⟨depth, hending, rfl⟩

/-- The error of an include in a document that another one brings: it holds the first URL of the
    include, and the answer to the request for its other URL. -/
theorem requests_of_includes_nested :
    let p : Processor := ⟨⟨{}, .empty⟩,
      .ofTable [("/a".toList, .ok "<esi:include src=\"/b\" alt=\"/c\"/>".toList)]⟩
    let document := "<esi:include src=\"/a\" dca=\"esi\"/><esi:include src=\"/a\"/>".toList
    let pass := Pass.ofDocument p.toInterpreter .empty true document .empty
    let e := Error.unresolvedInclude "/b".toList (.unexpectedStatus "/c".toList 404)
    (p.interpret? 3 true document .empty).map Outcome.result = some (.error e) ∧
      ∃ depth, ∃ b ∈ p.begunPass (p.process depth) (p.begunProcess depth) 0 pass,
        b.FailsAt p (p.runPass (p.process depth) 0 pass).finish e ∧ b.content.src = "/b".toList := by
  intro p document pass e
  have hinstant : p.instant = p := rfl
  have hresult : (p.interpret? 3 true document .empty).map Outcome.result = some (.error e) := by
    rw [← hinstant, interpret?_instant]
    decide +kernel
  refine ⟨hresult, ?_⟩
  obtain ⟨o, ho, herror⟩ := Option.map_eq_some_iff.1 hresult
  obtain ⟨hruns, hinterpret⟩ := requests_of_includes p true document .empty
  obtain ⟨depth, hending, -⟩ := hinterpret 3 o ho
  obtain ⟨-, -, -, hfails⟩ := hruns depth
  obtain ⟨b, hb, hfailsAt⟩ := hfails e (herror ▸ hending)
  have hsrc : b.content.src = "/b".toList := by
    obtain ⟨-, -, -, cause, -, he⟩ := hfailsAt
    exact (Error.unresolvedInclude.inj he).1.symm
  exact ⟨depth, b, hb, hfailsAt, hsrc⟩

end Processor

end EdgeInclude
