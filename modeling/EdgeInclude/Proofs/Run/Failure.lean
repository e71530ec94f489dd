import EdgeInclude.Proofs.Run.Timing
import Mathlib.Logic.Relation

/-!
# Where failures come from

What has failed if a document cannot be assembled. An element fails because an include
in it fails, or because what is processed in place of a failed block fails in turn. An
include fails because its requests fail and it is not to go on, or because the document
that it brings fails. So every failure is, in the end, that of an include whose requests
fail.

An include that goes on after errors recovers from its own requests only: the failure
of a document that it brings is passed on.

Results:
* `runElement_fails`: what has failed if an element has.
* `unresolved_of_fails`: every failure of a level is that of an include which is planned
  in it, or in a level inside of it, and whose requests fail.
* `continue_recovers_requests`: what includes recover from that go on after errors.
-/

namespace EdgeInclude

namespace Course

theorem ending_andThen {c : Course} {next : Nat → Except Error Text → Course}
    {result : Except Error Text} (h : c.ending = some result) :
    (c.andThen next).ending = (next c.finish result).ending := by
  rw [andThen, h]

/-- What follows a course decides how the whole ends. -/
theorem ending_of_andThen {c : Course} {next : Nat → Except Error Text → Course}
    {r : Except Error Text} (h : (c.andThen next).ending = some r) :
    ∃ result, c.ending = some result ∧ (next c.finish result).ending = some r := by
  cases hc : c.ending with
  | none => rw [andThen, hc, hc] at h; cases h
  | some result => exact ⟨result, rfl, ending_andThen hc ▸ h⟩

/-- Courses side by side fail like one of them. -/
theorem fails_of_join {n : Nat} {cs : List Course} {e : Error}
    (h : (join n cs).ending = some (.error e)) : ∃ c ∈ cs, c.ending = some (.error e) := by
  obtain ⟨-, hok⟩ | ⟨c, hc, e', hending, he⟩ := ending_join h
  · cases hok
  · cases he
    exact ⟨c, hc, hending⟩

end Course

namespace Element

/-- The includes among elements, also those inside of blocks. -/
def includes (es : List Element) : List Include :=
  (allDeferred es).filterMap fun held =>
    match held.2 with
    | .content i => some i
    | .recovery _ => none

/-- The documents that are processed in place of blocks that fail. -/
def recoveries (es : List Element) : List Text :=
  (allDeferred es).filterMap fun held =>
    match held.2 with
    | .content _ => none
    | .recovery except => except

theorem mem_includes_iff {i : Include} {es : List Element} :
    i ∈ includes es ↔ ∃ cell, (cell, .content i) ∈ allDeferred es := by
  simp only [includes, List.mem_filterMap, Prod.exists]
  constructor
  · rintro ⟨cell, held, hmem, hheld⟩
    cases held with
    | content i' => cases hheld; exact ⟨cell, hmem⟩
    | recovery except => cases hheld
  · rintro ⟨cell, hmem⟩
    exact ⟨cell, .content i, hmem, rfl⟩

theorem mem_recoveries_iff {document : Text} {es : List Element} :
    document ∈ recoveries es ↔ ∃ cell, (cell, .recovery (some document)) ∈ allDeferred es := by
  simp only [recoveries, List.mem_filterMap, Prod.exists]
  constructor
  · rintro ⟨cell, held, hmem, hheld⟩
    cases held with
    | content i => cases hheld
    | recovery except => cases hheld; exact ⟨cell, hmem⟩
  · rintro ⟨cell, hmem⟩
    exact ⟨cell, .recovery (some document), hmem, rfl⟩

theorem allDeferred_subset {e : Element} {es : List Element} (h : e ∈ es) :
    allDeferred [e] ⊆ allDeferred es := by
  obtain ⟨before, after, rfl⟩ := List.append_of_mem h
  rw [List.append_cons, allDeferred_append, allDeferred_append]
  exact List.Subset.trans (List.subset_append_right _ _) (List.subset_append_left _ _)

theorem includes_subset {e : Element} {es : List Element} (h : e ∈ es) :
    includes [e] ⊆ includes es := List.filterMap_subset _ (allDeferred_subset h)

theorem recoveries_subset {e : Element} {es : List Element} (h : e ∈ es) :
    recoveries [e] ⊆ recoveries es := List.filterMap_subset _ (allDeferred_subset h)

theorem includes_attempt (queue : List Element) (except : Option Text) (cell : Cell) :
    includes [.attempt queue except cell] = includes queue := by
  simp [includes, allDeferred, deferred]

theorem recoveries_attempt (queue : List Element) (except : Option Text) (cell : Cell) :
    recoveries [.attempt queue except cell] = except.toList ++ recoveries queue := by
  cases except <;> simp [recoveries, allDeferred, deferred]

end Element

namespace Processor

variable {p : Processor}

/-! ## Includes -/

/-- What the requests of an include bring. -/
def content (p : Processor) (i : Include) : Except Error Text :=
  match p.fetcher.answer (p.requestUrl i.src), i.alt with
  | .error _, some alt => p.fetcher.answer (p.requestUrl alt)
  | result, _ => result

theorem ending_fetchInclude_eq (start : Nat) (i : Include) :
    (p.fetchInclude start i).ending = some (p.content i) := by
  unfold fetchInclude request Course.andThen content
  dsimp only
  cases p.fetcher.answer (p.requestUrl i.src) with
  | ok body => rfl
  | error e => cases i.alt <;> rfl

theorem ending_runInclude (process : Nat → Text → Scope → Course) (scope : Scope) (start : Nat)
    (i : Include) :
    (p.runInclude process scope start i).ending =
      match p.content i with
      | .ok body =>
        if i.reprocess then (process (p.fetchInclude start i).finish body scope).ending
        else some (.ok body)
      | .error e =>
        if i.continueOnError then some (.ok [])
        else some (.error (.unresolvedInclude i.src e)) := by
  rw [runInclude, Course.ending_andThen (ending_fetchInclude_eq start i)]
  cases p.content i with
  | ok body => cases i.reprocess <;> rfl
  | error e => cases i.continueOnError <;> rfl

/-! ## Elements -/

section

variable {process : Nat → Text → Scope → Course} {scope : Scope} {start : Nat}

/-- What has failed if elements of a level fail with the given error: an include among them
    with the same error, or what is processed in place of a block of theirs, after an include
    has failed. -/
def FailsBy (p : Processor) (process : Nat → Text → Scope → Course) (scope : Scope)
    (start : Nat) (es : List Element) (e : Error) : Prop :=
  let fails := fun i e => (p.runInclude process scope start i).ending = some (.error e)
  (∃ i ∈ Element.includes es, fails i e) ∨
    (∃ i ∈ Element.includes es, ∃ cause, fails i cause) ∧
      ∃ document ∈ Element.recoveries es, ∃ round,
        (process round document scope).ending = some (.error e)

theorem FailsBy.include_fails {es : List Element} {e : Error}
    (h : p.FailsBy process scope start es e) : ∃ i ∈ Element.includes es, ∃ cause,
      (p.runInclude process scope start i).ending = some (.error cause) := by
  obtain ⟨i, hi, hfails⟩ | ⟨hfails, -⟩ := h
  · exact ⟨i, hi, e, hfails⟩
  · exact hfails

theorem FailsBy.mono {es fs : List Element} {e : Error} (h : p.FailsBy process scope start es e)
    (hincludes : Element.includes es ⊆ Element.includes fs)
    (hrecoveries : Element.recoveries es ⊆ Element.recoveries fs) :
    p.FailsBy process scope start fs e := by
  obtain ⟨i, hi, hfails⟩ | ⟨⟨i, hi, hfails⟩, document, hd, hprocess⟩ := h
  · exact .inl ⟨i, hincludes hi, hfails⟩
  · exact .inr ⟨⟨i, hincludes hi, hfails⟩, document, hrecoveries hd, hprocess⟩

/-- Elements side by side fail by what one of them fails by. -/
theorem failsBy_of_join {es : List Element} {e : Error} {n : Nat}
    (hes : ∀ el ∈ es, ∀ e, (p.runElement process (fun _ => scope) start el).ending =
      some (.error e) → p.FailsBy process scope start [el] e)
    (h : (Course.join n (p.runElements process (fun _ => scope) start es)).ending =
      some (.error e)) : p.FailsBy process scope start es e := by
  obtain ⟨c, hc, hending⟩ := Course.fails_of_join h
  rw [runElements_eq_map] at hc
  obtain ⟨el, hel, rfl⟩ := List.mem_map.1 hc
  exact (hes el hel e hending).mono (Element.includes_subset hel) (Element.recoveries_subset hel)

mutual

/-- What has failed if an element fails. -/
theorem runElement_fails (el : Element) {e : Error}
    (h : (p.runElement process (fun _ => scope) start el).ending = some (.error e)) :
    p.FailsBy process scope start [el] e := by
  match el with
  | .text s => cases h
  | .pending i cell => exact .inl ⟨i, List.mem_singleton_self i, h⟩
  | .attempt queue except cell =>
    rw [runElement] at h
    obtain ⟨result, hattempt, hnext⟩ := Course.ending_of_andThen h
    -- The block fails like what it attempts, or like what takes its place.
    match result, except with
    | .ok s, _ => cases hnext
    | .error cause, none =>
      cases hnext
      exact (failsBy_of_join (runElements_fails queue) hattempt).mono
        (by simp [Element.includes_attempt]) (by simp [Element.recoveries_attempt])
    | .error cause, some document =>
      obtain ⟨i, hi, hfails⟩ := (failsBy_of_join (runElements_fails queue) hattempt).include_fails
      exact .inr ⟨⟨i, by rwa [Element.includes_attempt], hfails⟩, document,
        by simp [Element.recoveries_attempt], _, hnext⟩

theorem runElements_fails (es : List Element) :
    ∀ el ∈ es, ∀ e, (p.runElement process (fun _ => scope) start el).ending = some (.error e) →
      p.FailsBy process scope start [el] e := by
  match es with
  | [] => exact fun el hel => absurd hel List.not_mem_nil
  | el :: es =>
    have hhead := fun e => runElement_fails (e := e) el
    have htail := runElements_fails es
    exact List.forall_mem_cons.2 ⟨hhead, htail⟩

end

end

/-! ## Levels -/

/-- The levels inside of a level: of the documents that its includes bring, and of those that
    are processed in place of blocks of its. -/
inductive Inner (p : Processor) (pass : Pass) : Pass → Prop where
  | content {i : Include} {body : Text} (planned : i ∈ Element.includes pass.plan.queue)
      (reprocess : i.reprocess = true) (brings : p.content i = .ok body) :
      Inner p pass (.ofDocument p.toInterpreter pass.store true body pass.plan.scope.child)
  | recovery {document : Text} (planned : document ∈ Element.recoveries pass.plan.queue) :
      Inner p pass (.ofDocument p.toInterpreter pass.store true document pass.plan.scope.child)

/-- Every level inside of a level is planned over the variables of that level. -/
theorem Inner.exists_ofDocument {pass inner : Pass} (h : p.Inner pass inner) : ∃ document,
    inner = .ofDocument p.toInterpreter pass.store true document pass.plan.scope.child := by
  cases h with
  | @content i body _ _ _ => exact ⟨body, rfl⟩
  | @recovery document _ => exact ⟨document, rfl⟩

/-- A level inside of a level, at any depth, or that level itself. -/
abbrev Within (p : Processor) : Pass → Pass → Prop := Relation.ReflTransGen p.Inner

/-- An error that an include in a level, or in a level inside of it, fails with: the include
    does not go on after errors, and the error is that of its last request. -/
def Unresolved (p : Processor) (pass : Pass) (e : Error) : Prop :=
  ∃ inner, p.Within pass inner ∧ ∃ i ∈ Element.includes inner.plan.queue,
    i.continueOnError = false ∧ ∃ cause, p.content i = .error cause ∧
      e = .unresolvedInclude i.src cause

theorem Unresolved.of_inner {pass inner : Pass} {e : Error} (h : p.Unresolved inner e)
    (hinner : p.Inner pass inner) : p.Unresolved pass e := by
  obtain ⟨last, hwithin, hfails⟩ := h
  exact ⟨last, .head hinner hwithin, hfails⟩

section

variable {depth start : Nat} {store : Store} {substitute : Bool} {document : Text}
  {scope : Scope}

theorem failsBy_of_runPass {process : Store → Nat → Text → Scope → Course} {e : Error}
    (h : (p.runPass process start
      (.ofDocument p.toInterpreter store substitute document scope)).ending = some (.error e)) :
    let pass := Pass.ofDocument p.toInterpreter store substitute document scope
    p.FailsBy (process pass.store) pass.plan.scope.child start pass.plan.queue e := by
  intro pass
  rw [runPass_eq, ← runElements_eq_map] at h
  exact failsBy_of_join (runElements_fails pass.plan.queue) h

/-- A document that fails is processed as a level that fails. -/
theorem fails_of_process {e : Error}
    (h : (p.process depth store start document scope).ending = some (.error e)) :
    ∃ smaller, depth = smaller + 1 ∧ (p.runPass (p.process smaller) start
      (.ofDocument p.toInterpreter store true document scope)).ending = some (.error e) := by
  cases depth with
  | zero => cases h
  | succ depth => exact ⟨depth, rfl, h⟩

/-- Every failure of a level is that of an include which is planned in it or in a level inside
    of it, whose requests fail, and which does not go on after errors. -/
theorem unresolved_of_fails {e : Error}
    (h : (p.runPass (p.process depth) start
      (.ofDocument p.toInterpreter store substitute document scope)).ending = some (.error e)) :
    p.Unresolved (.ofDocument p.toInterpreter store substitute document scope) e := by
  induction depth using Nat.strongRecOn generalizing start store substitute document scope e with
  | ind depth ih =>
    generalize hpass : Pass.ofDocument p.toInterpreter store substitute document scope = pass at h ⊢
    have hfails : p.FailsBy (p.process depth pass.store) pass.plan.scope.child start
        pass.plan.queue e := by
      subst hpass
      exact failsBy_of_runPass h
    have hinner : ∀ {round inside}, p.Inner pass
          (.ofDocument p.toInterpreter pass.store true inside pass.plan.scope.child) →
        (p.process depth pass.store round inside pass.plan.scope.child).ending =
          some (.error e) → p.Unresolved pass e := by
      intro round inside hinside hprocess
      obtain ⟨smaller, rfl, hrun⟩ := fails_of_process hprocess
      exact (ih smaller (Nat.lt_succ_self _) hrun).of_inner hinside
    obtain ⟨i, hi, hending⟩ | ⟨-, inside, hrecovery, round, hprocess⟩ := hfails
    · rw [ending_runInclude] at hending
      split at hending
      · next body hbody =>
        split at hending
        · next hreprocess => exact hinner (.content hi hreprocess hbody) hending
        · cases hending
      · next cause hcause =>
        split at hending
        · cases hending
        · next hcontinue =>
          cases hending
          exact ⟨pass, .refl, i, hi, by simpa using hcontinue, cause, hcause, rfl⟩
    · exact hinner (.recovery hrecovery) hprocess

end

/-! ## Going on after errors -/

theorem ending_runInclude_of_continue {process : Nat → Text → Scope → Course} {scope : Scope}
    {start : Nat} {i : Include} {cause : Error}
    (hcontinue : i.continueOnError = true)
    (h : (p.runInclude process scope start i).ending = some (.error cause)) :
    i.reprocess = true ∧ ∃ body, p.content i = .ok body ∧
      (process (p.fetchInclude start i).finish body scope).ending = some (.error cause) := by
  rw [ending_runInclude] at h
  split at h
  · next body hbody =>
    split at h
    · next hreprocess => exact ⟨hreprocess, body, hbody, h⟩
    · cases h
  · rw [if_pos hcontinue] at h
    cases h

/-- For every level, whatever its requests bring and whenever:

    * An include that goes on after errors comes to a good end if its requests fail, with an
      empty text, and also if what they bring is not processed. If it is processed, the include
      ends as the processing ends, and so fails if that fails.
    * If all includes that are planned in the level go on after errors, the level fails only if
      one of them brings a document that is processed and fails.
    * A document that comes to its end is processed successfully if all includes go on after
      errors that are planned in its own level and in the levels inside of it. -/
theorem continue_recovers_requests (p : Processor) (depth start : Nat) (store : Store)
    (substitute : Bool) (document : Text) (scope : Scope) :
    let pass := Pass.ofDocument p.toInterpreter store substitute document scope
    let process := fun i => p.process depth pass.store (p.fetchInclude start i).finish
    let run := p.runInclude (p.process depth pass.store) pass.plan.scope.child start
    (∀ i, i.continueOnError = true →
      (∀ e, p.content i = .error e → (run i).ending = some (.ok [])) ∧
      ∀ body, p.content i = .ok body → (run i).ending =
        if i.reprocess then (process i body pass.plan.scope.child).ending
        else some (.ok body)) ∧
    ((∀ i ∈ Element.includes pass.plan.queue, i.continueOnError = true) →
      ∀ e, (p.runPass (p.process depth) start pass).ending = some (.error e) →
        ∃ i ∈ Element.includes pass.plan.queue, i.reprocess = true ∧
          ∃ body, p.content i = .ok body ∧
            ∃ cause, (process i body pass.plan.scope.child).ending = some (.error cause)) ∧
    ∀ limit o, p.interpret? limit substitute document scope = some o →
      (∀ inner, p.Within (.ofDocument p.toInterpreter .empty substitute document scope) inner →
        ∀ i ∈ Element.includes inner.plan.queue, i.continueOnError = true) →
      ∃ s, o.result = .ok s := by
  intro pass process run
  refine ⟨fun i hcontinue => ⟨fun e he => ?_, fun body hbody => ?_⟩, fun hall e h => ?_,
    fun limit o h hall => ?_⟩
  · rw [ending_runInclude, he]
    exact if_pos hcontinue
  · rw [ending_runInclude, hbody]
  · obtain ⟨i, hi, cause, hfails⟩ := (failsBy_of_runPass h).include_fails
    obtain ⟨hreprocess, body, hbody, hprocess⟩ :=
      ending_runInclude_of_continue (hall i hi) hfails
    exact ⟨i, hi, hreprocess, body, hbody, cause, hprocess⟩
  · obtain ⟨depth, hwithin⟩ := interpretWithin?_of_interpret? h
    obtain ⟨result, hending, rfl⟩ := Option.map_eq_some_iff.1 hwithin
    cases result with
    | ok s => exact ⟨s, rfl⟩
    | error e =>
      obtain ⟨inner, hinner, i, hi, hcontinue, -⟩ := unresolved_of_fails hending
      rw [hall inner hinner i hi] at hcontinue
      cases hcontinue

end Processor

/-- Requests that bring what a table says, at once. Where it says nothing, there is nothing. -/
def Fetcher.ofTable (table : List (Text × Except Error Text)) : Fetcher where
  answer url := (table.lookup url).getD (.error (.unexpectedStatus url 404))
  delay _ := 0

namespace Processor

/-- An include that goes on after errors fails if it brings a document of which an include
    fails. -/
theorem continue_fails_on_reprocessed_failure :
    let p : Processor := ⟨⟨{}, .empty⟩,
      .ofTable [("/a".toList, .ok "<esi:include src=\"/b\"/>".toList)]⟩
    let document := "<esi:include src=\"/a\" dca=\"esi\" onerror=\"continue\"/>".toList
    (∀ i ∈ Element.includes (Pass.ofDocument p.toInterpreter .empty true document
      .empty).plan.queue, i.continueOnError = true) ∧
    (p.interpret? 3 true document .empty).map Outcome.result =
      some (.error (.unresolvedInclude "/b".toList (.unexpectedStatus "/b".toList 404))) := by
  intro p document
  have hinstant : p.instant = p := rfl
  refine ⟨by decide +kernel, ?_⟩
  rw [← hinstant, interpret?_instant]
  decide +kernel

end Processor

end EdgeInclude
