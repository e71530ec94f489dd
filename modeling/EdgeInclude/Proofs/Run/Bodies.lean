import EdgeInclude.Proofs.Plan.Standing
import EdgeInclude.Proofs.Run.Outline

/-!
# Bodies are data

What a request brings is put into the output as it is, unless an include asks for it to be
processed. So where no include of a document does, at any depth of nesting, a fetcher that
brings other bodies makes no other difference than that these stand in the output: the same
requests are made, in the same order, the same of them fail, the same blocks are recovered, and
the variables end up the same. So the same fault breaks the run off, if one does.

Results:
* `outlined_runInclude`: an include that keeps what it brings has an outline.
* `outlined_process`: so has a document in which every include does.
* `interpret?_of_keepsBodies`: a document comes to a fixed list of texts and URLs, each URL in
  the place of the body that it brings.
-/

namespace EdgeInclude

namespace Element

theorem includes_cons (e : Element) (es : List Element) :
    includes (e :: es) = includes [e] ++ includes es := by
  simp [includes, allDeferred, List.filterMap_append]

theorem recoveries_cons (e : Element) (es : List Element) :
    recoveries (e :: es) = recoveries [e] ++ recoveries es := by
  simp [recoveries, allDeferred, List.filterMap_append]

end Element

namespace Processor

variable {p : Processor} {ends : Prop}

/-- The processor with another fetcher. -/
def withFetcher (p : Processor) (f : Fetcher) : Processor := { p with fetcher := f }

/-! ## Includes -/

/-- A request takes its time and succeeds or fails whatever it brings. -/
theorem outlined_request (n : Nat) (url : Text) :
    Outlined p.fetcher ends fun g => (p.withFetcher g).request n url := by
  let events : List (Nat × Event) := [(n, .request (p.requestUrl url))]
  let finish := n + p.fetcher.delay (p.requestUrl url)
  have hrequest : ∀ g, p.fetcher.SameFate g → (p.withFetcher g).request n url =
      ⟨events, finish, some (g.answer (p.requestUrl url))⟩ := by
    intro g hg
    simp only [finish, hg.delay_eq]
    rfl
  cases hanswer : p.fetcher.answer (p.requestUrl url) with
  | ok body =>
    refine ⟨⟨events, finish, some (.ok [.body (p.requestUrl url)])⟩, ?_, fun _ => rfl,
      fun g hg => (hrequest g hg).trans ?_⟩
    · intro passages hpassages other hother
      cases hpassages
      cases List.mem_singleton.1 hother
      exact ⟨body, hanswer⟩
    · obtain ⟨other, hother⟩ := hg.answer_ok hanswer
      have hread : Passage.readAll g [.body (p.requestUrl url)] = other := by
        simp [Passage.readAll, Passage.read, hother, Except.toOption]
      rw [hother, Outline.course, Option.map_some, Except.map, hread]
  | error e =>
    refine ⟨⟨events, finish, some (.error e)⟩, Outline.answered_of_passages?_eq_none rfl,
      fun _ => rfl, fun g hg => (hrequest g hg).trans ?_⟩
    rw [hg.answer_error hanswer]
    rfl

theorem fetchInclude_eq (n : Nat) (i : Include) :
    p.fetchInclude n i = (p.request n i.src).recover fun round e =>
      match i.alt with
      | some alt => .note round [altLine i.src e alt] (p.request round alt)
      | none => .fail round e := by
  unfold fetchInclude Course.recover request Course.andThen
  dsimp only
  cases p.fetcher.answer (p.requestUrl i.src) with
  | ok body => rfl
  | error e => cases i.alt <;> rfl

theorem runInclude_eq {i : Include} (h : i.reprocess = false)
    (process : Nat → Text → Scope → Course) (scope : Scope) (n : Nat) :
    p.runInclude process scope n i = (p.fetchInclude n i).recover fun round e =>
      if i.continueOnError then .note round [continueLine i.src e] (.done round [])
      else .note round [failureLine i.src e] (.fail round (.unresolvedInclude i.src e)) := by
  rw [runInclude, Course.recover]
  congr 1
  funext round result
  cases result with
  | ok body =>
    rw [h]
    rfl
  | error e => rfl

/-- An include that keeps what it brings has an outline. -/
theorem outlined_runInclude {i : Include} (h : i.reprocess = false)
    (process : Fetcher → Nat → Text → Scope → Course) (scope : Scope) (n : Nat) :
    Outlined p.fetcher ends fun g => (p.withFetcher g).runInclude (process g) scope n i := by
  have hfetch : Outlined p.fetcher ends fun g => (p.withFetcher g).fetchInclude n i := by
    simp only [fetchInclude_eq]
    refine (outlined_request n i.src).recover fun round e => ?_
    cases i.alt with
    | none => exact outlined_fail round e
    | some alt => exact (outlined_request round alt).note round _
  simp only [runInclude_eq h]
  refine hfetch.recover fun round e => ?_
  cases i.continueOnError with
  | true => exact (outlined_done round []).note round _
  | false => exact (outlined_fail round _).note round _

/-! ## Elements -/

theorem runElement_attempt (process : Nat → Text → Scope → Course) (layer : Cell → Scope)
    (n : Nat) (queue : List Element) (except : Option Text) (cell : Cell) :
    p.runElement process layer n (.attempt queue except cell) =
      (Course.join n (p.runElements process layer n queue)).recover fun round e =>
        match except with
        | some document => .note round [exceptLine e] (process round document (layer cell))
        | none => .fail round e := by
  rw [runElement, Course.recover]
  congr 1
  funext round result
  cases result with
  | ok s => rfl
  | error e => cases except <;> rfl

section

variable {process : Fetcher → Nat → Text → Scope → Course} {layer : Cell → Scope}

mutual

/-- An element has an outline if its includes keep what they bring and the documents that are
    processed in place of failed blocks have outlines. -/
theorem outlined_runElement (e : Element)
    (hcontents : ∀ i ∈ Element.includes [e], i.reprocess = false)
    (hrecoveries : ∀ document ∈ Element.recoveries [e], ∀ n scope,
      Outlined p.fetcher ends fun g => process g n document scope) (n : Nat) :
    Outlined p.fetcher ends fun g => (p.withFetcher g).runElement (process g) layer n e := by
  match e with
  | .text s =>
    simp only [runElement]
    exact outlined_done n s
  | .pending i cell =>
    simp only [runElement]
    exact outlined_runInclude (hcontents i (List.mem_singleton_self i)) process (layer cell) n
  | .attempt queue except cell =>
    rw [Element.includes_attempt] at hcontents
    rw [Element.recoveries_attempt] at hrecoveries
    have hqueue := outlined_runElements queue hcontents
      (fun document hmem => hrecoveries document (List.mem_append_right _ hmem)) n
    simp only [runElement_attempt]
    refine (hqueue.join n).recover fun round e => ?_
    cases except with
    | none => exact outlined_fail round e
    | some document =>
      exact (hrecoveries document List.mem_cons_self round (layer cell)).note round _

theorem outlined_runElements (es : List Element)
    (hcontents : ∀ i ∈ Element.includes es, i.reprocess = false)
    (hrecoveries : ∀ document ∈ Element.recoveries es, ∀ n scope,
      Outlined p.fetcher ends fun g => process g n document scope) (n : Nat) :
    AllOutlined p.fetcher ends fun g => (p.withFetcher g).runElements (process g) layer n es := by
  match es with
  | [] =>
    simp only [runElements]
    exact allOutlined_nil
  | e :: es =>
    rw [Element.includes_cons] at hcontents
    rw [Element.recoveries_cons] at hrecoveries
    obtain ⟨hcontent, hcontents⟩ := List.forall_mem_append.1 hcontents
    obtain ⟨hrecovery, hrecoveries⟩ := List.forall_mem_append.1 hrecoveries
    have hhead := outlined_runElement e hcontent hrecovery n
    have htail := outlined_runElements es hcontents hrecoveries n
    simp only [runElements]
    exact hhead.cons htail

end

end

/-! ## Documents -/

section

variable {substitute : Bool} {document : Text} {scope : Scope} {store : Store}

/-- The includes of a level keep what they bring if no directive of its document asks for more. -/
theorem reprocess_eq_false {i : Include} (h : p.settings.KeepsBodies document)
    (hi : i ∈ Element.includes (Pass.ofDocument p.toInterpreter store substitute document
      scope).plan.queue) : i.reprocess = false := by
  obtain ⟨cell, hheld⟩ := Element.mem_includes_iff.1 hi
  rw [Plan.queue, Element.allDeferred_merge] at hheld
  obtain ⟨d, scope, hstands, hdeferred⟩ := Plan.exists_standsIn_of_deferred hheld
  rw [Directive.reprocess_eq_of_deferred? hdeferred, h d hstands]

/-- What is processed in place of a failed block of a level is held by its document. -/
theorem holds_of_mem_recoveries {other : Text}
    (h : other ∈ Element.recoveries (Pass.ofDocument p.toInterpreter store substitute document
      scope).plan.queue) : Relation.TransGen p.settings.Holds document other := by
  obtain ⟨cell, hheld⟩ := Element.mem_recoveries_iff.1 h
  rw [Plan.queue, Element.allDeferred_merge] at hheld
  obtain ⟨d, scope, hstands, hdeferred⟩ := Plan.exists_standsIn_of_deferred hheld
  exact hstands.holds (Directive.mem_documents_of_deferred? hdeferred)

end

/-- A level has an outline if the documents that are processed in place of its failed blocks
    have one. -/
theorem outlined_runPass {process : Fetcher → Store → Nat → Text → Scope → Course}
    {document : Text} (h : p.settings.KeepsBodies document)
    (hinside : ∀ other, Relation.TransGen p.settings.Holds document other →
      ∀ store n scope, Outlined p.fetcher ends fun g => process g store n other scope)
    (n : Nat) (store : Store) (substitute : Bool) (scope : Scope) :
    Outlined p.fetcher ends fun g => (p.withFetcher g).runPass (process g) n
      (.ofDocument p.toInterpreter store substitute document scope) := by
  refine Outlined.note (AllOutlined.join (outlined_runElements _ ?_ ?_ n) n) n _
  · exact fun i hi => reprocess_eq_false h hi
  · exact fun other hother n scope => hinside other (holds_of_mem_recoveries hother) _ n scope

/-- A document in which every include keeps what it brings has an outline. It comes to an end
    within the depth that it can have, since what is processed later is held by it. -/
theorem outlined_process (depth : Nat) {document : Text} (h : p.settings.KeepsBodies document)
    (store : Store) (n : Nat) (scope : Scope) :
    Outlined p.fetcher (p.settings.ns.openings = 0 ∧ document.maxDepth < depth) fun g =>
      (p.withFetcher g).process depth store n document scope := by
  induction depth generalizing document store n scope with
  | zero => exact (outlined_unknown n).mono fun h => absurd h.2 (Nat.not_lt_zero _)
  | succ depth ih =>
    refine outlined_runPass h (fun other hholds store n scope => ?_) n store true scope
    refine (ih (h.of_holds hholds.to_reflTransGen) store n scope).mono ?_
    rintro ⟨hns, hdepth⟩
    refine ⟨hns, ?_⟩
    have hlt := Settings.maxDepth_lt_of_holds hns hholds
    omega

end Processor

/-! ## Everything together -/

/-- What processing a document comes to, with passages for its text. -/
structure Sketch where
  result : Except Error (List Passage)
  events : List Event
  scope : Scope

/-- What processing comes to with what a fetcher brings. -/
def Sketch.outcome (f : Fetcher) (s : Sketch) : Outcome :=
  ⟨s.result.map (Passage.readAll f), s.events, s.scope⟩

namespace Processor

theorem exists_sketch (p : Processor) {document : Text} (h : p.settings.KeepsBodies document)
    (depth : Nat) (substitute : Bool) (scope : Scope) : ∃ sketch : Option Sketch,
      (∀ f, p.fetcher.SameFate f →
        (p.withFetcher f).interpretWithin? depth substitute document scope =
          sketch.map (Sketch.outcome f)) ∧
      (∀ s ∈ sketch, ∀ passages, s.result = .ok passages → ∀ url, .body url ∈ passages →
        ∃ body, p.fetcher.answer url = .ok body) ∧
      (p.settings.ns.openings = 0 ∧ document.maxDepth ≤ depth → sketch.isSome = true) := by
  let pass := Pass.ofDocument p.toInterpreter .empty substitute document scope
  have hlevel : Outlined p.fetcher (p.settings.ns.openings = 0 ∧ document.maxDepth ≤ depth) fun g =>
      (p.withFetcher g).runPass ((p.withFetcher g).process depth) 0 pass := by
    refine outlined_runPass h (fun other hholds store n scope => ?_) 0 .empty substitute scope
    refine (outlined_process depth (h.of_holds hholds.to_reflTransGen) store n scope).mono ?_
    rintro ⟨hns, hdepth⟩
    exact ⟨hns, Nat.lt_of_lt_of_le (Settings.maxDepth_lt_of_holds hns hholds) hdepth⟩
  obtain ⟨o, hanswered, hends, hrun⟩ := hlevel
  refine ⟨o.ending.map fun result => ⟨result, o.events.map Prod.snd, pass.plan.scope⟩,
    fun f hf => ?_, fun s hs passages hresult => ?_, fun hdepth => ?_⟩
  · have hcourse : (p.withFetcher f).runPass ((p.withFetcher f).process depth) 0 pass =
        o.course f := hrun f hf
    have hinterpret : (p.withFetcher f).interpretWithin? depth substitute document scope =
        (o.course f).ending.map fun result =>
          ⟨result, (o.course f).events.map Prod.snd, pass.plan.scope⟩ := by
      rw [← hcourse]
      rfl
    rw [hinterpret, Outline.course, Option.map_map, Option.map_map]
    rfl
  · obtain ⟨result, hending, rfl⟩ := Option.map_eq_some_iff.1 hs
    cases hresult
    exact hanswered passages (Outline.passages?_eq_some_iff.2 hending)
  · rw [Option.isSome_map, hends hdepth]

/-- For every document of which no include, at any depth of nesting, asks for what it brings to
    be processed, all settings, functions and variables, whether or not text outside of tags is
    a template, and up to any limit: processing the document comes to the same thing with all
    fetchers that answer after the same times, and succeed or fail with the same errors, whatever
    bodies they bring.

    * It is not known with any of them, or else it comes to the same error, or to one list of
      texts and URLs, where what is shown for a URL is its body as it is. The log with all
      requests in it and the variables of the caller are the same.
    * Every URL in the list is one that is answered with a body.
    * It is known for every limit that the document cannot be nested deeper than, if the namespace
      has no `<` and no `!`. -/
theorem interpret?_of_keepsBodies (p : Processor) {document : Text}
    (h : p.settings.KeepsBodies document) (limit : Nat) (substitute : Bool) (scope : Scope) :
    ∃ sketch : Option Sketch,
      (∀ f, p.fetcher.SameFate f →
        (p.withFetcher f).interpret? limit substitute document scope =
          sketch.map (Sketch.outcome f)) ∧
      (∀ s ∈ sketch, ∀ passages, s.result = .ok passages → ∀ url, .body url ∈ passages →
        ∃ body, p.fetcher.answer url = .ok body) ∧
      (p.settings.ns.openings = 0 → document.maxDepth < limit → sketch.isSome = true) := by
  choose sketch hsketch hanswered hends using fun depth => p.exists_sketch h depth substitute scope
  refine ⟨(List.range limit).findSome? sketch, fun f hf => ?_, fun s hs => ?_, fun hns hlimit => ?_⟩
  · simp only [interpret?, hsketch _ f hf, List.map_findSome?]
    rfl
  · obtain ⟨depth, -, hdepth⟩ := List.exists_of_findSome?_eq_some hs
    exact hanswered depth s hdepth
  · rw [List.findSome?_isSome_iff]
    exact ⟨_, List.mem_range.2 hlimit, hends _ ⟨hns, Nat.le_refl _⟩⟩

/-- A body with a tag, an expression and a wrapper in it, for an include inside of a wrapper, in
    the part of a block that is processed after the other part has failed. -/
theorem interpret?_of_keepsBodies_recovered :
    let p : Processor := ⟨⟨{}, .empty⟩, .ofTable [("/a".toList, .ok "A".toList)]⟩
    let body := "<esi:include src=\"/b\"/>$(x)<!--esi y-->".toList
    let f : Fetcher := .ofTable [("/a".toList, .ok body)]
    let document := "<esi:try><esi:attempt><esi:include src=\"/x\"/></esi:attempt>".toList ++
      "<esi:except><!--esi-<esi:include src=\"/a\"/>--></esi:except></esi:try>".toList
    p.settings.KeepsBodies document ∧ p.fetcher.SameFate f ∧
      (∃ sketch : Option Sketch,
        p.interpret? 3 true document .empty = sketch.map (Sketch.outcome p.fetcher) ∧
        (p.withFetcher f).interpret? 3 true document .empty = sketch.map (Sketch.outcome f)) ∧
      ((p.withFetcher f).interpret? 3 true document .empty).map
        (fun o => (o.result, o.requests)) =
          some (.ok ('-' :: body), ["/x".toList, "/a".toList]) := by
  intro p body f document
  have hkeeps : p.settings.KeepsBodies document := by
    rw [Settings.keepsBodies_iff (by decide)]
    decide +kernel
  have hfate : p.fetcher.SameFate f := by
    refine ⟨fun _ => rfl, fun url => ?_⟩
    simp only [p, f, Fetcher.ofTable, List.lookup_cons, List.lookup_nil]
    cases url == "/a".toList <;> rfl
  obtain ⟨sketch, hsketch, -⟩ := interpret?_of_keepsBodies p hkeeps 3 true .empty
  refine ⟨hkeeps, hfate, ⟨sketch, hsketch _ (.refl _), hsketch f hfate⟩, ?_⟩
  have hinstant : (p.withFetcher f).instant = p.withFetcher f := rfl
  rw [← hinstant, interpret?_instant]
  decide +kernel

end Processor

end EdgeInclude
