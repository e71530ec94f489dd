import EdgeInclude.Proofs.Markup.Comment
import EdgeInclude.Proofs.Run.Failure
import EdgeInclude.Proofs.Run.Fault

/-!
# Markup that is shown as it is written

The body of a `text` tag is shown as it is written, whatever it looks like, and so is a tag
whose instruction is not known. Nothing in them is substituted, bound or requested.

What is written there is the document after its comments are unwrapped: unwrapping comes
first, and does not stop at such a tag. A body with a comment wrapper in it is therefore
shown with the tags that take the place of the wrapper.

Results:
* `interpret?_of_texts`: a document that is planned as nothing but texts yields them, at
  once, and makes no request.
* `shows_as_written`: what is shown for a `text` tag and for an unknown tag.
* `shows_wrapper_as_tag`: it is not what was written if there was a wrapper.
-/

namespace EdgeInclude

/-! ## Documents before they are cut -/

/-- A document with its comments unwrapped, if the settings say so. -/
def Settings.unwrapped (settings : Settings) (document : Text) : Text :=
  if settings.comments then Comment.unwrap settings.ns document else document

theorem Settings.unwrapped_eq_self {settings : Settings} {document : Text}
    (h : settings.comments = false ∨ Comment.hasWrapper settings.ns document = false) :
    settings.unwrapped document = document := by
  unfold unwrapped
  split
  · next hcomments =>
    apply Comment.unwrap_eq_self
    simpa [hcomments] using h
  · rfl

/-- Inside of a tag without attributes, what is unwrapped is the body. -/
theorem Settings.unwrapped_tag {settings : Settings} {name : Text}
    (hns : '<' ∉ settings.ns ∧ '>' ∉ settings.ns ∧ '!' ∉ settings.ns) (hname : name ≠ [])
    (hletters : ∀ c ∈ name, c.isAlpha = true) (body : Text) :
    settings.unwrapped (Tag.startTag settings.ns name [] ++ body ++ Tag.endTag settings.ns name) =
      Tag.startTag settings.ns name [] ++ settings.unwrapped body ++
        Tag.endTag settings.ns name := by
  unfold unwrapped
  split
  · exact Comment.unwrap_tag hns hname hletters body
  · rfl

/-! ## Documents that are one tag -/

namespace Plan

/-- The fragments of a document that is a tag once its comments are unwrapped. -/
theorem fragmentsOf_of_complete {settings : Settings} {document : Text} {t : Tag}
    (hcomplete : Tag.Complete settings.ns t []) (hraw : settings.unwrapped document = t.raw) :
    fragmentsOf settings document = [.text [], .tag t, .text []] := by
  show (Markup.scan settings.ns (settings.unwrapped document)).fragments = _
  rw [hraw, ← List.append_nil t.raw, Markup.scan_of_complete hcomplete]
  rfl

/-- An empty text is planned as one, whether or not it is a template. -/
theorem ofFragment_empty (i : Interpreter) (cell : Cell) (nested : Text → Scope → Plan)
    (substitute : Bool) (scope : Scope) :
    ofFragment i cell nested substitute (.text []) scope = text [] scope [] := by
  cases substitute <;> rfl

end Plan

/-! ## Directives -/

/-- The names of the instructions that are known. -/
def Directive.names : List Text :=
  ["include".toList, "try".toList, "vars".toList, "choose".toList, "when".toList,
    "otherwise".toList, "assign".toList, "text".toList, "comment".toList, "remove".toList]

theorem Directive.ofTag_of_not_mem {t : Tag} (h : t.name.map Char.toLower ∉ names) :
    ofTag t = .unknown (t.name.map Char.toLower) t.raw := by
  simp only [names, List.mem_cons, List.not_mem_nil, or_false, not_or] at h
  obtain ⟨hinclude, htry, hvars, hchoose, hwhen, hotherwise, hassign, htext, hcomment⟩ := h
  rw [ofTag, ofName, if_neg hinclude, if_neg htry, if_neg hvars, if_neg hchoose, if_neg hwhen,
    if_neg hotherwise, if_neg hassign, if_neg htext, if_neg (not_or.2 hcomment)]

theorem Directive.ofTag_text {t : Tag} (h : t.name = "text".toList) :
    ofTag t = .verbatim (t.body.getD []) := by
  rw [ofTag, h]
  rfl

/-! ## Documents of texts -/

/-- Texts that are joined are texts, and say the same. -/
theorem Element.merge_texts (texts : List Text) : ∃ joined : List Text,
    merge (texts.map Element.text) = joined.map Element.text ∧
      joined.flatten = texts.flatten := by
  induction texts with
  | nil => exact ⟨[], rfl, rfl⟩
  | cons s texts ih =>
    obtain ⟨joined, hmerge, hflatten⟩ := ih
    rw [List.map_cons, merge, hmerge, List.flatten_cons, ← hflatten]
    cases joined with
    | nil =>
      by_cases hs : s = []
      · exact ⟨[], by simp [hs], by simp [hs]⟩
      · exact ⟨[s], by simp [hs], rfl⟩
    | cons t joined => exact ⟨(s ++ t) :: joined, rfl, by simp⟩

/-- Texts that are all there at once are put together at once. -/
theorem Course.join_texts (n : Nat) (texts : List Text) :
    join n (texts.map (done n)) = done n texts.flatten := by
  have hstops : ∀ c ∈ texts.map (done n), c.stops = false := by
    intro c hc
    obtain ⟨s, -, rfl⟩ := List.mem_map.1 hc
    rfl
  have hevents : (texts.map (done n)).flatMap Course.events = [] := by
    rw [List.flatMap_map]
    exact List.flatMap_eq_nil_iff.2 fun s _ => rfl
  have hfinish : ((texts.map (done n)).map finish).foldl max n = n := by
    have hrounds : (texts.map (done n)).map finish = List.replicate texts.length n := by
      rw [List.map_map, ← List.map_const']
      rfl
    rw [hrounds]
    induction texts.length with
    | zero => rfl
    | succ k ih => rw [List.replicate_succ, List.foldl_cons, Nat.max_self, ih]
  have htexts : (texts.map (done n)).filterMap text? = texts := by
    rw [List.filterMap_map]
    exact List.filterMap_some
  rw [join_done hstops, joinDone, hevents, hfinish, htexts, byRound, List.mergeSort_nil]
  rfl

namespace Processor

variable {p : Processor} {substitute : Bool} {document : Text} {scope : Scope}

theorem interpret?_of_within {o : Outcome}
    (h : p.interpretWithin? 0 substitute document scope = some o) (limit : Nat) :
    p.interpret? (limit + 1) substitute document scope = some o := by
  rw [interpret?, List.range_succ_eq_map, List.findSome?_cons, h]

/-- A document whose elements come to an end without anything else being processed comes to the
    same end. Its log is that of planning it, followed by what happens to the elements. -/
theorem interpret?_of_ending {plan : Plan} {result : Except Error Text} (limit : Nat)
    (hplan : Plan.ofDocument p.toInterpreter Store.empty.nextCell substitute document scope = plan)
    (hending : ∀ process layer,
      (Course.join 0 (plan.queue.map (p.runElement process layer 0))).ending = some result) :
    ∃ process layer, p.interpret? (limit + 1) substitute document scope =
      some ⟨result, plan.events ++ [Element.queueLine plan.queue] ++
        (Course.join 0 (plan.queue.map (p.runElement process layer 0))).events.map Prod.snd,
        plan.scope⟩ := by
  let pass := Pass.ofDocument p.toInterpreter .empty substitute document scope
  have hpass : pass.plan = plan := hplan
  have hevents : ∀ events : List Event, (events.map (0, ·)).map Prod.snd = events := by
    intro events
    rw [List.map_map]
    exact List.map_id events
  refine ⟨p.process 0 pass.store, fun _ => pass.plan.scope.child, interpret?_of_within ?_ limit⟩
  rw [interpretWithin?, runPass_eq]
  simp only [pass, hpass, Course.note, hending, List.map_append, hevents, Option.map_some]

/-- A document that is planned as nothing but texts yields them at once, and nothing happens but
    what planning it writes to the log. -/
theorem interpret?_of_texts {plan : Plan} {texts : List Text} (limit : Nat)
    (hplan : Plan.ofDocument p.toInterpreter Store.empty.nextCell substitute document scope = plan)
    (htexts : plan.elements = texts.map Element.text) :
    p.interpret? (limit + 1) substitute document scope =
      some ⟨.ok texts.flatten, plan.events ++ [Element.queueLine plan.queue], plan.scope⟩ := by
  obtain ⟨joined, hmerge, hflatten⟩ := Element.merge_texts texts
  have hqueue : plan.queue = joined.map Element.text := by
    rw [← hmerge, ← htexts]
    rfl
  have hjoin : ∀ process layer,
      Course.join 0 (plan.queue.map (p.runElement process layer 0)) =
        Course.done 0 texts.flatten := by
    intro process layer
    have hcourses : (joined.map Element.text).map (p.runElement process layer 0) =
        joined.map (Course.done 0) := by
      rw [List.map_map]
      rfl
    rw [hqueue, hcourses, Course.join_texts, hflatten]
  obtain ⟨process, layer, hinterpret⟩ := interpret?_of_ending limit hplan fun process layer => by
    rw [hjoin]
    rfl
  rw [hinterpret, hjoin]
  simp [Course.done]

/-! ## Tags that are shown -/

/-- A document comes to a text, without a fault, without requests, and without a change to any
    variable. -/
def Shows (p : Processor) (limit : Nat) (substitute : Bool) (scope : Scope)
    (document s : Text) : Prop :=
  ∃ o, p.interpret? limit substitute document scope = some o ∧ o.exit = .returned o ∧
    o.result = .ok s ∧ o.requests = [] ∧ o.scope = scope

/-- A document that is a tag with a text for its plan shows that text. -/
theorem shows_of_tag {t : Tag} {s : Text} {events : List Event} (limit : Nat)
    (hcomplete : Tag.Complete p.settings.ns t []) (hraw : p.settings.unwrapped document = t.raw)
    (hplan : ∀ nested, Plan.ofDirective p.toInterpreter Store.empty.nextCell nested
      (Directive.ofTag t) scope = .text s scope events)
    (hlines : ∀ e ∈ events, e.request? = none ∧ e.isFault = false) :
    p.Shows (limit + 1) substitute scope document s := by
  have hfragments := Plan.fragmentsOf_of_complete hcomplete hraw
  have htag : ∀ nested, Plan.ofFragment p.toInterpreter Store.empty.nextCell nested substitute
      (.tag t) scope = .text s scope events := hplan
  have hdocument : Plan.ofDocument p.toInterpreter Store.empty.nextCell substitute document
      scope = ⟨[[], s, []].map Element.text, scope, events⟩ := by
    rw [Plan.ofDocument, Plan.ofNested, hfragments]
    simp [Plan.ofFragments, Plan.append, Plan.ofFragment_empty, htag, Plan.text, Plan.nothing]
  have hall : ∀ queue, ∀ e ∈ events ++ [Element.queueLine queue],
      e.request? = none ∧ e.isFault = false :=
    fun _ => List.forall_mem_append.2 ⟨hlines, List.forall_mem_singleton.2 ⟨rfl, rfl⟩⟩
  refine ⟨_, interpret?_of_texts limit hdocument rfl, ?_, by simp, ?_, rfl⟩
  · exact Outcome.exit_of_faultless fun e he => (hall _ e he).2
  · exact List.filterMap_eq_nil_iff.2 fun e he => (hall _ e he).1

/-- For every setting and library, every limit, and all variables of the caller, whether or not
    text outside of tags is a template:

    * A `text` tag around a body shows the body as it stands there once comments are unwrapped,
      if `text` tags are well nested in that, whatever else it holds.
    * A complete tag whose instruction is not known shows itself, as it stands there once
      comments are unwrapped.
    * Where comments are not unwrapped, and where there are no wrappers, that is what is written.

    In each case there is no fault and no request, and the variables are as before. -/
theorem shows_as_written (p : Processor) (limit : Nat) (substitute : Bool) (scope : Scope) :
    let ns := p.settings.ns
    let Shows := p.Shows (limit + 1) substitute scope
    ('<' ∉ ns ∧ '>' ∉ ns ∧ '!' ∉ ns →
      ∀ body, Tag.WellNested ns "text".toList (p.settings.unwrapped body) →
        Shows (Tag.startTag ns "text".toList [] ++ body ++ Tag.endTag ns "text".toList)
          (p.settings.unwrapped body)) ∧
    (∀ t document, Tag.Complete ns t [] → t.name.map Char.toLower ∉ Directive.names →
      p.settings.unwrapped document = t.raw → Shows document t.raw) ∧
    ∀ s, p.settings.comments = false ∨ Comment.hasWrapper ns s = false →
      p.settings.unwrapped s = s := by
  intro ns Shows
  refine ⟨fun hns body hbody => ?_, fun t document hcomplete hname hraw => ?_,
    fun s => Settings.unwrapped_eq_self⟩
  · have hname : "text".toList ≠ [] := by decide
    have hletters : ∀ c ∈ "text".toList, c.isAlpha = true := List.all_eq_true.1 (by decide)
    have hattributes : Tag.IsAttributeText [] := ⟨rfl, by simp, .done false⟩
    have hcomplete := hbody.complete hns.1 hname hletters hattributes []
    have hplan : ∀ raw nested, Plan.ofDirective p.toInterpreter Store.empty.nextCell nested
        (Directive.ofTag ⟨raw, "text".toList, [], some (p.settings.unwrapped body)⟩) scope =
          .text (p.settings.unwrapped body) scope [] := by
      intro raw nested
      rw [Directive.ofTag_text rfl]
      rfl
    exact shows_of_tag limit hcomplete (Settings.unwrapped_tag hns hname hletters body)
      (hplan _) (List.forall_mem_nil _)
  · have hplan : ∀ nested, Plan.ofDirective p.toInterpreter Store.empty.nextCell nested
        (Directive.ofTag t) scope =
          .text t.raw scope [Plan.unsupported p.toInterpreter (t.name.map Char.toLower)] := by
      intro nested
      rw [Directive.ofTag_of_not_mem hname]
      rfl
    exact shows_of_tag limit hcomplete hraw hplan (List.forall_mem_singleton.2 ⟨rfl, rfl⟩)

/-- Directives, expressions, an open quote and a comment wrapper in the body, and a `text` tag in
    other letter case. -/
theorem shows_as_written_nested :
    let p : Processor := ⟨⟨{}, .empty⟩, .ofTable []⟩
    let body := "<esi:include src=\"/a\"/>$(x)'<esi:TEXT>\"</esi:text ><!--esib-->".toList
    p.Shows 1 true .empty ("<esi:text>".toList ++ body ++ "</esi:text>".toList) body := by
  intro p body
  have hopens : Text.SameText (Tag.opener "esi".toList ++ "text".toList) "<esi:TEXT".toList := by
    decide
  have hends : Tag.IsEnd (Tag.endOpener "esi".toList ++ "text".toList) "</esi:text >".toList :=
    ⟨"</esi:text".toList, [' '], rfl, by decide, List.forall_mem_singleton.2 rfl⟩
  have hbody : Tag.WellNested "esi".toList "text".toList body :=
    .pair (s := "<esi:include src=\"/a\"/>$(x)'".toList) (by decide) hopens
      ⟨rfl, by simp, .done false⟩ (.text (s := ['"']) (by decide)) hends
      (.text (s := "<!--esib-->".toList) (by decide))
  have hunwrapped := (shows_as_written p 0 true .empty).2.2 body (.inr (by decide))
  have hshows := (shows_as_written p 0 true .empty).1 (by decide) body (by rwa [hunwrapped])
  rwa [hunwrapped] at hshows

/-- A wrapper in the body of a `text` tag is shown as the tags that it is unwrapped to. -/
theorem shows_wrapper_as_tag :
    let p : Processor := ⟨⟨{}, .empty⟩, .ofTable []⟩
    let body := "<!--esi a-->".toList
    Tag.WellNested "esi".toList "text".toList body ∧
      (p.interpret? 1 true ("<esi:text>".toList ++ body ++ "</esi:text>".toList) .empty).map
        Outcome.result = some (.ok "<esi:vars> a</esi:vars>".toList) ∧
      "<esi:vars> a</esi:vars>".toList ≠ body := by
  intro p body
  have hinstant : p.instant = p := rfl
  have hbody : Tag.WellNested "esi".toList "text".toList body := .text (by decide)
  have hne : "<esi:vars> a</esi:vars>".toList ≠ body := by decide
  refine ⟨hbody, ?_, hne⟩
  rw [← hinstant, interpret?_instant]
  decide +kernel

end Processor

end EdgeInclude
