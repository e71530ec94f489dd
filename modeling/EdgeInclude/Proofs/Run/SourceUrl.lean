import EdgeInclude.Proofs.Entity.Escaping
import EdgeInclude.Proofs.Expression.Segments
import EdgeInclude.Proofs.Markup.Quoting
import EdgeInclude.Proofs.Run.Verbatim

/-!
# The URL of an include

A URL is written into the `src` attribute of an include with references in place of the
characters that mean something in markup. On the way to its request it is looked at five times:
for the opener of a comment wrapper, for the end of the tag, for the quote that closes the value,
for expressions, and for references. Only the last search finds anything in it, and gives back the
URL.

Results:
* `Course.join_singleton`: a course that runs side by side with no other.
* `Plan.ofDocument_includeTag`: the plan of a document that is an include.
* `interpret?_includeTag`: the URL that is requested.
-/

namespace EdgeInclude

/-! ## Courses by themselves -/

/-- A course that runs side by side with no other goes as it does by itself. -/
theorem Course.join_singleton (n : Nat) (c : Course) :
    (join n [c]).ending = c.ending ∧ (join n [c]).events.Perm c.events := by
  obtain ⟨hall, hjoin⟩ | ⟨before, d, later, hcs, -, hjoin⟩ := join_cases n [c]
  · obtain ⟨s, htext, hending⟩ := ending_of_stops_eq_false (hall c (List.mem_singleton_self c))
    rw [hjoin, hending]
    refine ⟨by simp [joinDone, htext], ?_⟩
    simpa [joinDone, byRound] using List.mergeSort_perm c.events _
  · obtain ⟨rfl, rfl, rfl⟩ : before = [] ∧ d = c ∧ later = [] := by
      cases before with
      | nil => simpa [eq_comm] using hcs
      | cons b before => simp at hcs
    rw [hjoin]
    refine ⟨rfl, ?_⟩
    simpa [byRound] using List.mergeSort_perm d.events _

/-! ## Includes as they are written -/

namespace Entity

variable {url : Text}

/-- None of the characters of markup is left in an escaped text. -/
theorem not_mem_escapeValue {c : Char} (hc : c ∈ ['<', '>', '"', '\'']) : c ∉ escapeValue url := by
  intro hmem
  simp only [List.mem_cons, List.not_mem_nil, or_false] at hc
  obtain rfl | rfl | rfl | rfl := hc <;>
    simpa [special] using mem_escapeValue hmem

theorem dollar_not_mem_escapeValue (h : '$' ∉ url) : '$' ∉ escapeValue url := by
  intro hmem
  simpa [h] using mem_escapeValue hmem

end Entity

/-- The attribute that a URL is written as. -/
def srcAttribute (url : Text) (hend : url.getLast? ≠ some '\\') : QuotedAttribute where
  key := "src".toList
  quote := '"'
  value := Entity.escapeValue url
  key_ne_nil := by decide
  named := List.all_eq_true.1 (by decide)
  isQuote := .inl rfl
  escaped := QuotedAttribute.isChain_of_not_mem (Entity.not_mem_escapeValue (by decide))
  closed := by
    obtain hlast | hlast := Entity.getLast?_escapeValue url
    · rwa [hlast]
    · rw [hlast]
      decide

/-- The text of such an attribute. -/
def srcText (url : Text) : Text :=
  ' ' :: ("src".toList ++ '=' :: '"' :: (Entity.escapeValue url ++ ['"']))

/-- A document that is an include with a URL. -/
def includeTag (ns url : Text) : Text :=
  Tag.opener ns ++ "include".toList ++ srcText url ++ ['/', '>']

variable {settings : Settings} {url : Text}

theorem text_srcAttribute (hend : url.getLast? ≠ some '\\') :
    QuotedAttribute.text [srcAttribute url hend] = srcText url := by
  simp [QuotedAttribute.text, Text.joinWith, QuotedAttribute.written, srcAttribute, srcText]

/-- There is no opener of a comment wrapper in it. -/
theorem Settings.unwrapped_includeTag (hns : '<' ∉ settings.ns ∧ '!' ∉ settings.ns) (url : Text) :
    settings.unwrapped (includeTag settings.ns url) = includeTag settings.ns url := by
  unfold unwrapped
  split
  · have hlt : '<' ∉ settings.ns ++ ':' :: ("include".toList ++ srcText url ++ ['/', '>']) := by
      have hurl : '<' ∉ Entity.escapeValue url := Entity.not_mem_escapeValue (by decide)
      simp [srcText, hns.1, hurl]
    have hhead : (settings.ns ++ ':' :: ("include".toList ++ srcText url ++ ['/', '>'])).head? ≠
        some '!' := Text.head?_append_ne hns.2 (by simp)
    have htag : includeTag settings.ns url =
        '<' :: (settings.ns ++ ':' :: ("include".toList ++ srcText url ++ ['/', '>'])) := by
      simp [includeTag, Tag.opener]
    have hrest := Comment.unwrap_append_of_not_mem hlt settings.ns []
    rw [List.append_nil] at hrest
    rw [htag, Comment.unwrap_cons (Comment.afterAnyCase?_opener_eq_none fun _ => hhead), hrest]
    exact congrArg _ (List.append_nil _)
  · rfl

namespace Plan

/-- Neither the URL nor anything around it ends the tag before its end. -/
theorem fragmentsOf_includeTag (hns : '<' ∉ settings.ns ∧ '!' ∉ settings.ns)
    (hend : url.getLast? ≠ some '\\') :
    fragmentsOf settings (includeTag settings.ns url) =
      [.text [], .tag ⟨includeTag settings.ns url, "include".toList, srcText url, none⟩,
        .text []] := by
  have hletters : ∀ c ∈ "include".toList, c.isAlpha = true := List.all_eq_true.1 (by decide)
  have hvalue : '"' ∉ Entity.escapeValue url := Entity.not_mem_escapeValue (by decide)
  have hclosed : Tag.ClosedValues false (srcText url ++ ['/']) := by
    have htext := @Tag.closedValues_text [srcAttribute url hend]
      (List.forall_mem_singleton.2 hvalue)
    rw [text_srcAttribute] at htext
    exact htext.append_slash
  have hname : "include".toList ≠ [] := by decide
  have hscan := (@Markup.scan_selfClosing_iff settings.ns _ (srcText url) hname hletters
    ⟨rfl, by simp [srcText]⟩ []).2 ⟨hclosed.openQuoteFrom_eq, hclosed.unendedFrom⟩
  show (Markup.scan settings.ns (settings.unwrapped _)).fragments = _
  rw [List.append_nil] at hscan
  rw [Settings.unwrapped_includeTag hns]
  exact hscan

/-- The value of the attribute is read as it is written. -/
theorem ofTag_includeTag (hend : url.getLast? ≠ some '\\') (raw : Text) :
    Directive.ofTag ⟨raw, "include".toList, srcText url, none⟩ =
      .include (some (Entity.escapeValue url)) none false false := by
  have hattributes : Attributes.ofText (srcText url) =
      ⟨[("src".toList, some (Entity.escapeValue url))]⟩ := by
    have hentries := Attributes.entries_text [srcAttribute url hend]
    rw [text_srcAttribute] at hentries
    exact congrArg Attributes.mk hentries
  rw [Directive.ofTag, hattributes]
  rfl

/-- The plan of a document that is an include: there are no expressions in the URL. -/
theorem ofDocument_includeTag {i : Interpreter} (hns : '<' ∉ i.settings.ns ∧ '!' ∉ i.settings.ns)
    (hne : url ≠ []) (hdollar : '$' ∉ url) (hend : url.getLast? ≠ some '\\') (cell : Cell)
    (substitute : Bool) (scope : Scope) :
    ofDocument i cell substitute (includeTag i.settings.ns url) scope =
      ⟨[.text [], .pending ⟨Entity.escapeValue url, none, false, false⟩ cell, .text []], scope,
        []⟩ := by
  have htag : ∀ nested raw, ofFragment i cell nested substitute
      (.tag ⟨raw, "include".toList, srcText url, none⟩) scope =
        ⟨[.pending ⟨Entity.escapeValue url, none, false, false⟩ cell], scope, []⟩ := by
    intro nested raw
    have hdollar' := Entity.dollar_not_mem_escapeValue hdollar
    obtain ⟨c, cs, hurl⟩ := List.exists_cons_of_ne_nil (Entity.escapeValue_ne_nil hne)
    rw [ofFragment, ofTag_includeTag hend, ofDirective]
    rw [hurl] at hdollar' ⊢
    simp [ofInclude, Template.render_eq_self hdollar', Template.events_eq_nil hdollar']
  rw [ofDocument, ofNested, fragmentsOf_includeTag hns hend]
  simp only [ofFragments, append, ofFragment_empty, htag, text, nothing, List.append_nil]
  rfl

end Plan

/-! ## The request -/

namespace Processor

variable {p : Processor}

/-- An include that keeps what it brings, and for which there is no other URL, makes one request
    and comes to what that brings, without a fault. -/
theorem runInclude_request (process : Nat → Text → Scope → Course) (scope : Scope) (n : Nat)
    (src : Text) :
    let c := p.runInclude process scope n ⟨src, none, false, false⟩
    c.events.filterMap (Event.request? ∘ Prod.snd) = [p.requestUrl src] ∧
      (∀ event ∈ c.events, event.2.isFault = false) ∧
      c.ending =
        some ((p.fetcher.answer (p.requestUrl src)).mapError (.unresolvedInclude src)) := by
  simp only [runInclude, fetchInclude, request, Course.andThen]
  cases p.fetcher.answer (p.requestUrl src) with
  | ok body => exact ⟨rfl, List.forall_mem_singleton.2 rfl, rfl⟩
  | error e =>
    have hevents : ∀ event ∈ [(n, Event.request (p.requestUrl src)),
        (n + p.fetcher.delay (p.requestUrl src), failureLine src e)], event.2.isFault = false :=
      List.forall_mem_cons.2 ⟨rfl, List.forall_mem_singleton.2 rfl⟩
    exact ⟨rfl, hevents, rfl⟩

/-- A document whose queue is such an include makes its request and no other, if planning it leaves
    nothing in the log. -/
theorem interpret?_of_pending {substitute : Bool} {document src : Text} {scope : Scope}
    {plan : Plan} {cell : Cell} (hsilent : plan.events = [])
    (hplan : Plan.ofDocument p.toInterpreter Store.empty.nextCell substitute document scope = plan)
    (hqueue : plan.queue = [.pending ⟨src, none, false, false⟩ cell]) (limit : Nat) :
    ∃ o, p.interpret? (limit + 1) substitute document scope = some o ∧ o.exit = .returned o ∧
      o.requests = [p.requestUrl src] ∧ o.scope = plan.scope ∧
      o.result = (p.fetcher.answer (p.requestUrl src)).mapError (.unresolvedInclude src) := by
  have hcourses : ∀ process layer, plan.queue.map (p.runElement process layer 0) =
      [p.runInclude process (layer cell) 0 ⟨src, none, false, false⟩] := by
    intro process layer
    rw [hqueue]
    rfl
  obtain ⟨process, layer, hinterpret⟩ := interpret?_of_ending limit hplan fun process layer => by
    rw [hcourses, (Course.join_singleton 0 _).1]
    exact (runInclude_request process (layer cell) 0 src).2.2
  obtain ⟨hrequest, hfaultless, -⟩ := runInclude_request (p := p) process (layer cell) 0 src
  have hperm := (Course.join_singleton 0 (p.runInclude process (layer cell) 0
    ⟨src, none, false, false⟩)).2
  refine ⟨_, hinterpret, Outcome.exit_of_faultless ?_, ?_, rfl, rfl⟩
  · rw [hsilent, hcourses]
    refine List.forall_mem_cons.2 ⟨rfl, List.forall_mem_map.2 fun event hevent => ?_⟩
    exact hfaultless event (hperm.subset hevent)
  · have hrequests := hperm.filterMap (Event.request? ∘ Prod.snd)
    rw [hrequest, List.perm_singleton] at hrequests
    rw [Outcome.requests, Event.requests, hsilent, hcourses, List.filterMap_append,
      List.filterMap_map, hrequests]
    rfl

/-- For every processor whose namespace has no `<` and no `!`, whether or not it unwraps
    comments, all variables of the caller, every limit, and whether or not text outside of tags
    is a template: a document that is an include with an escaped URL makes one request. It is for
    the URL if URLs are written with references, and else for the escaped URL as it is written.
    The document comes to what the request brings, without a fault, and no variable is changed.

    The URL is not empty, has no dollar sign, and does not end in a backslash. -/
theorem interpret?_includeTag (hns : '<' ∉ p.settings.ns ∧ '!' ∉ p.settings.ns) {url : Text}
    (hne : url ≠ []) (hdollar : '$' ∉ url) (hend : url.getLast? ≠ some '\\') (limit : Nat)
    (substitute : Bool) (scope : Scope) :
    let requested := if p.settings.escaped then url else Entity.escapeValue url
    ∃ o, p.interpret? (limit + 1) substitute (includeTag p.settings.ns url) scope = some o ∧
      o.exit = .returned o ∧ o.requests = [requested] ∧ o.scope = scope ∧
      o.result = (p.fetcher.answer requested).mapError
        (.unresolvedInclude (Entity.escapeValue url)) := by
  intro requested
  have hrequested : p.requestUrl (Entity.escapeValue url) = requested := by
    unfold requestUrl
    rw [Entity.unescapeUrl_escapeValue]
  have hplan := @Plan.ofDocument_includeTag url p.toInterpreter hns hne hdollar hend
    Store.empty.nextCell substitute scope
  rw [← hrequested]
  exact interpret?_of_pending rfl hplan rfl limit

/-- Quotes, a tag, the opener of a wrapper and a reference in the URL, with both settings and with
    neither. -/
theorem interpret?_includeTag_references :
    let url := "/?a=\"'&<esi:x/><!--esi &gt;".toList
    let escaped := "/?a=&quot;&apos;&amp;&lt;esi:x/&gt;&lt;!--esi &amp;gt;".toList
    let document := "<esi:include src=\"".toList ++ escaped ++ "\"/>".toList
    let p : Processor := ⟨⟨{}, .empty⟩, .ofTable []⟩
    let q : Processor := ⟨⟨{ escaped := false, comments := false }, .empty⟩, .ofTable []⟩
    (∃ o, p.interpret? 1 true document .empty = some o ∧ o.requests = [url]) ∧
      ∃ o, q.interpret? 1 true document .empty = some o ∧ o.requests = [escaped] := by
  intro url escaped document p q
  have hescaped : Entity.escapeValue url = escaped := by decide
  have hne : url ≠ [] := by decide
  have hdollar : '$' ∉ url := by decide
  have hend : url.getLast? ≠ some '\\' := by decide
  have hdocument : includeTag "esi".toList url = document := by
    rw [includeTag, srcText, hescaped]
    rfl
  obtain ⟨o, ho, -, hrequests, -⟩ := interpret?_includeTag (p := p) (by decide) hne hdollar hend 0 true
    .empty
  obtain ⟨o', ho', -, hrequests', -⟩ := interpret?_includeTag (p := q) (by decide) hne hdollar hend 0
    true .empty
  exact ⟨⟨o, hdocument ▸ ho, hrequests⟩, o', hdocument ▸ ho', hescaped ▸ hrequests'⟩

end Processor

end EdgeInclude
