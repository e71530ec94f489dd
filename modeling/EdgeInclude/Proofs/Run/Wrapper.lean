import EdgeInclude.Proofs.Plan.Depth
import EdgeInclude.Proofs.Run.Verbatim

/-!
# Documents that are wrapped

Wrapping a document into a comment changes nothing about how it is processed. The wrapper is
replaced by a `vars` tag, which is read as one tag around the whole of what was wrapped, and the
body of that tag is planned like a document whose text is a template. What the detour adds are
empty texts before and behind the tag, and joining texts drops these.

Results:
* `interpret?_congr`: how a document is processed depends on its plan only, and not on how the
  texts in that are cut.
* `ofDocument_wrapped`: the plan of a document that is wrapped.
* `interpret?_wrapped`: a wrapper is transparent.
-/

namespace EdgeInclude

/-! ## Empty texts -/

namespace Element

theorem merge_cons_empty (es : List Element) : merge (.text [] :: es) = merge es := by
  rw [merge]
  split
  · next s rest h => rw [h, List.nil_append]
  · rfl

theorem merge_append_empty (es : List Element) : merge (es ++ [.text []]) = merge es := by
  induction es with
  | nil => rfl
  | cons e es ih =>
    cases e with
    | text s => rw [List.cons_append, merge, merge, ih]
    | pending i cell => rw [List.cons_append, merge, merge, ih] <;> simp
    | attempt queue except cell => rw [List.cons_append, merge, merge, ih] <;> simp

end Element

/-! ## Plans that are run alike -/

namespace Plan

/-- Plans that differ in nothing but how their texts are cut. -/
structure Alike (p q : Plan) : Prop where
  queue_eq : p.queue = q.queue
  scope_eq : p.scope = q.scope
  events_eq : p.events = q.events

variable {i : Interpreter} {head body : Text}

/-- The fragments of a text that is wrapped: a tag around it, between empty texts. -/
theorem fragmentsOf_wrapped {settings : Settings} (hns : '<' ∉ settings.ns)
    (hcomments : settings.comments = true)
    (hhead : Text.SameText (Comment.opener settings.ns) head)
    (hcloser : ¬Comment.closer <:+: body) (hname : Tag.continuesName body = false)
    (hnested : Tag.WellNested settings.ns "vars".toList body) :
    fragmentsOf settings (head ++ body ++ Comment.closer) =
      [.text [], .tag ⟨Tag.startTag settings.ns "vars".toList [] ++ body ++
        Tag.endTag settings.ns "vars".toList, "vars".toList, [], some body⟩, .text []] := by
  have hletters : ∀ c ∈ "vars".toList, c.isAlpha = true := List.all_eq_true.1 (by decide)
  have hattributes : Tag.IsAttributeText [] := ⟨rfl, by simp, .done false⟩
  have hcomplete := hnested.complete hns (by decide) hletters hattributes []
  refine fragmentsOf_of_complete hcomplete ?_
  rw [Settings.unwrapped, if_pos hcomments, Comment.unwrap_wrapped hhead hcloser hname]

/-- A text that is wrapped is planned like the text itself as a template. -/
theorem ofDocument_wrapped (hns : ∀ c ∈ i.settings.ns, c.isAlphanum = true)
    (hcomments : i.settings.comments = true)
    (hhead : Text.SameText (Comment.opener i.settings.ns) head)
    (hcloser : ¬Comment.closer <:+: body) (hname : Tag.continuesName body = false)
    (hnested : Tag.WellNested i.settings.ns "vars".toList body) (cell : Cell) (substitute : Bool)
    (scope : Scope) :
    Alike (ofDocument i cell substitute (head ++ body ++ Comment.closer) scope)
      (ofDocument i cell true body scope) := by
  have hopenings := Text.openings_eq_zero_of_isAlphanum hns
  obtain ⟨hlt, -⟩ := Text.not_mem_of_openings_eq_zero hopenings
  have htag : ∀ raw, ofFragment i cell (ofDocument i cell true) substitute
      (.tag ⟨raw, "vars".toList, [], some body⟩) = ofDocument i cell true body := fun _ => rfl
  rw [ofDocument_eq hopenings substitute,
    fragmentsOf_wrapped hlt hcomments hhead hcloser hname hnested]
  simp only [ofFragments, ofFragment_empty, htag, append, text, nothing, List.append_nil,
    List.nil_append]
  exact ⟨(Element.merge_cons_empty _).trans (Element.merge_append_empty _), rfl, rfl⟩

end Plan

namespace Processor

variable {p : Processor} {head body : Text}

/-- Documents that are planned alike are processed alike. -/
theorem interpret?_congr {substitute substitute' : Bool} {document document' : Text}
    {scope : Scope}
    (h : Plan.Alike
      (.ofDocument p.toInterpreter Store.empty.nextCell substitute document scope)
      (.ofDocument p.toInterpreter Store.empty.nextCell substitute' document' scope))
    (limit : Nat) :
    p.interpret? limit substitute document scope =
      p.interpret? limit substitute' document' scope := by
  have hwithin : ∀ depth, p.interpretWithin? depth substitute document scope =
      p.interpretWithin? depth substitute' document' scope := by
    intro depth
    simp only [interpretWithin?, runPass, runPlan, Pass.ofDocument, h.queue_eq, h.scope_eq,
      h.events_eq]
  simp only [interpret?, hwithin]

/-- For every processor whose namespace is letters and digits and that unwraps comments, all
    variables of the caller, and whether or not text outside of tags is a template: a document
    that is wrapped into a comment as a whole is processed exactly like what is wrapped when its
    text is a template. Both end for the same limits, in the same text or error, with the same
    requests, the same log and the same variables.

    The opener may be in any letter case. What is wrapped does not close a comment itself, does
    not continue the name of the opener, and its `vars` tags are well nested. -/
theorem interpret?_wrapped (hns : ∀ c ∈ p.settings.ns, c.isAlphanum = true)
    (hcomments : p.settings.comments = true)
    (hhead : Text.SameText (Comment.opener p.settings.ns) head)
    (hcloser : ¬Comment.closer <:+: body) (hname : Tag.continuesName body = false)
    (hnested : Tag.WellNested p.settings.ns "vars".toList body) (limit : Nat)
    (substitute : Bool) (scope : Scope) :
    p.interpret? limit substitute (head ++ body ++ Comment.closer) scope =
      p.interpret? limit true body scope :=
  interpret?_congr (Plan.ofDocument_wrapped hns hcomments hhead hcloser hname hnested _ substitute
    scope) limit

/-- A wrapper in other letter case around a `vars` tag, an include, and an opener. -/
theorem interpret?_wrapped_nested :
    let p : Processor := ⟨⟨{}, .empty⟩, .ofTable [("/a".toList, .ok "A".toList)]⟩
    let body := " <esi:vars>-$(x)-</esi:vars ><esi:include src=\"/a\"/><!--esi".toList
    p.interpret? 1 false ("<!--ESI".toList ++ body ++ "-->".toList) .empty =
        p.interpret? 1 true body .empty ∧
      (p.interpret? 1 true body .empty).map (fun o => (o.result, o.requests)) =
        some (.ok " --A<!--esi".toList, ["/a".toList]) := by
  intro p body
  have hopens : Text.SameText (Tag.opener "esi".toList ++ "vars".toList) "<esi:vars".toList := by
    decide
  have hends : Tag.IsEnd (Tag.endOpener "esi".toList ++ "vars".toList) "</esi:vars >".toList :=
    ⟨"</esi:vars".toList, [' '], rfl, by decide, List.forall_mem_singleton.2 rfl⟩
  have hnested : Tag.WellNested "esi".toList "vars".toList body :=
    .pair (s := [' ']) (by decide) hopens ⟨rfl, by simp, .done false⟩
      (.text (s := "-$(x)-".toList) (by decide)) hends
      (.text (s := "<esi:include src=\"/a\"/><!--esi".toList) (by decide))
  have hinstant : p.instant = p := rfl
  have hletters : ∀ c ∈ "esi".toList, c.isAlphanum = true := List.all_eq_true.1 (by decide)
  refine ⟨interpret?_wrapped hletters rfl (by decide) (by decide) (by decide) hnested 1 false
    .empty, ?_⟩
  rw [← hinstant, interpret?_instant]
  decide +kernel

end Processor

end EdgeInclude
