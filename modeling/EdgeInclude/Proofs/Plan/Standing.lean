import EdgeInclude.Proofs.Plan.Deferred
import EdgeInclude.Proofs.Plan.Depth
import Mathlib.Logic.Relation

/-!
# What stands in a document

The directives that a document is written with, at any depth of nesting, whether or not they
are ever carried out: those of its tags, of the tags in their bodies, of either part of a block
that is tried, and of what was wrapped into comments. Planning carries out no other directives,
and leaves nothing else for later.

Results:
* `standsIn_of_mem_all`: every step of planning is that of a directive that stands in the
  document.
* `exists_standsIn_of_deferred`: so is everything that is left for later.
* `keepsBodies_iff`: it can be decided whether a document asks for what its includes bring to
  be processed.
-/

namespace EdgeInclude

open Relation (ReflTransGen)

/-- Whether a document is inside of a tag of another one. -/
def Settings.Holds (settings : Settings) (document inside : Text) : Prop :=
  ∃ t, .tag t ∈ Plan.fragmentsOf settings document ∧
    inside ∈ (Directive.ofTag t).documents settings.ns

/-- Whether a directive is that of a tag of a document, or of a document inside of that. -/
def Directive.StandsIn (settings : Settings) (document : Text) (d : Directive) : Prop :=
  ∃ inside t, ReflTransGen settings.Holds document inside ∧
    .tag t ∈ Plan.fragmentsOf settings inside ∧ Directive.ofTag t = d

theorem Directive.StandsIn.of_holds {settings : Settings} {document inside : Text} {d : Directive}
    (h : d.StandsIn settings inside) (hinside : ReflTransGen settings.Holds document inside) :
    d.StandsIn settings document := by
  obtain ⟨innermost, t, hholds, ht, hd⟩ := h
  exact ⟨innermost, t, hinside.trans hholds, ht, hd⟩

theorem Directive.standsIn_of_mem_fragments {settings : Settings} {document : Text} {f : Fragment}
    {d : Directive} (hf : f ∈ Plan.fragmentsOf settings document) (hd : f.directive? = some d) :
    d.StandsIn settings document ∧ ∀ inside ∈ d.documents settings.ns,
      settings.Holds document inside := by
  cases f with
  | text s => cases hd
  | tag t =>
    cases hd
    exact ⟨⟨document, t, .refl, hf, rfl⟩, fun inside hinside => ⟨t, hf, hinside⟩⟩

/-- What is inside of a directive that stands in a document is held by the document. -/
theorem Directive.StandsIn.holds {settings : Settings} {document inside : Text} {d : Directive}
    (h : d.StandsIn settings document) (hinside : inside ∈ d.documents settings.ns) :
    Relation.TransGen settings.Holds document inside := by
  obtain ⟨innermost, t, hholds, ht, rfl⟩ := h
  exact .tail' hholds ⟨t, ht, hinside⟩

/-- What is held by a document can hold less than the document. -/
theorem Settings.maxDepth_lt_of_holds {settings : Settings} {document inside : Text}
    (hns : settings.ns.openings = 0) (h : Relation.TransGen settings.Holds document inside) :
    inside.maxDepth < document.maxDepth := by
  induction h with
  | single h =>
    obtain ⟨t, ht, hinside⟩ := h
    exact Plan.maxDepth_documents_lt hns ht hinside
  | tail _ h ih =>
    obtain ⟨t, ht, hinside⟩ := h
    exact Nat.lt_trans (Plan.maxDepth_documents_lt hns ht hinside) ih

/-! ## What is planned -/

namespace Plan

variable {i : Interpreter} {cell : Cell} {depth : Nat} {substitute : Bool} {document : Text}
  {scope : Scope}

/-- Every step of planning is that of a directive that stands in the document. -/
theorem standsIn_of_mem_all {st : Step} {d : Directive}
    (h : st ∈ Step.all (stepsOfNested i cell depth substitute document scope))
    (hd : st.fragment.directive? = some d) : d.StandsIn i.settings document := by
  revert hd
  refine forall_mem_all (P := fun _ document st =>
    st.fragment.directive? = some d → d.StandsIn i.settings document) ?_ ?_ h
  · exact fun _ _ _ _ f hf hd => (Directive.standsIn_of_mem_fragments hf hd).1
  · intro _ document scope st f hf inner hinner hinside hd
    obtain ⟨outer, houter, hinner⟩ := Option.bind_eq_some_iff.1 hinner
    have hholds := (Directive.standsIn_of_mem_fragments hf houter).2 _
      (Directive.mem_documents_of_inner? hinner)
    exact (hinside hd).of_holds (.single hholds)

/-- What planning leaves for later is left by directives that stand in the document. -/
theorem exists_standsIn_of_deferred {held : Cell × Deferred}
    (h : held ∈ Element.allDeferred (ofNested i cell depth substitute document scope).elements) :
    ∃ d scope, d.StandsIn i.settings document ∧ Directive.deferred? i scope d = some held.2 := by
  obtain ⟨st, hst, d, hd, hdeferred⟩ := exists_step_of_deferred h
  exact ⟨d, st.scope, standsIn_of_mem_all hst hd, hdeferred⟩

end Plan

/-! ## Bodies that are processed -/

namespace Directive

/-- Whether a directive asks for what a request brings to be processed itself. -/
def reprocesses : Directive → Bool
  | .include _ _ reprocess _ => reprocess
  | _ => false

variable {i : Interpreter} {scope : Scope} {d : Directive}

theorem reprocess_eq_of_deferred? {content : Include}
    (h : d.deferred? i scope = some (.content content)) : content.reprocess = d.reprocesses := by
  unfold deferred? at h
  split at h
  · cases h
    rfl
  · cases h
  · cases h

theorem mem_documents_of_deferred? {document : Text}
    (h : d.deferred? i scope = some (.recovery (some document))) :
    document ∈ d.documents i.settings.ns := by
  unfold deferred? at h
  split at h
  · cases h
  · rw [Option.some.injEq, Deferred.recovery.injEq] at h
    exact List.mem_cons_of_mem _ (Option.mem_toList.2 h)
  · cases h

end Directive

namespace Settings

variable {settings : Settings} {document inside : Text}

/-- Whether nothing that stands in a document asks for what a request brings to be processed. -/
def KeepsBodies (settings : Settings) (document : Text) : Prop :=
  ∀ d : Directive, d.StandsIn settings document → d.reprocesses = false

theorem KeepsBodies.of_holds (h : settings.KeepsBodies document)
    (hinside : ReflTransGen settings.Holds document inside) : settings.KeepsBodies inside :=
  fun d hd => h d (hd.of_holds hinside)

theorem keepsBodies_iff_fragments :
    settings.KeepsBodies document ↔ ∀ f ∈ Plan.fragmentsOf settings document,
      ∀ d ∈ f.directive?, d.reprocesses = false ∧
        ∀ inside ∈ d.documents settings.ns, settings.KeepsBodies inside := by
  constructor
  · intro h f hf d hd
    obtain ⟨hstands, hholds⟩ := Directive.standsIn_of_mem_fragments hf hd
    exact ⟨h d hstands, fun inside hinside => h.of_holds (.single (hholds inside hinside))⟩
  · rintro h d ⟨innermost, t, hholds, ht, rfl⟩
    obtain rfl | ⟨inside, ⟨outer, houter, hinside⟩, hholds⟩ := ReflTransGen.cases_head hholds
    · exact (h _ ht _ rfl).1
    · exact (h _ houter _ rfl).2 inside hinside _ ⟨innermost, t, hholds, ht, rfl⟩

/-- The same for what stands in a document no deeper than a given depth. -/
def keepsBodiesWithin (settings : Settings) : Nat → Text → Bool
  | 0, _ => false
  | depth + 1, document =>
    (Plan.fragmentsOf settings document).all fun f => f.directive?.all fun d =>
      !d.reprocesses && (d.documents settings.ns).all (settings.keepsBodiesWithin depth)

theorem keepsBodies_of_within {depth : Nat} (h : settings.keepsBodiesWithin depth document = true) :
    settings.KeepsBodies document := by
  induction depth generalizing document with
  | zero => cases h
  | succ depth ih =>
    rw [keepsBodiesWithin, List.all_eq_true] at h
    refine keepsBodies_iff_fragments.2 fun f hf d hd => ?_
    have hd := (Option.all_eq_true _ _).1 (h f hf) d hd
    rw [Bool.and_eq_true, Bool.not_eq_true', List.all_eq_true] at hd
    exact ⟨hd.1, fun inside hinside => ih (hd.2 inside hinside)⟩

theorem keepsBodiesWithin_eq {depth : Nat} (hns : settings.ns.openings = 0)
    (hdepth : document.maxDepth < depth) (h : settings.KeepsBodies document) :
    settings.keepsBodiesWithin depth document = true := by
  induction depth generalizing document with
  | zero => exact absurd hdepth (Nat.not_lt_zero _)
  | succ depth ih =>
    rw [keepsBodiesWithin, List.all_eq_true]
    refine fun f hf => (Option.all_eq_true _ _).2 fun d hd => ?_
    obtain ⟨hkeeps, hinside⟩ := keepsBodies_iff_fragments.1 h f hf d hd
    rw [Bool.and_eq_true, Bool.not_eq_true', List.all_eq_true]
    refine ⟨hkeeps, fun inside hmem => ih ?_ (hinside inside hmem)⟩
    have hholds := (Directive.standsIn_of_mem_fragments hf hd).2 inside hmem
    have hlt := maxDepth_lt_of_holds hns (.single hholds)
    omega

/-- Documents cannot hold each other without end, so what stands in them can be gone through. -/
theorem keepsBodies_iff (hns : settings.ns.openings = 0) :
    settings.KeepsBodies document ↔
      settings.keepsBodiesWithin (document.maxDepth + 1) document = true :=
  ⟨keepsBodiesWithin_eq hns (Nat.lt_succ_self _), keepsBodies_of_within⟩

end Settings

end EdgeInclude
