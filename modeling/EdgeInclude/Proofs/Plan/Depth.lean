import EdgeInclude.Proofs.Markup.Weight
import EdgeInclude.Proofs.Plan.Following

/-!
# Depth of nesting

A document is planned down to a given depth of nesting. That depth makes no difference
once it is large enough: whatever is inside of a fragment can hold less than the document
that the fragment is part of, as the weights of the two say, although comments that are
unwrapped make it longer. So planning ends, and needs no bound.

Results:
* `maxDepth_documents_lt`, `maxDepth_inner_lt`: a document inside of a fragment can hold less
  than the document that the fragment is part of.
* `ofNested_eq_ofDocument`: a document is planned as a whole at every depth that it can
  hold.
* `ofDocument_eq`: so that what is inside of its fragments is planned like the document.
* `plan_eq_ofDirective`: what is inside of a tag is planned as a whole.
* `planning_ends`: documents that are planned inside of one another come to an end, after
  at most as many levels as the first one has `<`.
-/

namespace EdgeInclude

open Text

/-! ## What is inside of a fragment -/

theorem TryParts.maxDepth_last?_le {ns name body document : Text}
    (h : last? name ((Markup.scan ns body).tags.map Prod.fst) = some document) :
    maxDepth document ≤ maxDepth body := by
  obtain ⟨t, hfound, rfl⟩ := Option.map_eq_some_iff.1 h
  have hmem := List.mem_reverse.1 (List.mem_of_find?_eq_some hfound)
  exact Nat.le_of_lt (Markup.maxDepth_body_lt (Markup.mem_fragments_of_mem_tags hmem))

namespace Directive

/-- The documents inside of a directive, whether or not they are processed. -/
def documents (ns : Text) : Directive → List Text
  | .tryBlock body => (TryParts.ofBody ns body).attempt :: (TryParts.ofBody ns body).except.toList
  | .vars body => [body]
  | .choose body => [body]
  | .when _ _ body => [body]
  | .otherwise body => [body]
  | _ => []

/-- What is planned with a directive is one of the documents inside of it. -/
theorem mem_documents_of_inner? {i : Interpreter} {scope : Scope} {d : Directive}
    {inside : Text × Scope} (h : d.inner? i scope = some inside) :
    inside.1 ∈ d.documents i.settings.ns := by
  cases d with
  | tryBlock _ | vars _ | choose _ =>
    cases h
    exact List.mem_cons_self
  | when test _ body =>
    rw [inner?] at h
    split at h
    · cases h
    · obtain ⟨test, -, happlies⟩ := Option.bind_eq_some_iff.1 h
      dsimp only at happlies
      split at happlies
      · cases happlies
        exact List.mem_cons_self
      · cases happlies
  | otherwise body =>
    rw [inner?] at h
    split at h
    · cases h
    · cases h
      exact List.mem_cons_self
  | «include» _ _ _ _ | «show» _ | assign _ _ | verbatim _ | nothing | unknown _ _ => cases h

/-- What is inside of a directive is no more than the body of its tag. -/
theorem maxDepth_documents_le {ns name body raw document : Text} {a : Attributes}
    (h : document ∈ (ofName name a body raw).documents ns) :
    maxDepth document ≤ maxDepth body := by
  have hsame : document ∈ [body] → maxDepth document ≤ maxDepth body := by
    intro hmem
    rw [List.mem_singleton.1 hmem]
  unfold ofName at h
  split at h
  · cases h
  split at h
  · rw [documents, TryParts.ofBody_eq, List.mem_cons, Option.mem_toList] at h
    obtain rfl | hexcept := h
    · let tags := (Markup.scan ns body).tags.map Prod.fst
      cases hattempt : TryParts.last? "attempt".toList tags with
      | none => simp [maxDepth, weight]
      | some attempt => exact TryParts.maxDepth_last?_le hattempt
    · exact TryParts.maxDepth_last?_le hexcept
  split at h
  · unfold ofVars at h
    split at h
    · cases h
    · exact hsame h
  split at h
  · exact hsame h
  split at h
  · exact hsame h
  split at h
  · exact hsame h
  -- No other directive has a document inside of it.
  split at h
  · cases h
  split at h
  · cases h
  split at h
  · cases h
  · cases h

end Directive

/-- What is inside of a tag can hold less than the document that the tag is part of. -/
theorem Plan.maxDepth_documents_lt {settings : Settings} {document inside : Text} {t : Tag}
    (hns : settings.ns.openings = 0) (ht : .tag t ∈ fragmentsOf settings document)
    (h : inside ∈ (Directive.ofTag t).documents settings.ns) :
    maxDepth inside < maxDepth document := by
  have hbody := Markup.maxDepth_body_lt ht
  have hinside : maxDepth inside ≤ maxDepth (t.body.getD []) := Directive.maxDepth_documents_le h
  have hunwrapped : maxDepth (if settings.comments then Comment.unwrap settings.ns document
      else document) ≤ maxDepth document := by
    split
    · exact (Comment.noHeavier_unwrap hns document).maxDepth_le
    · exact Nat.le_refl _
  omega

section

variable {i : Interpreter}

/-- What is inside of a fragment can hold less than the document that the fragment is part of. -/
theorem Fragment.maxDepth_inner_lt {document : Text} {f : Fragment} {scope : Scope}
    {inside : Text × Scope} (hns : i.settings.ns.openings = 0)
    (hf : f ∈ Plan.fragmentsOf i.settings document) (h : f.inner? i scope = some inside) :
    maxDepth inside.1 < maxDepth document := by
  cases f with
  | text s => cases h
  | tag t => exact Plan.maxDepth_documents_lt hns hf (Directive.mem_documents_of_inner? h)

namespace Plan

variable {cell : Cell} {nested nested' : Text → Scope → Plan}

theorem ofFragments_congr {substitute : Bool} {fs : List Fragment} {scope : Scope}
    (h : ∀ f ∈ fs, ∀ scope, ∀ inside ∈ f.inner? i scope,
      nested inside.1 inside.2 = nested' inside.1 inside.2) :
    ofFragments i cell nested substitute fs scope =
      ofFragments i cell nested' substitute fs scope := by
  induction fs generalizing scope with
  | nil => rfl
  | cons f fs ih =>
    obtain ⟨hf, hfs⟩ := List.forall_mem_cons.1 h
    rw [ofFragments, ofFragments, ofFragment_congr (hf scope), append, append, ih hfs]

/-- A document is planned alike at any two depths above the depth that it can have. -/
theorem ofNested_congr (hns : i.settings.ns.openings = 0) {depth depth' : Nat} {document : Text}
    (h : maxDepth document < depth) (h' : maxDepth document < depth') (substitute : Bool)
    (scope : Scope) :
    ofNested i cell depth substitute document scope =
      ofNested i cell depth' substitute document scope := by
  induction depth generalizing depth' substitute document scope with
  | zero => exact absurd h (Nat.not_lt_zero _)
  | succ depth ih =>
    obtain ⟨depth', rfl⟩ : ∃ k, depth' = k + 1 := ⟨depth' - 1, by omega⟩
    rw [ofNested, ofNested]
    refine ofFragments_congr fun f hf scope inside hinside => ?_
    have hlt := Fragment.maxDepth_inner_lt hns hf hinside
    exact ih (by omega) (by omega) true inside.2

/-- A document is planned as a whole at every depth above the one that it can have. -/
theorem ofNested_eq_ofDocument (hns : i.settings.ns.openings = 0) {depth : Nat} {document : Text}
    (h : maxDepth document < depth) (substitute : Bool) (scope : Scope) :
    ofNested i cell depth substitute document scope =
      ofDocument i cell substitute document scope :=
  ofNested_congr hns h (Nat.lt_succ_of_le (maxDepth_le_length document)) substitute scope

/-- A document is planned fragment by fragment, and what is inside of a fragment is planned in
    the same way. -/
theorem ofDocument_eq (hns : i.settings.ns.openings = 0) (substitute : Bool) (document : Text)
    (scope : Scope) :
    ofDocument i cell substitute document scope =
      ofFragments i cell (ofDocument i cell true) substitute (fragmentsOf i.settings document)
        scope := by
  rw [ofDocument, ofNested]
  refine ofFragments_congr fun f hf scope inside hinside => ?_
  have hlt := Fragment.maxDepth_inner_lt hns hf hinside
  have hle := maxDepth_le_length document
  exact ofNested_eq_ofDocument hns (by omega) true inside.2

/-- What holds of the step of every fragment of a document, and of every step if it holds of it as
    a step of what is inside of a fragment, holds of all steps. -/
theorem forall_mem_all {P : Nat → Text → Step → Prop}
    (here : ∀ depth substitute document scope, ∀ f ∈ fragmentsOf i.settings document,
      P (depth + 1) document (stepOf i cell depth substitute f scope))
    (inside : ∀ depth document scope st, ∀ f ∈ fragmentsOf i.settings document,
      ∀ inner ∈ f.inner? i scope, P depth inner.1 st → P (depth + 1) document st)
    {depth : Nat} {substitute : Bool} {document : Text} {scope : Scope} {st : Step}
    (h : st ∈ Step.all (stepsOfNested i cell depth substitute document scope)) :
    P depth document st := by
  induction depth generalizing substitute document scope with
  | zero => exact absurd h List.not_mem_nil
  | succ depth ih =>
    replace here := here depth substitute document
    replace inside := fun scope => inside depth document scope st
    rw [stepsOfNested] at h
    generalize fragmentsOf i.settings document = fs at h here inside
    induction fs generalizing scope with
    | nil => exact absurd h List.not_mem_nil
    | cons f fs ihfs =>
      rw [stepsOfFragments, Step.all_cons, List.mem_append, List.mem_cons] at h
      obtain (rfl | h) | h := h
      · exact here scope f List.mem_cons_self
      · cases hinner : f.inner? i scope with
        | none => simp [hinner, Step.all, Step.allWithin] at h
        | some inner =>
          simp only [hinner, Option.elim] at h
          exact inside scope f List.mem_cons_self inner hinner (ih h)
      · exact ihfs h (fun scope f hf => here scope f (List.mem_cons_of_mem _ hf))
          (fun scope f hf => inside scope f (List.mem_cons_of_mem _ hf))

/-- Every step is that of a fragment, planned at a depth that is large enough for what is
    inside of it if the depth of the whole is. -/
theorem eq_stepOf_within {depth : Nat} {substitute : Bool} {document : Text} {scope : Scope} :
    ∀ st ∈ Step.all (stepsOfNested i cell depth substitute document scope),
      ∃ within substitute, st = stepOf i cell within substitute st.fragment st.scope ∧
        (i.settings.ns.openings = 0 ∧ maxDepth document < depth →
          ∀ inside ∈ st.fragment.inner? i st.scope, maxDepth inside.1 < within) := by
  intro st hst
  refine forall_mem_all (P := fun depth document st =>
    ∃ within substitute, st = stepOf i cell within substitute st.fragment st.scope ∧
      (i.settings.ns.openings = 0 ∧ maxDepth document < depth →
        ∀ inside ∈ st.fragment.inner? i st.scope, maxDepth inside.1 < within)) ?_ ?_ hst
  · intro depth substitute document scope f hf
    refine ⟨depth, substitute, rfl, fun ⟨hns, hdepth⟩ inside hinside => ?_⟩
    have hlt := Fragment.maxDepth_inner_lt hns hf hinside
    omega
  · rintro depth document scope st f hf inner hinner ⟨within, substitute, hstep, hwithin⟩
    refine ⟨within, substitute, hstep, fun ⟨hns, hdepth⟩ => hwithin ⟨hns, ?_⟩⟩
    have hlt := Fragment.maxDepth_inner_lt hns hf hinner
    omega

/-- The step of a tag has the plan of its directive. What is inside of the tag is planned as a
    whole, if the namespace has no characters that tags and comments begin with. -/
theorem plan_eq_ofDirective {substitute : Bool} {document : Text} {scope : Scope} {st : Step}
    {d : Directive} (h : st ∈ Step.all (stepsOfDocument i cell substitute document scope))
    (hdirective : st.fragment.directive? = some d) :
    ∃ depth, st.plan = ofDirective i cell (ofNested i cell depth true) d st.scope ∧
      (i.settings.ns.openings = 0 → ∀ inside ∈ d.inner? i st.scope,
        ofNested i cell depth true inside.1 inside.2 =
          ofDocument i cell true inside.1 inside.2) := by
  have hdepth : maxDepth document < document.length + 1 :=
    Nat.lt_succ_of_le (maxDepth_le_length document)
  obtain ⟨depth, substitute, hstep, hwithin⟩ := eq_stepOf_within st h
  have hplan := congrArg Step.plan hstep
  cases hf : st.fragment with
  | text s => simp [hf, Fragment.directive?] at hdirective
  | tag t =>
    obtain rfl : Directive.ofTag t = d := by simpa [hf, Fragment.directive?] using hdirective
    refine ⟨depth, ?_, fun hns inside hinside => ?_⟩
    · rw [hplan, hf]
      rfl
    · have hinner : inside ∈ st.fragment.inner? i st.scope := by
        rw [hf]
        exact hinside
      exact ofNested_eq_ofDocument hns (hwithin ⟨hns, hdepth⟩ inside hinner) true inside.2

/-! ## Planning ends -/

/-- Whether a document has a fragment that another one is inside of, whatever the variables. -/
def Encloses (i : Interpreter) (document inside : Text) : Prop :=
  ∃ f ∈ fragmentsOf i.settings document, ∃ scope scope', f.inner? i scope = some (inside, scope')

theorem Encloses.maxDepth_lt {document inside : Text} (hns : i.settings.ns.openings = 0)
    (h : Encloses i document inside) : maxDepth inside < maxDepth document := by
  obtain ⟨f, hf, scope, scope', hinside⟩ := h
  exact Fragment.maxDepth_inner_lt hns hf hinside

/-- The maximal depth falls with every document that is inside of the one before it. -/
theorem length_le_maxDepth {document : Text} {insides : List Text}
    (hns : i.settings.ns.openings = 0) (h : List.IsChain (Encloses i) (document :: insides)) :
    insides.length ≤ maxDepth document := by
  induction insides generalizing document with
  | nil => exact Nat.zero_le _
  | cons inside insides ih =>
    obtain ⟨hinside, hinsides⟩ := List.isChain_cons_cons.1 h
    have hlt := hinside.maxDepth_lt hns
    have hle := ih hinsides
    rw [List.length_cons]
    omega

theorem wellFounded_encloses (hns : i.settings.ns.openings = 0) :
    WellFounded fun inside document => Encloses i document inside :=
  Subrelation.wf (fun h => h.maxDepth_lt hns) (InvImage.wf maxDepth Nat.lt_wfRel.wf)

theorem stepsOfFragments_congr {inner inner' : Text → Scope → List Step} {substitute : Bool}
    {fs : List Fragment} {scope : Scope}
    (h : ∀ f ∈ fs, ∀ scope, ∀ inside ∈ f.inner? i scope,
      nested inside.1 inside.2 = nested' inside.1 inside.2 ∧
        inner inside.1 inside.2 = inner' inside.1 inside.2) :
    stepsOfFragments i cell nested inner substitute fs scope =
      stepsOfFragments i cell nested' inner' substitute fs scope := by
  induction fs generalizing scope with
  | nil => rfl
  | cons f fs ih =>
    obtain ⟨hf, hfs⟩ := List.forall_mem_cons.1 h
    rw [stepsOfFragments, stepsOfFragments,
      ofFragment_congr fun inside hinside => (hf scope inside hinside).1, ih hfs]
    cases hinside : f.inner? i scope with
    | none => rfl
    | some inside => simp only [Option.elim, (hf scope inside hinside).2]

theorem stepsOfNested_congr (hns : i.settings.ns.openings = 0) {depth depth' : Nat}
    {document : Text} (h : maxDepth document < depth) (h' : maxDepth document < depth')
    (substitute : Bool) (scope : Scope) :
    stepsOfNested i cell depth substitute document scope =
      stepsOfNested i cell depth' substitute document scope := by
  induction depth generalizing depth' substitute document scope with
  | zero => exact absurd h (Nat.not_lt_zero _)
  | succ depth ih =>
    obtain ⟨depth', rfl⟩ : ∃ k, depth' = k + 1 := ⟨depth' - 1, by omega⟩
    rw [stepsOfNested, stepsOfNested]
    refine stepsOfFragments_congr fun f hf scope inside hinside => ?_
    have hlt := Fragment.maxDepth_inner_lt hns hf hinside
    exact ⟨ofNested_congr hns (by omega) (by omega) true inside.2,
      ih (by omega) (by omega) true inside.2⟩

/-- The steps of a document are those of its fragments, and those inside of them are the steps
    of what is inside of the fragment, planned in the same way. -/
theorem stepsOfDocument_eq (hns : i.settings.ns.openings = 0) (substitute : Bool)
    (document : Text) (scope : Scope) :
    stepsOfDocument i cell substitute document scope =
      stepsOfFragments i cell (ofDocument i cell true) (stepsOfDocument i cell true) substitute
        (fragmentsOf i.settings document) scope := by
  rw [stepsOfDocument, stepsOfNested]
  refine stepsOfFragments_congr fun f hf scope inside hinside => ?_
  have hlt := Fragment.maxDepth_inner_lt hns hf hinside
  have hle := maxDepth_le_length document
  exact ⟨ofNested_eq_ofDocument hns (by omega) true inside.2,
    stepsOfNested_congr hns (by omega) (Nat.lt_succ_of_le (maxDepth_le_length _)) true inside.2⟩

end Plan

namespace Step

mutual

/-- The number of levels of steps inside of a step. -/
def levels : Step → Nat
  | ⟨_, _, _, inner⟩ => if inner.isEmpty then 0 else levelsBelow inner + 1

/-- The number of levels of steps below the given ones. -/
def levelsBelow : List Step → Nat
  | [] => 0
  | st :: sts => max st.levels (levelsBelow sts)

end

theorem levels_le (st : Step) : st.levels ≤ levelsBelow st.inner + 1 := by
  cases st
  rw [levels]
  split
  · exact Nat.zero_le _
  · exact Nat.le_refl _

/-- Nothing is planned at more levels below a document than it can hold. -/
theorem levelsBelow_stepsOfNested_le (hns : i.settings.ns.openings = 0) {cell : Cell}
    (depth : Nat) (substitute : Bool) (document : Text) (scope : Scope) :
    levelsBelow (Plan.stepsOfNested i cell depth substitute document scope) ≤
      maxDepth document := by
  induction depth generalizing substitute document scope with
  | zero => exact Nat.zero_le _
  | succ depth ih =>
    have hfs : ∀ f ∈ Plan.fragmentsOf i.settings document, ∀ scope,
        ∀ inside ∈ f.inner? i scope, maxDepth inside.1 < maxDepth document :=
      fun f hf scope inside hinside => Fragment.maxDepth_inner_lt hns hf hinside
    rw [Plan.stepsOfNested]
    generalize Plan.fragmentsOf i.settings document = fs at hfs
    induction fs generalizing scope with
    | nil => exact Nat.zero_le _
    | cons f fs ihfs =>
      obtain ⟨hf, hfs⟩ := List.forall_mem_cons.1 hfs
      rw [Plan.stepsOfFragments, levelsBelow]
      refine Nat.max_le.2 ⟨?_, ihfs _ hfs⟩
      cases hinside : f.inner? i scope with
      | none => exact Nat.zero_le _
      | some inside =>
        have hbelow := ih true inside.1 inside.2
        have hlt := hf scope inside hinside
        exact Nat.le_trans (levels_le _) (Nat.le_trans (Nat.succ_le_succ hbelow) hlt)

end Step

namespace Plan

/-- Planning ends, for every document and whether or not comments are unwrapped, if the name
    of the namespace has letters and digits only:

    * What is inside of the fragments of documents, where comments are unwrapped anew each
      time, is a relation that is well founded.
    * Documents inside of one another are no more than the first one has `<`.
    * So planning is the recursion on what is inside of fragments, and needs no bound; and its
      steps have no more levels below the document than that. -/
theorem planning_ends (hns : ∀ c ∈ i.settings.ns, c.isAlphanum = true) :
    (WellFounded fun inside document => Encloses i document inside) ∧
      (∀ document insides, List.IsChain (Encloses i) (document :: insides) →
        insides.length ≤ document.count '<') ∧
      ∀ cell substitute document scope,
        ofDocument i cell substitute document scope =
          ofFragments i cell (ofDocument i cell true) substitute
            (fragmentsOf i.settings document) scope ∧
        stepsOfDocument i cell substitute document scope =
          stepsOfFragments i cell (ofDocument i cell true) (stepsOfDocument i cell true)
            substitute (fragmentsOf i.settings document) scope ∧
        Step.levelsBelow (stepsOfDocument i cell substitute document scope) ≤
          document.count '<' := by
  have hopenings := openings_eq_zero_of_isAlphanum hns
  refine ⟨wellFounded_encloses hopenings, fun document insides h => ?_,
    fun cell substitute document scope => ⟨ofDocument_eq hopenings substitute document scope,
      stepsOfDocument_eq hopenings substitute document scope, ?_⟩⟩
  · exact Nat.le_trans (length_le_maxDepth hopenings h) (maxDepth_le_count document)
  · exact Nat.le_trans (Step.levelsBelow_stepsOfNested_le hopenings _ substitute document scope)
      (maxDepth_le_count document)

/-- The opener of a comment that another comment holds is left over by the first unwrapping, and
    gives a tag at the next level. -/
theorem planning_ends_leftover_opener :
    let i : Interpreter := ⟨{}, .empty⟩
    let cell := Store.empty.nextCell
    let document := "<esi:vars><!--esi <!--esi a-->b--></esi:vars>".toList
    (∀ c ∈ i.settings.ns, c.isAlphanum = true) ∧
      Step.levelsBelow (stepsOfDocument i cell true document .empty) = 3 ∧
      Step.levelsBelow (stepsOfDocument i cell true document .empty) ≤ document.count '<' := by
  intro i cell document
  have hns : ∀ c ∈ i.settings.ns, c.isAlphanum = true := List.all_eq_true.1 (by decide)
  exact ⟨hns, by decide +kernel, ((planning_ends hns).2.2 cell true document .empty).2.2⟩

end Plan

end

end EdgeInclude
