import EdgeInclude.Proofs.Plan.Step

/-!
# What is left for later

Planning a level leaves work for later: the includes, and the blocks whose other
part is processed if what they attempt fails. This is what holds the cell of the
level.

Results:
* `deferred_ofNested`: what a level leaves for later is what its steps leave, with
  URLs as they are under the variables of the step, and all of it holds the cell
  of the level.
* `outer_ofNested`: planning never binds anything in the layers around.
-/

namespace EdgeInclude

/-- Something that is left for later. -/
inductive Deferred where
  | content (i : Include)
  | recovery (except : Option Text)

namespace Element

mutual

/-- What an element leaves for later, with the cell that is held for it. -/
def deferred : Element → List (Cell × Deferred)
  | .text _ => []
  | .pending i cell => [(cell, .content i)]
  | .attempt queue except cell => (cell, .recovery except) :: allDeferred queue

/-- What elements leave for later. -/
def allDeferred : List Element → List (Cell × Deferred)
  | [] => []
  | e :: es => e.deferred ++ allDeferred es

end

theorem allDeferred_append (es fs : List Element) :
    allDeferred (es ++ fs) = allDeferred es ++ allDeferred fs := by
  induction es with
  | nil => rfl
  | cons e es ih => rw [List.cons_append, allDeferred, allDeferred, ih, List.append_assoc]

/-- Joining texts leaves nothing out. -/
theorem allDeferred_merge (es : List Element) : allDeferred (merge es) = allDeferred es := by
  induction es with
  | nil => rfl
  | cons e es ih =>
    cases e with
    | text s =>
      rw [allDeferred, deferred, List.nil_append, ← ih, merge]
      split
      · next rest hrest => rw [hrest, allDeferred, allDeferred]; rfl
      · split
        · rfl
        · rw [allDeferred, deferred, List.nil_append]
    | pending i cell => simp only [merge, allDeferred, ih]
    | attempt queue except cell => simp only [merge, allDeferred, ih]

end Element

/-- What a directive by itself leaves for later. -/
def Directive.deferred? (i : Interpreter) (scope : Scope) : Directive → Option Deferred
  | .include (some (c :: cs)) alt reprocess continueOnError =>
    some (.content
      { src := Template.render (i.context scope) (c :: cs)
        alt := alt.map (Template.render (i.context scope))
        reprocess := reprocess
        continueOnError := continueOnError })
  | .tryBlock body => some (.recovery (TryParts.ofBody i.settings.ns body).except)
  | _ => none

namespace Step

/-- What a step by itself leaves for later. -/
def deferred? (i : Interpreter) (st : Step) : Option Deferred :=
  st.fragment.directive?.bind (Directive.deferred? i st.scope)

/-- Steps and all those inside of them. -/
def all (steps : List Step) : List Step := allWithin (fun _ => true) steps

theorem all_cons (st : Step) (steps : List Step) :
    all (st :: steps) = st :: all st.inner ++ all steps := by
  rw [all, allWithin, within_eq, if_pos rfl]
  rfl

end Step

namespace Plan

variable {i : Interpreter} {cell : Cell} {nested : Text → Scope → Plan} {substitute : Bool}

/-- A fragment leaves for later what it leaves by itself and what is inside of it leaves. -/
theorem deferred_ofFragment (f : Fragment) (scope : Scope) :
    Element.allDeferred (ofFragment i cell nested substitute f scope).elements =
      (f.directive?.bind (Directive.deferred? i scope)).toList.map (cell, ·) ++
        (f.inner? i scope).elim [] fun inside =>
          Element.allDeferred (nested inside.1 inside.2).elements := by
  cases f with
  | text s => cases substitute <;> rfl
  | tag t =>
    simp only [Fragment.inner?, Fragment.directive?, Option.bind_some]
    show Element.allDeferred (ofDirective i cell nested (Directive.ofTag t) scope).elements = _
    cases Directive.ofTag t with
    | «include» src alt reprocess continueOnError =>
      match src with
      | some (c :: cs) => rfl
      | some [] => rfl
      | none => rfl
    | tryBlock body =>
      simp only [ofDirective, ofTry, queue, Element.allDeferred, Element.deferred,
        Element.allDeferred_merge, List.append_nil]
      rfl
    | when test matchName body =>
      cases hinside : (Directive.when test matchName body).inner? i scope with
      | none =>
        obtain ⟨events, hplan⟩ := ofWhen_of_inner?_eq_none hinside
        rw [ofDirective, hplan]
        rfl
      | some inside =>
        obtain ⟨condition, -, -, hplan⟩ := ofWhen_of_inner?_eq_some hinside
        rw [ofDirective, hplan]
        rfl
    | otherwise body =>
      rw [ofDirective_otherwise]
      cases (Directive.otherwise body).inner? i scope <;> rfl
    | assign name value => cases name <;> rfl
    | vars _ | choose _ | «show» _ | verbatim _ | nothing | unknown _ _ => rfl

/-- What planning a document leaves for later is what its steps leave, in order. -/
theorem deferred_ofNested (depth : Nat) (substitute : Bool) (document : Text) (scope : Scope) :
    Element.allDeferred (ofNested i cell depth substitute document scope).elements =
      ((Step.all (stepsOfNested i cell depth substitute document scope)).filterMap
        (Step.deferred? i)).map (cell, ·) := by
  refine stepsOfNested_induction
    (Q := fun _ steps plan => Element.allDeferred plan.elements =
      ((Step.all steps).filterMap (Step.deferred? i)).map (cell, ·))
    (fun _ => rfl) ?_ depth substitute document scope
  intro depth substitute f scope steps rest hinner hrest
  have hinside :
      ((Step.all (stepOf i cell depth substitute f scope).inner).filterMap
          (Step.deferred? i)).map (cell, ·) =
        (f.inner? i scope).elim [] fun inside => Element.allDeferred
          (ofNested i cell depth true inside.1 inside.2).elements := by
    cases hinside : f.inner? i scope with
    | none => simp [stepOf, hinside, Step.all, Step.allWithin]
    | some inside => simp only [stepOf, hinside, Option.elim, hinner]
  have hstep : (Step.deferred? i (stepOf i cell depth substitute f scope)) =
      f.directive?.bind (Directive.deferred? i scope) := rfl
  show Element.allDeferred (_ ++ _) = _
  rw [Element.allDeferred_append, hrest, Step.all_cons, List.filterMap_append, List.map_append]
  congr 1
  rw [List.filterMap_cons, hstep]
  show Element.allDeferred (ofFragment i cell _ substitute f scope).elements = _
  rw [deferred_ofFragment, ← hinside]
  cases f.directive?.bind (Directive.deferred? i scope) <;> rfl

/-- What planning leaves for later is left by the directives of its steps. -/
theorem exists_step_of_deferred {depth : Nat} {document : Text} {scope : Scope}
    {held : Cell × Deferred}
    (h : held ∈ Element.allDeferred (ofNested i cell depth substitute document scope).elements) :
    ∃ st ∈ Step.all (stepsOfNested i cell depth substitute document scope), ∃ d,
      st.fragment.directive? = some d ∧ d.deferred? i st.scope = some held.2 := by
  rw [deferred_ofNested] at h
  obtain ⟨later, hlater, rfl⟩ := List.mem_map.1 h
  obtain ⟨st, hst, hdeferred⟩ := List.mem_filterMap.1 hlater
  obtain ⟨d, hd, hdeferred⟩ := Option.bind_eq_some_iff.1 hdeferred
  exact ⟨st, hst, d, hd, hdeferred⟩

/-! ## Layers around -/

theorem outer_bindMatch (matchName : Option Text) (value : Value) (scope : Scope) :
    (bindMatch matchName value scope).outer = scope.outer := by
  cases matchName <;> simp [bindMatch]

theorem outer_ofFragment (hnested : ∀ body scope, (nested body scope).scope.outer = scope.outer)
    (f : Fragment) (scope : Scope) :
    (ofFragment i cell nested substitute f scope).scope.outer = scope.outer := by
  cases f with
  | text s => cases substitute <;> rfl
  | tag t =>
    show (ofDirective i cell nested (Directive.ofTag t) scope).scope.outer = _
    cases Directive.ofTag t with
    | «include» src alt reprocess continueOnError =>
      simp only [ofDirective, ofInclude]
      split <;> rfl
    | tryBlock body | vars body => exact hnested _ _
    | choose body => exact hnested _ _
    | when test matchName body =>
      cases hinside : (Directive.when test matchName body).inner? i scope with
      | none =>
        obtain ⟨events, hplan⟩ := ofWhen_of_inner?_eq_none hinside
        rw [ofDirective, hplan, nothing]
      | some inside =>
        obtain ⟨condition, -, rfl, hplan⟩ := ofWhen_of_inner?_eq_some hinside
        rw [ofDirective, hplan, after, hnested, outer_bindMatch]
    | otherwise body =>
      simp only [ofDirective]
      split
      · rfl
      · exact hnested _ _
    | assign name value =>
      cases name with
      | none => rfl
      | some name => exact Scope.outer_insert _ _ _
    | «show» _ | verbatim _ | nothing | unknown _ _ => rfl

/-- Planning never binds anything in the layers around. -/
theorem outer_ofNested (depth : Nat) (substitute : Bool) (document : Text) (scope : Scope) :
    (ofNested i cell depth substitute document scope).scope.outer = scope.outer := by
  refine stepsOfNested_induction (Q := fun scope _ plan => plan.scope.outer = scope.outer)
    (fun _ => rfl) ?_ depth substitute document scope
  intro depth substitute f scope steps rest hinner hrest
  exact hrest.trans (outer_ofFragment hinner f scope)

end Plan

end EdgeInclude
