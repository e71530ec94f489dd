import EdgeInclude.Plan.Basic

/-!
# Steps of planning

What happens while a document is planned: a step for every fragment, with the
variables under which it is planned, what planning it yields, and the steps of
the document inside of it, if that is planned as well.

Results:
* `ofFragment_congr`: a fragment is planned with the help of nothing but the
  plan of the document inside of it.
* `stepsOfNested_induction`: what holds of every fragment if it holds of what is inside
  of it, holds of every document.
* `eq_stepOf_of_mem`: every step is that of a fragment planned under its variables.
* `ofNested_eq_planOf`: the plan of a document is that of its steps in order.
-/

namespace EdgeInclude

/-- The directive of a fragment, if it is a tag. -/
def Fragment.directive? : Fragment → Option Directive
  | .text _ => none
  | .tag t => some (Directive.ofTag t)

namespace Directive

/-- Whether the condition of a case holds. -/
def holds (i : Interpreter) (scope : Scope) : Directive → Bool
  | .when (some test) _ _ => ((Condition.ofText test).decide (i.context scope)).verdict.holds
  | _ => false

/-- The document inside of a directive, with the variables under which it is planned, if it is
    planned as part of the document around it. -/
def inner? (i : Interpreter) (scope : Scope) : Directive → Option (Text × Scope)
  | .tryBlock body => some ((TryParts.ofBody i.settings.ns body).attempt, scope)
  | .vars body => some (body, scope)
  | .choose body => some (body, scope.removeOwn Plan.matchesName)
  | .when test matchName body =>
    if scope.hasOwn Plan.matchesName then none
    else test.bind fun test =>
      let verdict := ((Condition.ofText test).decide (i.context scope)).verdict
      if verdict.holds then some (body, Plan.bindMatch matchName verdict.value scope) else none
  | .otherwise body => if scope.hasOwn Plan.matchesName then none else some (body, scope)
  | _ => none

end Directive

/-- The document inside of a fragment, as for directives. -/
def Fragment.inner? (i : Interpreter) (scope : Scope) (f : Fragment) : Option (Text × Scope) :=
  f.directive?.bind (Directive.inner? i scope)

/-- A step of planning. -/
structure Step where
  fragment : Fragment
  /-- The variables under which the fragment is planned. -/
  scope : Scope
  plan : Plan
  inner : List Step

namespace Step

mutual

/-- A step and those inside of it, in document order, as far as fragments are entered. -/
def within (enter : Fragment → Bool) : Step → List Step
  | ⟨f, scope, plan, inner⟩ =>
    ⟨f, scope, plan, inner⟩ :: if enter f then allWithin enter inner else []

/-- Steps and those inside of them. -/
def allWithin (enter : Fragment → Bool) : List Step → List Step
  | [] => []
  | st :: sts => st.within enter ++ allWithin enter sts

end

theorem within_eq (enter : Fragment → Bool) (st : Step) :
    st.within enter = st :: if enter st.fragment then allWithin enter st.inner else [] := by
  cases st
  rw [within]

/-- The plan that steps under the given variables make up. -/
def planOf (scope : Scope) : List Step → Plan
  | [] => .nothing scope []
  | st :: sts => st.plan.append fun scope => planOf scope sts

end Step

namespace Plan

/-- The steps of planning fragments in order, where `inner` gives the steps of the documents
    inside of them. -/
def stepsOfFragments (i : Interpreter) (cell : Cell) (nested : Text → Scope → Plan)
    (inner : Text → Scope → List Step) (substitute : Bool) :
    List Fragment → Scope → List Step
  | [], _ => []
  | f :: fs, scope =>
    let plan := ofFragment i cell nested substitute f scope
    let inside := (f.inner? i scope).elim [] fun (body, scope) => inner body scope
    ⟨f, scope, plan, inside⟩ :: stepsOfFragments i cell nested inner substitute fs plan.scope

/-- The steps of planning a document whose directives are nested no deeper than `depth`. -/
def stepsOfNested (i : Interpreter) (cell : Cell) :
    (depth : Nat) → (substitute : Bool) → Text → Scope → List Step
  | 0, _, _, _ => []
  | depth + 1, substitute, document, scope =>
    stepsOfFragments i cell (ofNested i cell depth true) (stepsOfNested i cell depth true)
      substitute (fragmentsOf i.settings document) scope

/-- The step of planning a fragment of a document whose directives are nested no deeper than
    `depth + 1`. -/
def stepOf (i : Interpreter) (cell : Cell) (depth : Nat) (substitute : Bool) (f : Fragment)
    (scope : Scope) : Step where
  fragment := f
  scope := scope
  plan := ofFragment i cell (ofNested i cell depth true) substitute f scope
  inner := (f.inner? i scope).elim [] fun (body, scope) => stepsOfNested i cell depth true body scope

/-- The steps of planning a document for the level with the given cell. -/
def stepsOfDocument (i : Interpreter) (cell : Cell) (substitute : Bool) (document : Text)
    (scope : Scope) : List Step :=
  stepsOfNested i cell (document.length + 1) substitute document scope

/-! ## What is planned with the help of what -/

section

variable {i : Interpreter} {cell : Cell} {nested : Text → Scope → Plan}

/-- A case that is not taken plans nothing. -/
theorem ofWhen_of_inner?_eq_none {test matchName : Option Text} {body : Text} {scope : Scope}
    (h : (Directive.when test matchName body).inner? i scope = none) :
    ∃ events, ofWhen i nested test matchName body scope = nothing scope events := by
  unfold ofWhen
  split
  · exact ⟨[], rfl⟩
  · next hown =>
    cases test with
    | none => exact ⟨_, rfl⟩
    | some test =>
      dsimp only
      split
      · next hholds => simp [Directive.inner?, hown, hholds] at h
      · exact ⟨_, rfl⟩

/-- A case that is taken has its body planned under the value of its condition. -/
theorem ofWhen_of_inner?_eq_some {test matchName : Option Text} {body : Text} {scope : Scope}
    {inside : Text × Scope}
    (h : (Directive.when test matchName body).inner? i scope = some inside) :
    ∃ condition, test = some condition ∧
      let found := (Condition.ofText condition).decide (i.context scope)
      inside = (body, bindMatch matchName found.verdict.value scope) ∧
        ofWhen i nested test matchName body scope =
          after found.events (nested inside.1 inside.2) := by
  rw [Directive.inner?] at h
  split at h
  · cases h
  · next hown =>
    obtain ⟨condition, rfl, happlies⟩ := Option.bind_eq_some_iff.1 h
    refine ⟨condition, rfl, ?_⟩
    dsimp only at happlies
    split at happlies
    · next hholds =>
      obtain rfl := Option.some.inj happlies
      exact ⟨rfl, by simp only [ofWhen, if_neg hown, if_pos hholds]⟩
    · cases happlies

theorem ofDirective_otherwise (body : Text) (scope : Scope) :
    ofDirective i cell nested (.otherwise body) scope =
      ((Directive.otherwise body).inner? i scope).elim (nothing scope []) fun inside =>
        nested inside.1 inside.2 := by
  rw [ofDirective, Directive.inner?]
  split <;> rfl

theorem ofDirective_congr {nested' : Text → Scope → Plan} {d : Directive} {scope : Scope}
    (h : ∀ inside ∈ d.inner? i scope, nested inside.1 inside.2 = nested' inside.1 inside.2) :
    ofDirective i cell nested d scope = ofDirective i cell nested' d scope := by
  cases d with
  | tryBlock body =>
    have hattempt := h _ rfl
    simp only [ofDirective, ofTry, hattempt]
  | vars body => exact h _ rfl
  | choose body =>
    have hbody := h _ rfl
    simp only [ofDirective, ofChoose, hbody]
  | when test matchName body =>
    simp only [ofDirective, ofWhen]
    split
    · rfl
    · next hown =>
      cases test with
      | none => rfl
      | some test =>
        dsimp only
        split
        · next hholds =>
          rw [h (body, bindMatch matchName _ scope) (by simp [Directive.inner?, hown, hholds])]
        · rfl
  | otherwise body =>
    simp only [ofDirective]
    split
    · rfl
    · next hown => exact h (body, scope) (by simp [Directive.inner?, hown])
  | _ => rfl

theorem ofFragment_congr {nested' : Text → Scope → Plan} {substitute : Bool}
    {f : Fragment} {scope : Scope}
    (h : ∀ inside ∈ f.inner? i scope, nested inside.1 inside.2 = nested' inside.1 inside.2) :
    ofFragment i cell nested substitute f scope =
      ofFragment i cell nested' substitute f scope := by
  cases f with
  | text s => rfl
  | tag t => exact ofDirective_congr h

/-! ## What holds of every document -/

/-- What holds of a plan and its steps under the given variables, whatever the document. -/
theorem stepsOfNested_induction {Q : Scope → List Step → Plan → Prop}
    (done : ∀ scope, Q scope [] (nothing scope []))
    (step : ∀ (depth : Nat) (substitute : Bool) (f : Fragment) (scope : Scope)
      (steps : List Step) (rest : Plan),
      (∀ body scope, Q scope (stepsOfNested i cell depth true body scope)
        (ofNested i cell depth true body scope)) →
      Q (ofFragment i cell (ofNested i cell depth true) substitute f scope).scope steps rest →
      Q scope (stepOf i cell depth substitute f scope :: steps)
        ((stepOf i cell depth substitute f scope).plan.append fun _ => rest))
    (depth : Nat) (substitute : Bool) (document : Text) (scope : Scope) :
    Q scope (stepsOfNested i cell depth substitute document scope)
      (ofNested i cell depth substitute document scope) := by
  induction depth generalizing substitute document scope with
  | zero => exact done scope
  | succ depth ih =>
    rw [stepsOfNested, ofNested]
    generalize fragmentsOf i.settings document = fs
    induction fs generalizing scope with
    | nil => exact done scope
    | cons f fs ihfs => exact step depth substitute f scope _ _ (ih true) (ihfs _)

theorem eq_stepOf_of_mem {enter : Fragment → Bool} {depth : Nat} {substitute : Bool}
    {document : Text} {scope : Scope} {st : Step}
    (h : st ∈ Step.allWithin enter (stepsOfNested i cell depth substitute document scope)) :
    ∃ depth substitute, st = stepOf i cell depth substitute st.fragment st.scope := by
  revert st
  refine stepsOfNested_induction
    (Q := fun _ steps _ => ∀ {st : Step}, st ∈ Step.allWithin enter steps →
      ∃ depth substitute, st = stepOf i cell depth substitute st.fragment st.scope)
    (fun _ _ h => by simp [Step.allWithin] at h) ?_ depth substitute document scope
  intro depth substitute f scope steps rest hinner hsteps st h
  rw [Step.allWithin, List.mem_append, Step.within_eq, List.mem_cons] at h
  obtain (rfl | h) | h := h
  · exact ⟨depth, substitute, rfl⟩
  · split at h
    · cases hinside : f.inner? i scope with
      | none => simp [stepOf, hinside, Step.allWithin] at h
      | some inside =>
        simp only [stepOf, hinside, Option.elim] at h
        exact hinner _ _ h
    · cases h
  · exact hsteps h

theorem ofNested_eq_planOf (depth : Nat) (substitute : Bool) (document : Text) (scope : Scope) :
    ofNested i cell depth substitute document scope =
      Step.planOf scope (stepsOfNested i cell depth substitute document scope) := by
  refine stepsOfNested_induction (Q := fun scope steps plan => plan = Step.planOf scope steps)
    (fun _ => rfl) ?_ depth substitute document scope
  intro depth substitute f scope steps rest _ hrest
  rw [Step.planOf, hrest]
  rfl

end

end Plan

end EdgeInclude
