import EdgeInclude.Proofs.Assignment
import EdgeInclude.Proofs.Plan.Following

/-!
# What planning binds

The bindings that planning a document leaves in the innermost layer. Assignments bind the names
that they give, and the cases that are taken bind theirs. No other step binds a name, apart from
`MATCHES`, and none takes a binding away.

Results:
* `bound?_eq_some`: which steps bind a name, and that none binds one to null.
* `own_ofFragment`: what a fragment with all that is inside of it leaves.
* `own_ofNested`: each name is left with what the last step that binds it says, or as it was.
-/

namespace EdgeInclude

/-- No name is ever assigned null. -/
theorem Assignment.isNull_value (ctx : Context) (text : Text) :
    (Assignment.value ctx text).isNull = false := by
  rw [← Bool.not_eq_true, Value.isNull_iff]
  exact Assignment.value_ne_null ctx text

namespace Step

variable {i : Interpreter} {name : Text} {st : Step} {binding : Option Value} {value : Value}

/-! ## Steps that bind a name -/

/-- The value that a step binds a name to: that of an assignment to it, or that of the condition
    of a case which gives the name and is taken. -/
def bound? (i : Interpreter) (name : Text) (st : Step) : Option Value :=
  match st.fragment.directive? with
  | some (.assign (some target) text) =>
    if target = name then some (Assignment.value (i.context st.scope) text) else none
  | some (.when (some condition) (some target) _) =>
    if target = name ∧ st.isTaken i = true then
      some ((Condition.ofText condition).decide (i.context st.scope)).verdict.value
    else none
  | _ => none

/-- Only an assignment to a name and a case which gives it bind the name, and not to null. -/
theorem bound?_eq_some (h : st.bound? i name = some value) :
    value.isNull = false ∧
      ((∃ text, st.fragment.directive? = some (.assign (some name) text)) ∨
        st.isTaken i = true ∧
          ∃ test body, st.fragment.directive? = some (.when test (some name) body)) := by
  unfold bound? at h
  split at h
  · next target text hd =>
    rw [Option.ite_none_right_eq_some, Option.some.injEq] at h
    obtain ⟨rfl, rfl⟩ := h
    exact ⟨Assignment.isNull_value _ _, .inl ⟨text, hd⟩⟩
  · next condition target body hd =>
    rw [Option.ite_none_right_eq_some, Option.some.injEq] at h
    obtain ⟨⟨rfl, htaken⟩, rfl⟩ := h
    exact ⟨Verdict.isNull_value _, .inr ⟨htaken, some condition, body, hd⟩⟩
  · cases h

/-! ## What steps leave -/

/-- What a name is bound to after steps that follow one another, where `binding` is what it is
    bound to before them. -/
def boundAfter (i : Interpreter) (name : Text) (binding : Option Value) (steps : List Step) :
    Option Value :=
  steps.foldl (fun binding st => (st.bound? i name).or binding) binding

theorem boundAfter_cons (st : Step) (steps : List Step) :
    boundAfter i name binding (st :: steps) =
      boundAfter i name ((st.bound? i name).or binding) steps := rfl

theorem boundAfter_append (steps more : List Step) :
    boundAfter i name binding (steps ++ more) =
      boundAfter i name (boundAfter i name binding steps) more := List.foldl_append

/-- Steps leave a name bound as it was, or to what one of them binds it to. -/
theorem boundAfter_cases (i : Interpreter) (name : Text) (binding : Option Value)
    (steps : List Step) :
    boundAfter i name binding steps = binding ∨
      ∃ st ∈ steps, ∃ value, st.bound? i name = some value ∧
        boundAfter i name binding steps = some value := by
  induction steps generalizing binding with
  | nil => exact .inl rfl
  | cons st steps ih =>
    rw [boundAfter_cons]
    obtain hsame | ⟨later, hlater, value, hvalue, hbound⟩ := ih ((st.bound? i name).or binding)
    · rw [hsame]
      cases hst : st.bound? i name with
      | none => exact .inl rfl
      | some value => exact .inr ⟨st, List.mem_cons_self, value, hst, rfl⟩
    · exact .inr ⟨later, List.mem_cons_of_mem _ hlater, value, hvalue, hbound⟩

end Step

namespace Plan

variable {i : Interpreter} {cell : Cell} {substitute : Bool} {name : Text} {f : Fragment}
  {scope : Scope}

/-! ## Fragments -/

theorem own_bindMatch (hname : name ≠ matchesName) (matchName : Option Text) {value : Value}
    (hvalue : value.isNull = false) (scope : Scope) :
    (bindMatch matchName value scope).own name =
      if matchName = some name then some value else scope.own name := by
  cases matchName with
  | none => simp [bindMatch, Scope.own_insert, hname]
  | some target => simp [bindMatch, Scope.own_insert, hname, hvalue, eq_comm]

theorem own_ofAssign (target : Text) (text : Text) (scope : Scope) :
    (ofAssign i (some target) text scope).scope.own name =
      if target = name then some (Assignment.value (i.context scope) text)
      else scope.own name := by
  simp [ofAssign, nothing, Scope.own_insert, Assignment.isNull_value, eq_comm]

/-- A fragment with nothing inside of it that is planned binds a name as its step says. -/
theorem own_ofFragment_of_nothing_inside (depth : Nat) (h : f.inner? i scope = none) :
    let st := stepOf i cell depth substitute f scope
    st.plan.scope.own name = (st.bound? i name).or (scope.own name) := by
  intro st
  -- A case that is taken has its body inside of it, so this is none.
  have htaken : st.isTaken i = false := by
    rw [Step.isTaken, Step.isEntered, show st.fragment.inner? i st.scope = none from h]
    exact Bool.and_false _
  cases f with
  | text s => cases substitute <;> rfl
  | tag t =>
    simp only [Fragment.inner?, Fragment.directive?, Option.bind_some] at h
    have hd : st.fragment.directive? = some (Directive.ofTag t) := rfl
    show (ofDirective i cell _ (Directive.ofTag t) scope).scope.own name = _
    unfold Step.bound?
    rw [hd]
    generalize Directive.ofTag t = d at h
    cases d with
    | «include» src alt reprocess continueOnError =>
      simp only [ofDirective, ofInclude]
      split <;> rfl
    | when test matchName body =>
      obtain ⟨events, hplan⟩ := ofWhen_of_inner?_eq_none h
      rw [ofDirective, hplan, nothing]
      cases test <;> cases matchName <;> simp [htaken]
    | otherwise body =>
      rw [ofDirective_otherwise, h]
      rfl
    | assign target text =>
      cases target with
      | none => rfl
      | some target =>
        rw [ofDirective, own_ofAssign]
        show _ = (if target = name then _ else none : Option Value).or _
        split <;> rfl
    | tryBlock body | vars body | choose body => cases h
    | «show» _ | verbatim _ | nothing | unknown _ _ => rfl

/-- What is inside of a fragment is planned under what the step of the fragment binds. -/
theorem own_of_inner? (depth : Nat) (hname : name ≠ matchesName) {inside : Text × Scope}
    (h : f.inner? i scope = some inside) :
    inside.2.own name =
      ((stepOf i cell depth substitute f scope).bound? i name).or (scope.own name) := by
  cases f with
  | text s => cases h
  | tag t =>
    have hinner : (Directive.ofTag t).inner? i scope = some inside := h
    have hd : (stepOf i cell depth substitute (.tag t) scope).fragment.directive? =
        some (Directive.ofTag t) := rfl
    unfold Step.bound?
    rw [hd]
    cases hdirective : Directive.ofTag t with
    | tryBlock body | vars body =>
      rw [hdirective] at hinner
      obtain rfl := Option.some.inj hinner
      rfl
    | choose body =>
      rw [hdirective] at hinner
      obtain rfl := Option.some.inj hinner
      exact Layer.set_of_ne hname
    | when test matchName body =>
      have htaken : (stepOf i cell depth substitute (.tag t) scope).isTaken i = true := by
        simp [Step.isTaken, Fragment.isWhen, Step.isEntered, stepOf, h, Fragment.directive?,
          hdirective]
      rw [hdirective] at hinner
      obtain ⟨condition, rfl, rfl, -⟩ :=
        @ofWhen_of_inner?_eq_some i (ofNested i cell depth true) _ _ _ _ _ hinner
      rw [own_bindMatch hname _ (Verdict.isNull_value _)]
      cases matchName with
      | none => rfl
      | some target =>
        simp only [htaken, and_true, Option.some.injEq]
        split <;> rfl
    | otherwise body =>
      rw [hdirective, Directive.inner?] at hinner
      split at hinner
      · cases hinner
      · obtain rfl := Option.some.inj hinner
        rfl
    | «include» _ _ _ _ | «show» _ | assign _ _ | verbatim _ | nothing | unknown _ _ =>
      simp [hdirective, Directive.inner?] at hinner

/-- A fragment leaves a name as its own step and the steps inside of it do. -/
theorem own_ofFragment (depth : Nat) (hname : name ≠ matchesName)
    (hinside : ∀ body scope, (ofNested i cell depth true body scope).scope.own name =
      Step.boundAfter i name (scope.own name)
        (Step.all (stepsOfNested i cell depth true body scope))) :
    let st := stepOf i cell depth substitute f scope
    st.plan.scope.own name = Step.boundAfter i name (scope.own name) (st :: Step.all st.inner) := by
  intro st
  rw [Step.boundAfter_cons]
  cases h : f.inner? i scope with
  | none =>
    have hinner : st.inner = [] := by simp only [st, stepOf, h, Option.elim]
    rw [hinner, own_ofFragment_of_nothing_inside depth h]
    rfl
  | some inside =>
    have hinner : st.inner = stepsOfNested i cell depth true inside.1 inside.2 := by
      simp only [st, stepOf, h, Option.elim]
    have hown : (ofNested i cell depth true inside.1 inside.2).scope.own name =
        st.plan.scope.own name := (agreesExcept_ofFragment h).own_eq name hname
    rw [hinner, ← own_of_inner? depth hname h, ← hinside, hown]

/-! ## Documents -/

/-- Planning a document leaves each name, apart from `MATCHES`, bound to what the last step that
    binds it binds it to, or else as it was. -/
theorem own_ofNested (hname : name ≠ matchesName) (depth : Nat) (substitute : Bool)
    (document : Text) (scope : Scope) :
    (ofNested i cell depth substitute document scope).scope.own name =
      Step.boundAfter i name (scope.own name)
        (Step.all (stepsOfNested i cell depth substitute document scope)) := by
  refine stepsOfNested_induction
    (Q := fun scope steps plan =>
      plan.scope.own name = Step.boundAfter i name (scope.own name) (Step.all steps))
    (fun _ => rfl) ?_ depth substitute document scope
  intro depth substitute f scope steps rest hinside hrest
  rw [Step.all_cons, Step.boundAfter_append, ← own_ofFragment depth hname hinside]
  exact hrest

end Plan

end EdgeInclude
