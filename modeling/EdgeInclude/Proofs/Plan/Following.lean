import EdgeInclude.Proofs.Plan.Choice
import EdgeInclude.Proofs.Plan.Deferred
import Mathlib.Data.List.Induction

/-!
# What follows a step

The variables that a step of planning leaves are those that what follows it in the
document is planned under, no matter at which depth either of them is nested. Only the
binding of `MATCHES` is lost where a choice ends. And whatever a step leaves in the
queue of its level stays in it.

Results:
* `agreesExcept_allFollowed`: what follows a step sees the bindings that the step
  leaves.
* `allAwaited_subset`: what a step leaves in the queue is in the queue of its level.
* `ofBody_eq`: the parts of a block are the last of their kind.
-/

namespace EdgeInclude

/-! ## Scopes that agree -/

/-- Scopes that bind the same values, except that a name may be bound differently in the
    innermost layer. -/
structure Scope.AgreesExcept (name : Text) (s t : Scope) : Prop where
  outer_eq : s.outer = t.outer
  own_eq : ∀ other, other ≠ name → s.own other = t.own other

namespace Scope

variable {name : Text} {s t u : Scope}

theorem AgreesExcept.refl (s : Scope) : s.AgreesExcept name s := ⟨rfl, fun _ _ => rfl⟩

theorem AgreesExcept.trans (h : s.AgreesExcept name t) (h' : t.AgreesExcept name u) :
    s.AgreesExcept name u :=
  ⟨h.outer_eq.trans h'.outer_eq, fun other hne => (h.own_eq other hne).trans (h'.own_eq other hne)⟩

theorem agreesExcept_restoreOwn (s : Scope) (name : Text) (binding : Option Value) :
    s.AgreesExcept name (s.restoreOwn name binding) :=
  ⟨rfl, fun _ hne => (Layer.set_of_ne hne).symm⟩

end Scope

/-! ## Order of steps -/

namespace Step

/-- The variables under which the first of several steps is planned, or else the variables of
    what follows them. -/
def scopeAt (next : Scope) : List Step → Scope
  | [] => next
  | st :: _ => st.scope

mutual

/-- A step and all those inside of it, each with the variables of what follows it in the
    document; `next` are those of what follows the step itself. -/
def followed (next : Scope) : Step → List (Step × Scope)
  | ⟨f, scope, plan, inner⟩ => (⟨f, scope, plan, inner⟩, next) :: allFollowed next inner

/-- Steps and all those inside of them, each with the variables of what follows it. -/
def allFollowed (next : Scope) : List Step → List (Step × Scope)
  | [] => []
  | st :: sts => st.followed (scopeAt next sts) ++ allFollowed next sts

end

theorem followed_eq (next : Scope) (st : Step) :
    st.followed next = (st, next) :: allFollowed next st.inner := by
  cases st
  rw [followed]

mutual

theorem map_fst_followed (next : Scope) (st : Step) :
    (st.followed next).map Prod.fst = st :: all st.inner := by
  obtain ⟨f, scope, plan, inner⟩ := st
  rw [followed, List.map_cons, map_fst_allFollowed next inner]

/-- Every step has something that follows it. -/
theorem map_fst_allFollowed (next : Scope) (steps : List Step) :
    (allFollowed next steps).map Prod.fst = all steps := by
  match steps with
  | [] => rfl
  | st :: sts =>
    rw [allFollowed, List.map_append, map_fst_followed, map_fst_allFollowed next sts, all_cons]

end

theorem agreesExcept_scopeAt {name : Text} {s t : Scope} (h : s.AgreesExcept name t)
    (steps : List Step) : (scopeAt s steps).AgreesExcept name (scopeAt t steps) := by
  cases steps with
  | nil => exact h
  | cons st sts => exact .refl _

end Step

namespace Plan

variable {i : Interpreter} {cell : Cell} {nested : Text → Scope → Plan} {substitute : Bool}

/-- What is inside of a fragment ends with the bindings that the fragment leaves, except that
    a choice puts `MATCHES` back. -/
theorem agreesExcept_ofFragment {f : Fragment} {scope : Scope} {inside : Text × Scope}
    (h : f.inner? i scope = some inside) :
    (nested inside.1 inside.2).scope.AgreesExcept matchesName
      (ofFragment i cell nested substitute f scope).scope := by
  cases hchoose : f.isChoose with
  | false =>
    rw [(ofFragment_of_inner?_eq_some h hchoose).1]
    exact .refl _
  | true =>
    cases f with
    | text s => cases h
    | tag t =>
      simp only [Fragment.isChoose, Fragment.directive?] at hchoose
      split at hchoose
      · next body hd =>
        rw [Option.some.injEq] at hd
        simp only [Fragment.inner?, Fragment.directive?, Option.bind_some, hd, Directive.inner?,
          Option.some.injEq] at h
        subst h
        rw [ofFragment, hd]
        exact Scope.agreesExcept_restoreOwn _ _ _
      · cases hchoose

/-- What holds of the steps of a plan in their order: the first of them is planned under the
    variables of the whole, and what follows any of them, at whatever depth of nesting, sees the
    bindings that it leaves, except for `MATCHES`. -/
structure InOrder (scope : Scope) (steps : List Step) (plan : Plan) : Prop where
  first : Step.scopeAt plan.scope steps = scope
  seen : ∀ next, plan.scope.AgreesExcept matchesName next →
    ∀ followed ∈ Step.allFollowed next steps,
      followed.1.plan.scope.AgreesExcept matchesName followed.2

theorem inOrder_stepsOfNested (depth : Nat) (substitute : Bool) (document : Text)
    (scope : Scope) :
    InOrder scope (stepsOfNested i cell depth substitute document scope)
      (ofNested i cell depth substitute document scope) := by
  refine stepsOfNested_induction
    (fun _ => ⟨rfl, fun _ _ followed h => absurd h List.not_mem_nil⟩) ?_
    depth substitute document scope
  intro depth substitute f scope steps rest hinner hrest
  refine ⟨rfl, fun next hnext followed hfollowed => ?_⟩
  have hstep : (stepOf i cell depth substitute f scope).plan.scope.AgreesExcept matchesName
      (Step.scopeAt next steps) := hrest.first ▸ Step.agreesExcept_scopeAt hnext steps
  rw [Step.allFollowed, List.mem_append, Step.followed_eq, List.mem_cons] at hfollowed
  obtain (rfl | hinside) | hlater := hfollowed
  · exact hstep
  · -- What follows the last step inside of a fragment is what follows the fragment.
    cases hentered : f.inner? i scope with
    | none => simp [stepOf, hentered, Step.allFollowed] at hinside
    | some inside =>
      simp only [stepOf, hentered, Option.elim] at hinside
      exact (hinner _ _).seen _ ((agreesExcept_ofFragment hentered).trans hstep) _ hinside
  · exact hrest.seen next hnext _ hlater

/-- What follows a step sees the bindings that the step leaves, except for `MATCHES`. If
    nothing follows, the variables at the end of the level do. -/
theorem agreesExcept_allFollowed {depth : Nat} {substitute : Bool} {document : Text}
    {scope next : Scope} {st : Step}
    (h : (st, next) ∈ Step.allFollowed (ofNested i cell depth substitute document scope).scope
      (stepsOfNested i cell depth substitute document scope)) :
    st.plan.scope.AgreesExcept matchesName next :=
  (inOrder_stepsOfNested depth substitute document scope).seen _ (.refl _) _ h

end Plan

/-! ## Elements that stay -/

namespace Element

mutual

/-- An element whose text depends on requests, and those in its queue. -/
def awaited : Element → List Element
  | .text _ => []
  | .pending i cell => [.pending i cell]
  | .attempt queue except cell => .attempt queue except cell :: allAwaited queue

/-- The elements whose text depends on requests, also those inside of blocks. -/
def allAwaited : List Element → List Element
  | [] => []
  | e :: es => e.awaited ++ allAwaited es

end

theorem allAwaited_append (es fs : List Element) :
    allAwaited (es ++ fs) = allAwaited es ++ allAwaited fs := by
  induction es with
  | nil => rfl
  | cons e es ih => rw [List.cons_append, allAwaited, allAwaited, ih, List.append_assoc]

/-- Joining texts leaves nothing out. -/
theorem allAwaited_merge (es : List Element) : allAwaited (merge es) = allAwaited es := by
  induction es with
  | nil => rfl
  | cons e es ih =>
    cases e with
    | text s =>
      rw [allAwaited, awaited, List.nil_append, ← ih, merge]
      split
      · next rest hrest => rw [hrest, allAwaited, allAwaited]; rfl
      · split
        · rfl
        · rw [allAwaited, awaited, List.nil_append]
    | pending i cell => simp only [merge, allAwaited, ih]
    | attempt queue except cell => simp only [merge, allAwaited, ih]

end Element

namespace Plan

variable {i : Interpreter} {cell : Cell} {nested : Text → Scope → Plan} {substitute : Bool}

theorem allAwaited_ofFragment {f : Fragment} {scope : Scope} {inside : Text × Scope}
    (h : f.inner? i scope = some inside) :
    Element.allAwaited (nested inside.1 inside.2).elements ⊆
      Element.allAwaited (ofFragment i cell nested substitute f scope).elements := by
  cases f with
  | text s => cases h
  | tag t =>
    simp only [Fragment.inner?, Fragment.directive?, Option.bind_some] at h
    show _ ⊆ Element.allAwaited (ofDirective i cell nested (Directive.ofTag t) scope).elements
    cases hd : Directive.ofTag t with
    | tryBlock body =>
      rw [hd] at h
      obtain rfl := Option.some.inj h
      simp only [ofDirective, ofTry, queue, Element.allAwaited, Element.awaited,
        Element.allAwaited_merge, List.append_nil]
      exact List.subset_cons_self _ _
    | vars body | choose body =>
      rw [hd] at h
      obtain rfl := Option.some.inj h
      exact List.Subset.refl _
    | when test matchName body =>
      rw [hd] at h
      obtain ⟨condition, -, -, hplan⟩ := ofWhen_of_inner?_eq_some h
      rw [ofDirective, hplan]
      exact List.Subset.refl _
    | otherwise body =>
      rw [hd] at h
      rw [ofDirective_otherwise, h]
      exact List.Subset.refl _
    | «include» _ _ _ _ | «show» _ | assign _ _ | verbatim _ | nothing | unknown _ _ =>
      simp [hd, Directive.inner?] at h

/-- What a step leaves in the queue of its level stays in it. -/
theorem allAwaited_subset (depth : Nat) (substitute : Bool) (document : Text) (scope : Scope) :
    ∀ st ∈ Step.all (stepsOfNested i cell depth substitute document scope),
      Element.allAwaited st.plan.elements ⊆
        Element.allAwaited (ofNested i cell depth substitute document scope).elements := by
  refine stepsOfNested_induction
    (Q := fun _ steps plan => ∀ st ∈ Step.all steps,
      Element.allAwaited st.plan.elements ⊆ Element.allAwaited plan.elements)
    (fun _ st hst => absurd hst List.not_mem_nil) ?_ depth substitute document scope
  intro depth substitute f scope steps rest hinner hrest st hst
  show _ ⊆ Element.allAwaited (_ ++ _)
  rw [Element.allAwaited_append]
  rw [Step.all_cons, List.mem_append, List.mem_cons] at hst
  obtain (rfl | hst) | hst := hst
  · exact List.subset_append_left _ _
  · refine List.Subset.trans ?_ (List.subset_append_left _ _)
    cases hinside : f.inner? i scope with
    | none => simp [stepOf, hinside, Step.all, Step.allWithin] at hst
    | some inside =>
      simp only [stepOf, hinside, Option.elim] at hst
      exact List.Subset.trans (hinner _ _ st hst) (allAwaited_ofFragment hinside)
  · exact List.Subset.trans (hrest st hst) (List.subset_append_right _ _)

end Plan

/-! ## Parts of blocks -/

namespace TryParts

/-- The body of the last tag of a name. A tag that closes itself has an empty one. -/
def last? (name : Text) (tags : List Tag) : Option Text :=
  (tags.reverse.find? fun t => t.name.map Char.toLower = name).map (·.body.getD [])

theorem last?_append_singleton (name : Text) (tags : List Tag) (t : Tag) :
    last? name (tags ++ [t]) =
      if t.name.map Char.toLower = name then some (t.body.getD []) else last? name tags := by
  rw [last?, List.reverse_append, List.reverse_singleton, List.singleton_append, List.find?_cons]
  split <;> simp_all [last?]

/-- A block consists of the last tags of either kind. Without one that is attempted, an empty
    document is. -/
theorem ofBody_eq (ns body : Text) :
    let tags := (Markup.scan ns body).tags.map Prod.fst
    ofBody ns body =
      ⟨(last? "attempt".toList tags).getD [], last? "except".toList tags⟩ := by
  intro tags
  show tags.foldl add ⟨[], none⟩ = _
  generalize tags = tags
  induction tags using List.reverseRecOn with
  | nil => rfl
  | append_singleton tags t ih =>
    rw [List.foldl_append, ih, List.foldl_cons, List.foldl_nil, add, last?_append_singleton,
      last?_append_singleton]
    dsimp only
    by_cases hattempt : t.name.map Char.toLower = "attempt".toList
    · have hexcept : t.name.map Char.toLower ≠ "except".toList := by
        rw [hattempt]
        decide
      rw [if_pos hattempt, if_pos hattempt, if_neg hexcept]
      rfl
    · rw [if_neg hattempt, if_neg hattempt]
      split <;> rfl

end TryParts

/-- A block leaves one element, which holds what the last tags of either kind say. All else
    that it leaves is what the document that is attempted leaves. -/
theorem Plan.ofDirective_tryBlock (i : Interpreter) (cell : Cell) (nested : Text → Scope → Plan)
    (body : Text) (scope : Scope) :
    let tags := (Markup.scan i.settings.ns body).tags.map Prod.fst
    let planned := nested ((TryParts.last? "attempt".toList tags).getD []) scope
    ofDirective i cell nested (.tryBlock body) scope =
      ⟨[.attempt planned.queue (TryParts.last? "except".toList tags) cell], planned.scope,
        planned.events⟩ := by
  rw [ofDirective, ofTry, TryParts.ofBody_eq]

end EdgeInclude
