import EdgeInclude.Proofs.Plan.Step

/-!
# Choices

The cases of a choice. Whether one has been taken is kept in the binding of
`MATCHES` in the innermost layer, which every directive of the block can see, and
which user-made bindings can touch too.

Results:
* `keepsFlag_block`: while a block is planned, `MATCHES` is bound exactly if it was
  bound at its beginning or a case has been taken before.
* `choose_exclusive`: a choice leaves `MATCHES` as it was, and takes the first
  case whose condition holds.
-/

namespace EdgeInclude

/-- Whether a fragment is a choice. -/
def Fragment.isChoose (f : Fragment) : Bool :=
  match f.directive? with
  | some (.choose _) => true
  | _ => false

/-- Whether a fragment is a case with a condition. -/
def Fragment.isWhen (f : Fragment) : Bool :=
  match f.directive? with
  | some (.when _ _ _) => true
  | _ => false

/-- Whether a fragment assigns `MATCHES`. -/
def Fragment.AssignsMatches (f : Fragment) : Prop :=
  ∃ value, f.directive? = some (.assign (some Plan.matchesName) value)

theorem Verdict.isNull_value (v : Verdict) : v.value.isNull = false := by
  cases v <;> rfl

namespace Step

/-- The steps of a block. Those inside of a choice in it are not steps of the block. -/
def block (steps : List Step) : List Step := allWithin (fun f => !f.isChoose) steps

/-- Whether the document inside of the fragment is planned. -/
def isEntered (i : Interpreter) (st : Step) : Bool := (st.fragment.inner? i st.scope).isSome

theorem isEntered_eq {i : Interpreter} {st : Step} {d : Directive}
    (h : st.fragment.directive? = some d) :
    st.isEntered i = (d.inner? i st.scope).isSome := by
  rw [isEntered, Fragment.inner?, h, Option.bind_some]

/-- Whether a case with a condition is taken. -/
def isTaken (i : Interpreter) (st : Step) : Bool := st.fragment.isWhen && st.isEntered i

/-- Whether there is a case whose condition holds under the variables of the step. -/
def holds (i : Interpreter) (st : Step) : Bool :=
  st.fragment.directive?.any (Directive.holds i st.scope)

/-- Whether `MATCHES` is bound under each of the steps exactly if it was bound before them or
    a case has been taken before. -/
def Flagged (i : Interpreter) : Bool → List Step → Prop
  | _, [] => True
  | flag, st :: sts =>
    st.scope.hasOwn Plan.matchesName = flag ∧ Flagged i (flag || st.isTaken i) sts

variable {i : Interpreter}

theorem flagged_append {flag : Bool} {steps rest : List Step} :
    Flagged i flag (steps ++ rest) ↔
      Flagged i flag steps ∧ Flagged i (flag || steps.any (isTaken i)) rest := by
  induction steps generalizing flag with
  | nil => simp [Flagged]
  | cons st sts ih => simp [Flagged, ih, and_assoc, Bool.or_assoc]

theorem Flagged.hasOwn_eq {flag : Bool} {before after : List Step} {st : Step}
    (h : Flagged i flag (before ++ st :: after)) :
    st.scope.hasOwn Plan.matchesName = (flag || before.any (isTaken i)) :=
  (flagged_append.1 h).2.1

theorem block_cons (st : Step) (steps : List Step) :
    block (st :: steps) =
      st :: (if st.fragment.isChoose then [] else block st.inner) ++ block steps := by
  rw [block, allWithin, within_eq]
  cases st.fragment.isChoose <;> rfl

end Step

namespace Plan

variable {i : Interpreter} {cell : Cell} {nested : Text → Scope → Plan} {substitute : Bool}

/-! ## What a fragment does to the flag -/

theorem hasOwn_bindMatch (matchName : Option Text) (verdict : Verdict) (scope : Scope) :
    (bindMatch matchName verdict.value scope).hasOwn matchesName = true := by
  simp [bindMatch, Scope.hasOwn, Scope.own_insert, Verdict.isNull_value]

theorem own_ofFragment_of_inner?_eq_none {f : Fragment} {scope : Scope}
    (h : f.inner? i scope = none) (hassign : ¬f.AssignsMatches) :
    (ofFragment i cell nested substitute f scope).scope.own matchesName =
      scope.own matchesName := by
  cases f with
  | text s => cases substitute <;> rfl
  | tag t =>
    simp only [Fragment.inner?, Fragment.directive?, Option.bind_some, Fragment.AssignsMatches,
      Option.some.injEq, not_exists] at h hassign
    show (ofDirective i cell nested (Directive.ofTag t) scope).scope.own matchesName = _
    cases hd : Directive.ofTag t with
    | «include» src alt reprocess continueOnError =>
      simp only [ofDirective, ofInclude]
      split <;> rfl
    | when test matchName body =>
      rw [hd] at h
      obtain ⟨events, hplan⟩ := ofWhen_of_inner?_eq_none h
      rw [ofDirective, hplan, nothing]
    | otherwise body =>
      rw [hd] at h
      rw [ofDirective_otherwise, h]
      rfl
    | assign name value =>
      cases name with
      | none => rfl
      | some name =>
        have hname : matchesName ≠ name := by
          rintro rfl
          exact hassign value hd
        simp [ofDirective, ofAssign, nothing, Scope.own_insert, hname]
    | tryBlock body | vars body | choose body => simp [hd, Directive.inner?] at h
    | «show» _ | verbatim _ | nothing | unknown _ _ => rfl

theorem own_ofChoose (body : Text) (scope : Scope) :
    (ofChoose nested body scope).scope.own matchesName = scope.own matchesName := by
  simp [ofChoose, Scope.restoreOwn]

/-- What is inside of a fragment, other than a choice, begins where the fragment leaves off,
    with the flag set if the fragment is a case. -/
theorem ofFragment_of_inner?_eq_some {f : Fragment} {scope : Scope} {inside : Text × Scope}
    (h : f.inner? i scope = some inside) (hchoose : f.isChoose = false) :
    (ofFragment i cell nested substitute f scope).scope = (nested inside.1 inside.2).scope ∧
      inside.2.hasOwn matchesName = (scope.hasOwn matchesName || f.isWhen) := by
  cases f with
  | text s => cases h
  | tag t =>
    simp only [Fragment.inner?, Fragment.isChoose, Fragment.isWhen, Fragment.directive?,
      Option.bind_some] at h hchoose ⊢
    show (ofDirective i cell nested (Directive.ofTag t) scope).scope = _ ∧ _
    cases hd : Directive.ofTag t with
    | tryBlock body | vars body =>
      rw [hd] at h
      obtain rfl := Option.some.inj h
      exact ⟨rfl, (Bool.or_false _).symm⟩
    | choose body => simp [hd] at hchoose
    | when test matchName body =>
      rw [hd] at h
      obtain ⟨condition, -, rfl, hplan⟩ := ofWhen_of_inner?_eq_some h
      rw [ofDirective, hplan, hasOwn_bindMatch, Bool.or_true]
      exact ⟨rfl, rfl⟩
    | otherwise body =>
      rw [hd] at h
      rw [ofDirective_otherwise, h]
      obtain rfl : (body, scope) = inside := by
        rw [Directive.inner?] at h
        split at h
        · cases h
        · exact Option.some.inj h
      exact ⟨rfl, (Bool.or_false _).symm⟩
    | «include» _ _ _ _ | «show» _ | assign _ _ | verbatim _ | nothing | unknown _ _ =>
      simp [hd, Directive.inner?] at h

theorem hasOwn_ofFragment_of_isChoose {f : Fragment} {scope : Scope}
    (h : f.isChoose = true) :
    (ofFragment i cell nested substitute f scope).scope.hasOwn matchesName =
      scope.hasOwn matchesName := by
  cases f with
  | text s => cases h
  | tag t =>
    show (ofDirective i cell nested (Directive.ofTag t) scope).scope.hasOwn matchesName = _
    simp only [Fragment.isChoose, Fragment.directive?] at h
    split at h
    · next body hd =>
      rw [Option.some.inj hd]
      exact congrArg Option.isSome (own_ofChoose body scope)
    · cases h

theorem isWhen_eq_false_of_isChoose {f : Fragment} (h : f.isChoose = true) : f.isWhen = false := by
  unfold Fragment.isChoose at h
  unfold Fragment.isWhen
  split at h
  · next hd => rw [hd]
  · cases h

/-! ## Blocks -/

/-- What `MATCHES` has to do with the cases of a block that are taken: it is bound under each
    step of the block exactly if it was bound at the beginning or a case has been taken
    before, and so it is afterwards. -/
def KeepsFlag (i : Interpreter) (scope : Scope) (block : List Step) (plan : Plan) : Prop :=
  Step.Flagged i (scope.hasOwn matchesName) block ∧
    plan.scope.hasOwn matchesName = (scope.hasOwn matchesName || block.any (Step.isTaken i))

theorem KeepsFlag.append {scope : Scope} {block blocks : List Step} {plan rest : Plan}
    (h : KeepsFlag i scope block plan) (hrest : KeepsFlag i plan.scope blocks rest) :
    KeepsFlag i scope (block ++ blocks) (plan.append fun _ => rest) := by
  obtain ⟨hflag, hscope⟩ := h
  obtain ⟨hflags, hscopes⟩ := hrest
  rw [hscope] at hflags hscopes
  refine ⟨Step.flagged_append.2 ⟨hflag, hflags⟩, ?_⟩
  rw [List.any_append, ← Bool.or_assoc, ← hscopes]
  rfl

theorem keepsFlag_stepOf {depth : Nat} {f : Fragment} {scope : Scope}
    (hinner : ∀ inside ∈ f.inner? i scope, f.isChoose = false →
      KeepsFlag i inside.2 (Step.block (stepsOfNested i cell depth true inside.1 inside.2))
        (ofNested i cell depth true inside.1 inside.2))
    (hassign : ¬f.AssignsMatches) :
    KeepsFlag i scope
      (stepOf i cell depth substitute f scope ::
        if f.isChoose then [] else Step.block (stepOf i cell depth substitute f scope).inner)
      (stepOf i cell depth substitute f scope).plan := by
  cases hchoose : f.isChoose with
  | true =>
    -- A choice in the block puts the flag back, and nothing inside of it counts.
    have htaken : (stepOf i cell depth substitute f scope).isTaken i = false := by
      simp [Step.isTaken, stepOf, isWhen_eq_false_of_isChoose hchoose]
    refine ⟨⟨rfl, trivial⟩, ?_⟩
    rw [if_pos rfl, List.any_cons, htaken, Bool.false_or, List.any_nil, Bool.or_false]
    exact hasOwn_ofFragment_of_isChoose hchoose
  | false =>
    cases hinside : f.inner? i scope with
    | none =>
      -- Nothing inside is planned, so no case is taken.
      have htaken : (stepOf i cell depth substitute f scope).isTaken i = false := by
        simp [Step.isTaken, Step.isEntered, stepOf, hinside]
      have hnil : (stepOf i cell depth substitute f scope).inner = [] := by
        simp only [stepOf, hinside, Option.elim]
      refine ⟨⟨rfl, ?_⟩, ?_⟩
      · rw [hnil]
        trivial
      · rw [hnil, if_neg Bool.false_ne_true, List.any_cons, htaken, Bool.false_or]
        exact (congrArg Option.isSome (own_ofFragment_of_inner?_eq_none hinside hassign)).trans
          (Bool.or_false _).symm
    | some inside =>
      -- A case that is taken sets the flag before what is inside of it is planned.
      have htaken : (stepOf i cell depth substitute f scope).isTaken i = f.isWhen := by
        simp [Step.isTaken, Step.isEntered, stepOf, hinside]
      have hsteps : (stepOf i cell depth substitute f scope).inner =
          stepsOfNested i cell depth true inside.1 inside.2 := by
        simp only [stepOf, hinside, Option.elim]
      obtain ⟨hplan, hflag⟩ : (stepOf i cell depth substitute f scope).plan.scope = _ ∧ _ :=
        ofFragment_of_inner?_eq_some hinside hchoose
      obtain ⟨hflags, hscope⟩ := hinner inside hinside hchoose
      rw [hflag] at hflags hscope
      refine ⟨⟨rfl, ?_⟩, ?_⟩
      · rw [htaken, hsteps]
        exact hflags
      · rw [hsteps, if_neg Bool.false_ne_true, List.any_cons, htaken, ← Bool.or_assoc,
          hplan, hscope]

theorem keepsFlag_block (depth : Nat) (substitute : Bool) (document : Text) (scope : Scope)
    (hassign : ∀ st ∈ Step.block (stepsOfNested i cell depth substitute document scope),
      ¬st.fragment.AssignsMatches) :
    KeepsFlag i scope (Step.block (stepsOfNested i cell depth substitute document scope))
      (ofNested i cell depth substitute document scope) := by
  revert hassign
  refine stepsOfNested_induction
    (Q := fun scope steps plan => (∀ st ∈ Step.block steps, ¬st.fragment.AssignsMatches) →
      KeepsFlag i scope (Step.block steps) plan)
    (fun scope _ => ⟨trivial, (Bool.or_false _).symm⟩) ?_ depth substitute document scope
  intro depth substitute f scope steps rest hinner hrest hassign
  rw [Step.block_cons] at hassign ⊢
  refine KeepsFlag.append (keepsFlag_stepOf ?_ ?_) (hrest ?_)
  · intro inside hinside hchoose
    apply hinner
    intro st hst
    apply hassign st
    simp [stepOf, Option.mem_def.1 hinside, hchoose, hst]
  · exact hassign _ (List.mem_append_left _ List.mem_cons_self)
  · intro st hst
    exact hassign st (List.mem_append_right _ hst)

/-! ## The case that is taken -/

theorem isTaken_eq (st : Step) :
    st.isTaken i = (!st.scope.hasOwn matchesName && st.holds i) := by
  obtain ⟨f, scope, plan, inner⟩ := st
  cases f with
  | text s => simp [Step.isTaken, Step.holds, Fragment.isWhen, Fragment.directive?]
  | tag t =>
    simp only [Step.isTaken, Step.isEntered, Step.holds, Fragment.isWhen, Fragment.inner?,
      Fragment.directive?, Option.bind_some, Option.any_some]
    cases hd : Directive.ofTag t with
    | when test matchName body =>
      cases test with
      | none => simp [Directive.inner?, Directive.holds]
      | some test =>
        simp only [Directive.inner?, Directive.holds, Option.bind_some, Bool.true_and]
        cases scope.hasOwn matchesName <;>
          cases ((Condition.ofText test).decide (i.context scope)).verdict.holds <;> rfl
    | _ => simp [Directive.holds]

/-- As long as the flag is kept, a case has been taken exactly if the condition of one held. -/
theorem any_isTaken_eq {flag : Bool} {steps : List Step} (h : Step.Flagged i flag steps) :
    (flag || steps.any (Step.isTaken i)) = (flag || steps.any (Step.holds i)) := by
  induction steps generalizing flag with
  | nil => rfl
  | cons st sts ih =>
    obtain ⟨hown, hrest⟩ := h
    have htaken : (flag || st.isTaken i) = (flag || st.holds i) := by
      rw [isTaken_eq, hown]
      cases flag <;> rfl
    rw [List.any_cons, List.any_cons, ← Bool.or_assoc, ih hrest, htaken, Bool.or_assoc]

theorem ofDirective_when_of_hasOwn {test matchName : Option Text} {body : Text} {scope : Scope}
    (h : scope.hasOwn matchesName = true) :
    ofDirective i cell nested (.when test matchName body) scope = nothing scope [] := by
  simp only [ofDirective, ofWhen, h, if_true]

/-- The case that is taken is the first whose condition holds. -/
theorem isTaken_iff_first {before rest : List Step} {st : Step}
    (h : Step.Flagged i false (before ++ st :: rest)) :
    st.isTaken i = true ↔ st.holds i = true ∧ ∀ w ∈ before, w.holds i = false := by
  have hbefore := any_isTaken_eq (Step.flagged_append.1 h).1
  rw [Bool.false_or, Bool.false_or] at hbefore
  rw [isTaken_eq, h.hasOwn_eq, Bool.false_or, hbefore]
  simp [and_comm]

/-- For every choice and all variables: the choice leaves the binding of `MATCHES` in the
    innermost layer as it was. Moreover, if no assignment to `MATCHES` is planned for its
    block, then of the cases with a condition exactly the first one whose condition holds
    under the variables at its place is taken, that is, has its body planned. A later one
    plans nothing and leaves nothing in the log, whatever its condition is, and the case
    that applies otherwise is processed exactly if none was taken before it. -/
theorem choose_exclusive (i : Interpreter) (cell : Cell) (depth : Nat) (body : Text)
    (scope : Scope) :
    let block := Step.block (stepsOfNested i cell depth true body (scope.removeOwn matchesName))
    (ofDirective i cell (ofNested i cell depth true) (.choose body) scope).scope.own matchesName =
        scope.own matchesName ∧
      ((∀ st ∈ block, ¬st.fragment.AssignsMatches) →
        ∀ before st rest, block = before ++ st :: rest →
          (∀ test name inside, st.fragment.directive? = some (.when test name inside) →
            (st.isTaken i = true ↔ st.holds i = true ∧ ∀ w ∈ before, w.holds i = false) ∧
            (st.isTaken i = true → ∃ depth condition, test = some condition ∧
              let found := (Condition.ofText condition).decide (i.context st.scope)
              st.plan = .after found.events
                (ofNested i cell depth true inside
                  (bindMatch name found.verdict.value st.scope))) ∧
            (st.isTaken i = false → ∃ events, st.plan = nothing st.scope events) ∧
            ((∃ w ∈ before, w.isTaken i = true) → st.plan = nothing st.scope [] ∧
              ∀ nested test name inside,
                ofDirective i cell nested (.when test name inside) st.scope =
                  nothing st.scope [])) ∧
          (∀ inside, st.fragment.directive? = some (.otherwise inside) →
            (st.isEntered i = true ↔ ∀ w ∈ before, w.isTaken i = false) ∧
            ∃ depth, st.plan =
              if st.isEntered i then ofNested i cell depth true inside st.scope
              else nothing st.scope [])) := by
  intro block
  refine ⟨own_ofChoose body scope, fun hassign before st rest hblock => ?_⟩
  have hflagged : Step.Flagged i false (before ++ st :: rest) := by
    have hown : (scope.removeOwn matchesName).hasOwn matchesName = false := by
      simp [Scope.hasOwn, Scope.removeOwn]
    rw [← hblock, ← hown]
    exact (keepsFlag_block depth true body _ hassign).1
  have hown : st.scope.hasOwn matchesName = before.any (Step.isTaken i) := by
    rw [hflagged.hasOwn_eq, Bool.false_or]
  have hmem : st ∈ block := by
    rw [hblock]
    exact List.mem_append_right _ List.mem_cons_self
  obtain ⟨d, substitute, hst⟩ := eq_stepOf_of_mem hmem
  have hplan : ∀ directive, st.fragment.directive? = some directive →
      st.plan = ofDirective i cell (ofNested i cell d true) directive st.scope := by
    intro directive hd
    rw [hst]
    cases hf : st.fragment with
    | text s => simp [hf, Fragment.directive?] at hd
    | tag t =>
      rw [hf, Fragment.directive?, Option.some.injEq] at hd
      rw [← hd]
      rfl
  refine ⟨fun test name inside hd => ?_, fun inside hd => ⟨?_, d, ?_⟩⟩
  · have htaken : st.isTaken i = ((Directive.when test name inside).inner? i st.scope).isSome := by
      simp only [Step.isTaken, Fragment.isWhen, hd, Step.isEntered_eq hd, Bool.true_and]
    refine ⟨isTaken_iff_first hflagged, fun h => ?_, fun h => ?_, ?_⟩
    · rw [hplan _ hd]
      obtain ⟨inside, hinside⟩ := Option.isSome_iff_exists.1 (htaken ▸ h)
      obtain ⟨condition, htest, rfl, hwhen⟩ := ofWhen_of_inner?_eq_some hinside
      exact ⟨d, condition, htest, hwhen⟩
    · rw [hplan _ hd]
      exact ofWhen_of_inner?_eq_none (Option.not_isSome_iff_eq_none.1 (by simp [← htaken, h]))
    · rintro ⟨w, hw, hwtaken⟩
      have hset : st.scope.hasOwn matchesName = true := by
        rw [hown, List.any_eq_true]
        exact ⟨w, hw, hwtaken⟩
      refine ⟨?_, fun nested test name inside => ofDirective_when_of_hasOwn hset⟩
      rw [hplan _ hd, ofDirective_when_of_hasOwn hset]
  · have hnone : (∀ w ∈ before, w.isTaken i = false) ↔ st.scope.hasOwn matchesName = false := by
      rw [hown, List.any_eq_false]
      simp only [Bool.not_eq_true]
    rw [Step.isEntered_eq hd, hnone]
    cases hset : st.scope.hasOwn matchesName <;> simp [Directive.inner?, hset]
  · rw [hplan _ hd, Step.isEntered_eq hd]
    simp only [ofDirective, Directive.inner?]
    split <;> rfl

end Plan

end EdgeInclude
