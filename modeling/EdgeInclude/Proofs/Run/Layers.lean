import EdgeInclude.Proofs.Plan.Binding
import EdgeInclude.Proofs.Run.Caller

/-!
# Layers of variables

What is written where. Processing a document writes to the innermost layer of the variables
that it is given, and nothing but what its assignments and its cases bind. A context that is
grown from another one has a layer of its own over the layers of the other as they were then,
so contexts can be grown from each other and used in any order without one of them noticing
another. What the variables are when a fault breaks the run off is not known; see `Outcome.exit`.

Results:
* `own_of_interpret?`: what processing a document binds, and that it takes no binding away.
* `isolated_run`: what contexts that are grown from each other answer after any operations on
  them.
-/

namespace EdgeInclude

/-! ## What processing a document binds -/

namespace Processor

/-- Whatever processing a document comes to, the layers around the innermost one are as they
    were before, and the innermost one still binds all that it did, apart from `MATCHES`. Where
    it binds a name otherwise than before, it is to a value that is not null, and to which a
    step of planning binds that name: an assignment to it, or a case that is taken and
    gives it. -/
theorem own_of_interpret? {p : Processor} {limit : Nat} {substitute : Bool} {document : Text}
    {scope : Scope} {o : Outcome}
    (h : p.interpret? limit substitute document scope = some o) :
    let i := p.toInterpreter
    let steps := Step.all
      (Plan.stepsOfDocument i Store.empty.nextCell substitute document scope)
    o.scope.outer = scope.outer ∧
      ∀ name, name ≠ Plan.matchesName →
        (scope.hasOwn name = true → o.scope.hasOwn name = true) ∧
        (o.scope.own name ≠ scope.own name →
          ∃ value, o.scope.own name = some value ∧ value.isNull = false ∧
            ∃ st ∈ steps, st.bound? i name = some value ∧
              ((∃ text, st.fragment.directive? = some (.assign (some name) text)) ∨
                st.isTaken i = true ∧
                  ∃ test body, st.fragment.directive? = some (.when test (some name) body))) := by
  intro i steps
  rw [scope_of_interpret? h]
  refine ⟨Plan.outer_ofNested _ _ _ _, fun name hname => ?_⟩
  -- The steps leave the name as it was, or as one of them binds it.
  have hown : (Pass.ofDocument i .empty substitute document scope).plan.scope.own name =
      Step.boundAfter i name (scope.own name) steps := Plan.own_ofNested hname _ _ _ _
  rw [Scope.hasOwn, Scope.hasOwn, hown]
  obtain hsame | ⟨st, hst, value, hvalue, hbound⟩ :=
    Step.boundAfter_cases i name (scope.own name) steps
  · rw [hsame]
    exact ⟨id, absurd rfl⟩
  · rw [hbound]
    obtain ⟨hnull, hdirective⟩ := Step.bound?_eq_some hvalue
    exact ⟨fun _ => rfl, fun _ => ⟨value, rfl, hnull, st, hst, hvalue, hdirective⟩⟩

/-- A document that cannot be assembled leaves what its assignments and its cases bind, and what
    was bound before. -/
theorem own_of_interpret?_of_failure :
    let p : Processor := ⟨⟨{}, .empty⟩, .ofTable []⟩
    let document := "<esi:assign name=\"x\" value=\"1\"/><esi:choose>".toList ++
      "<esi:when test=\"1==1\" matchname=\"y\"><esi:include src=\"/a\"/></esi:when>".toList ++
      "</esi:choose>".toList
    let scope := Scope.empty.insert ['z'] (.boolean true)
    let steps := Step.all
      (Plan.stepsOfDocument p.toInterpreter Store.empty.nextCell true document scope)
    ∃ o, p.interpret? 3 true document scope = some o ∧
      o.result = .error (.unresolvedInclude "/a".toList (.unexpectedStatus "/a".toList 404)) ∧
      o.scope.hasOwn ['z'] = true ∧
      (∃ st ∈ steps, st.bound? p.toInterpreter ['x'] = o.scope.own ['x']) ∧
      ∃ st ∈ steps, st.bound? p.toInterpreter ['y'] = o.scope.own ['y'] := by
  intro p document scope steps
  have hrun : (p.interpret? 3 true document scope).map (fun o =>
      (o.result, o.scope.hasOwn ['x'], o.scope.hasOwn ['y'])) = some
        (.error (.unresolvedInclude "/a".toList (.unexpectedStatus "/a".toList 404)), true, true) := by
    have hinstant : instant p = p := rfl
    rw [← hinstant, interpret?_instant]
    decide +kernel
  obtain ⟨o, ho, hfound⟩ := Option.map_eq_some_iff.1 hrun
  obtain ⟨hresult, hx, hy⟩ : _ ∧ _ ∧ _ := by simpa only [Prod.mk.injEq] using hfound
  obtain ⟨-, hown⟩ := own_of_interpret? ho
  have hbound : ∀ name, name ≠ Plan.matchesName → scope.own name = none →
      o.scope.hasOwn name = true →
      ∃ st ∈ steps, st.bound? p.toInterpreter name = o.scope.own name := by
    intro name hname hbefore hafter
    have hchanged : o.scope.own name ≠ scope.own name := by
      rw [hbefore]
      exact Option.isSome_iff_ne_none.1 hafter
    obtain ⟨value, hvalue, -, st, hst, hbound, -⟩ := (hown name hname).2 hchanged
    exact ⟨st, hst, hbound.trans hvalue.symm⟩
  exact ⟨o, ho, hresult, (hown ['z'] (by decide)).1 rfl, hbound ['x'] (by decide) rfl hx,
    hbound ['y'] (by decide) rfl hy⟩

end Processor

/-! ## Contexts that are grown from each other -/

namespace Scope

/-- A lookup finds the binding of the innermost layer if there is one, or else what the layers
    around it say. -/
theorem get?_eq_or (s : Scope) (name : Text) :
    s.get? name = (s.own name).or (s.outer.findSome? fun layer => layer name) := by
  rw [get?, List.findSome?_cons]
  cases s.own name <;> rfl

end Scope

/-- An operation on one of several contexts, which are numbered in the order in which they came
    about. -/
inductive Operation where
  | insert (k : Nat) (name : Text) (value : Value)
  /-- Grows another context from one of them. -/
  | child (k : Nat)
  /-- Processes a document under one of them, whatever comes of it. -/
  | interpret (k : Nat) (p : Processor) (substitute : Bool) (document : Text)

namespace Operation

/-- The contexts after an operation. Processing a document is done with the variables of its
    caller once the document is planned. On a context that there is not, nothing is done. -/
def apply (contexts : List Scope) : Operation → List Scope
  | insert k name value => contexts.modify k (·.insert name value)
  | child k => contexts ++ (contexts[k]?.map Scope.child).toList
  | interpret k p substitute document =>
    contexts.modify k fun scope =>
      (Pass.ofDocument p.toInterpreter .empty substitute document scope).plan.scope

/-- The contexts after operations that follow one another. -/
def run (contexts : List Scope) (operations : List Operation) : List Scope :=
  operations.foldl apply contexts

/-- The context that an operation writes to. Growing another context writes to none. -/
def written? : Operation → Option Nat
  | insert k _ _ => some k
  | child _ => none
  | interpret k _ _ _ => some k

variable {contexts : List Scope} {n : Nat} {s : Scope}

/-- What is written to the innermost layer of one context changes no other context, and no other
    layer. -/
theorem getElem?_modify_own {write : Scope → Scope} (hwrite : ∀ s, (write s).outer = s.outer)
    (k : Nat) (h : contexts[n]? = some s) :
    ∃ s', (contexts.modify k write)[n]? = some s' ∧ s'.outer = s.outer ∧
      (some k ≠ some n → s' = s) := by
  rw [List.getElem?_modify, h, Option.map_eq_map, Option.map_some]
  by_cases hk : k = n
  · exact ⟨write s, by rw [if_pos hk], hwrite s, fun hne => absurd (congrArg some hk) hne⟩
  · exact ⟨s, by rw [if_neg hk], rfl, fun _ => rfl⟩

/-- An operation keeps every context, with the layers around its innermost one. It changes none
    but the one that it writes to. -/
theorem getElem?_apply (operation : Operation) (h : contexts[n]? = some s) :
    ∃ s', (operation.apply contexts)[n]? = some s' ∧ s'.outer = s.outer ∧
      (operation.written? ≠ some n → s' = s) := by
  cases operation with
  | insert k name value => exact getElem?_modify_own (Scope.outer_insert · name value) k h
  | child k =>
    have hn : n < contexts.length := (List.getElem?_eq_some_iff.1 h).1
    exact ⟨s, by rw [apply, List.getElem?_append_left hn, h], rfl, fun _ => rfl⟩
  | interpret k p substitute document =>
    exact getElem?_modify_own (fun _ => Plan.outer_ofNested _ _ _ _) k h

/-- A context that an operation adds is grown from one that there was before. -/
theorem eq_child_of_apply {operation : Operation}
    (h : (operation.apply contexts)[n]? = some s) (hnew : contexts.length ≤ n) :
    ∃ k parent, operation = .child k ∧ contexts[k]? = some parent ∧ n = contexts.length ∧
      s = parent.child := by
  have hn := (List.getElem?_eq_some_iff.1 h).1
  cases operation with
  | insert k name value =>
    rw [apply, List.length_modify] at hn
    omega
  | child k =>
    rw [apply, List.getElem?_append_right hnew] at h
    cases hk : contexts[k]? with
    | none => simp [hk] at h
    | some parent =>
      rw [hk, Option.map_some, Option.toList_some, List.getElem?_singleton] at h
      split at h
      · next hzero => exact ⟨k, parent, rfl, hk, by omega, (Option.some.inj h).symm⟩
      · cases h
  | interpret k p substitute document =>
    rw [apply, List.length_modify] at hn
    omega

/-- Where the layers around the innermost one of a context are from: they are those of a context
    that there was before all operations, or all the layers of the context that it was grown
    from, as they were then. -/
inductive Origin (start : List Scope) (operations : List Operation) (n : Nat)
    (outer : List Layer) : Prop where
  | start (root : Scope) (hroot : start[n]? = some root) (houter : outer = root.outer)
  | grown (before : List Operation) (k : Nat) (after : List Operation) (parent : Scope)
    (hsplit : operations = before ++ .child k :: after)
    (hparent : (run start before)[k]? = some parent)
    (hn : n = (run start before).length)
    (houter : outer = parent.own :: parent.outer)

theorem Origin.concat {start : List Scope} {operations : List Operation} {outer : List Layer}
    (h : Origin start operations n outer) (operation : Operation) :
    Origin start (operations ++ [operation]) n outer := by
  cases h with
  | start root hroot houter => exact .start root hroot houter
  | grown before k after parent hsplit hparent hn houter =>
    exact .grown before k (after ++ [operation]) parent (by simp [hsplit]) hparent hn houter

theorem run_concat (start : List Scope) (operations : List Operation) (operation : Operation) :
    run start (operations ++ [operation]) = operation.apply (run start operations) := by
  simp [run]

/-- The layers around the innermost one of a context stay what they were when it came about,
    whatever the operations. -/
theorem origin_run (start : List Scope) (operations : List Operation)
    (h : (run start operations)[n]? = some s) : Origin start operations n s.outer := by
  -- From the last operation, since where a context is from is said by what came before it.
  induction operations using List.reverseRecOn generalizing s with
  | nil => exact .start s h rfl
  | append_singleton operations operation ih =>
    rw [run_concat] at h
    by_cases hnew : (run start operations).length ≤ n
    · obtain ⟨k, parent, rfl, hparent, hn, rfl⟩ := eq_child_of_apply h hnew
      exact .grown operations k [] parent rfl hparent hn rfl
    · obtain ⟨old, hold⟩ : ∃ old, (run start operations)[n]? = some old :=
        ⟨_, List.getElem?_eq_getElem (Nat.lt_of_not_le hnew)⟩
      obtain ⟨s', hs', houter, -⟩ := getElem?_apply operation hold
      obtain rfl : s' = s := Option.some.inj (hs'.symm.trans h)
      rw [houter]
      exact (ih hold).concat operation

end Operation

/-- Whatever has been done to contexts that are grown from each other, in any order:

    * An operation on one of them changes no other one, and growing one changes none at all.
    * A context that is grown binds nothing itself, and answers all that the one answers which
      it is grown from.
    * Inserting null changes nothing.
    * Processing a document leaves its context as every run of the document that comes to an end
      does, whatever requests bring and whether or not the document can be assembled.
    * Each context answers with what it binds itself. For all other names it answers what the
      context that it was grown from did at that moment, or, if it is not grown from any, what
      the layers around it did at the start. -/
theorem isolated_run (start : List Scope) (operations : List Operation) :
    let contexts := Operation.run start operations
    (∀ (operation : Operation) n s, contexts[n]? = some s → operation.written? ≠ some n →
      (operation.apply contexts)[n]? = some s) ∧
    (∀ k parent, contexts[k]? = some parent → ∃ s,
      (Operation.child k).apply contexts = contexts ++ [s] ∧
        ∀ name, s.own name = none ∧ s.get? name = parent.get? name) ∧
    (∀ k name, (Operation.insert k name .null).apply contexts = contexts) ∧
    (∀ k p substitute document limit s o, contexts[k]? = some s →
      Processor.interpret? p limit substitute document s = some o →
      (Operation.interpret k p substitute document).apply contexts = contexts.set k o.scope) ∧
    ∀ n s, contexts[n]? = some s →
      (∃ root, start[n]? = some root ∧ ∀ name,
        s.get? name = (s.own name).or (root.outer.findSome? fun layer => layer name)) ∨
      ∃ before k after parent, operations = before ++ .child k :: after ∧
        (Operation.run start before)[k]? = some parent ∧
        n = (Operation.run start before).length ∧
        ∀ name, s.get? name = (s.own name).or (parent.get? name) := by
  intro contexts
  refine ⟨fun operation n s hs hne => ?_, fun k parent hparent => ?_, fun k name => ?_,
    fun k p substitute document limit s o hs ho => ?_, fun n s hs => ?_⟩
  · obtain ⟨s', hs', -, hsame⟩ := Operation.getElem?_apply operation hs
    rw [hs', hsame hne]
  · exact ⟨parent.child, by simp [Operation.apply, hparent], fun name => ⟨rfl, rfl⟩⟩
  · have hinsert : (fun s : Scope => s.insert name .null) = id := rfl
    rw [Operation.apply, hinsert, List.modify_id]
  · rw [Operation.apply, List.modify_eq_set_getElem?, hs, Processor.scope_of_interpret? ho]
    rfl
  · obtain ⟨root, hroot, houter⟩ | ⟨before, k, after, parent, hsplit, hparent, hn, houter⟩ :=
      Operation.origin_run start operations hs
    · exact .inl ⟨root, hroot, fun name => by rw [Scope.get?_eq_or, houter]⟩
    · refine .inr ⟨before, k, after, parent, hsplit, hparent, hn, fun name => ?_⟩
      rw [Scope.get?_eq_or, houter]
      rfl

/-- What is bound in either context after one is grown from the other stays in it. -/
example :
    (Operation.run [.empty]
      [.insert 0 ['x'] (.boolean true), .child 0, .insert 0 ['x'] (.boolean false),
        .insert 1 ['y'] (.boolean true)]).map
      (fun s => [s.get? ['x'], s.get? ['y']].map (·.map Value.display)) =
    [[some "false".toList, none], [some "true".toList, some "true".toList]] := by decide

end EdgeInclude
