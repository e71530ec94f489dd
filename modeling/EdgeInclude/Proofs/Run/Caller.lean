import EdgeInclude.Proofs.Run.Failure

/-!
# The variables of the caller

What processing a document does to the variables of its caller is done while the
document is planned, before any request. A document that a request brings, or that is
processed in place of a failed block, is planned in a level of its own: it reads the
variables of the levels around it as they were sealed, and binds in its own layer.
What they are when a fault breaks the run off is not known; see `Outcome.exit`.

Results:
* `beneath_of_within`: every level inside of a level, at any depth, has the variables of that
  level beneath its own layer, and leaves the cell of that level alone.
* `caller_scope_eq`: the variables of the caller end up alike whatever requests bring and
  whenever, also if the document cannot be assembled.
-/

namespace EdgeInclude

namespace Pass

/-- A level that another one can read but not change: its variables are layers beneath the own
    layer of the other, and its cell, which is not that of the other, is kept. -/
structure Beneath (pass inner : Pass) : Prop where
  sealed : inner.store.get? pass.cell = some pass.plan.scope
  cell_ne : inner.cell ≠ pass.cell
  layers : ∃ between, inner.plan.scope.outer =
    between ++ pass.plan.scope.own :: pass.plan.scope.outer

variable {i : Interpreter} {pass : Pass}

/-- A level that is planned over the variables of a sealed level has them beneath it. -/
theorem beneath_ofDocument (hsealed : pass.store.get? pass.cell = some pass.plan.scope)
    (document : Text) :
    Beneath pass (ofDocument i pass.store true document pass.plan.scope.child) where
  sealed := by
    rw [get?_eq, if_neg (ne_cell_of_sealed hsealed), hsealed]
  cell_ne := (ne_cell_of_sealed hsealed).symm
  layers := by
    refine ⟨[], ?_⟩
    show (Plan.ofNested _ _ _ _ _ _).scope.outer = _
    rw [Plan.outer_ofNested]
    rfl

/-- What is beneath a level stays beneath the levels inside of it. -/
theorem Beneath.ofDocument {middle : Pass} (h : Beneath pass middle) (document : Text) :
    Beneath pass (ofDocument i middle.store true document middle.plan.scope.child) where
  sealed := by
    rw [get?_eq, if_neg (ne_cell_of_sealed h.sealed), h.sealed]
  cell_ne := (ne_cell_of_sealed h.sealed).symm
  layers := by
    obtain ⟨between, hbetween⟩ := h.layers
    refine ⟨middle.plan.scope.own :: between, ?_⟩
    show (Plan.ofNested _ _ _ _ _ _).scope.outer = _
    rw [Plan.outer_ofNested, Scope.outer_child, hbetween]
    rfl

end Pass

namespace Processor

variable {p : Processor} {pass inner : Pass}

/-- Whatever requests bring is planned in levels that have a sealed level beneath them. -/
theorem beneath_of_within (hsealed : pass.store.get? pass.cell = some pass.plan.scope)
    (h : p.Within pass inner) : inner = pass ∨ pass.Beneath inner := by
  induction h with
  | refl => exact .inl rfl
  | tail _ hinner ih =>
    right
    obtain ⟨document, rfl⟩ := hinner.exists_ofDocument
    obtain rfl | hmiddle := ih
    · exact Pass.beneath_ofDocument hsealed document
    · exact hmiddle.ofDocument document

/-- The variables of the caller come out as planning the document leaves them. -/
theorem scope_of_interpret? {limit : Nat} {substitute : Bool} {document : Text} {scope : Scope}
    {o : Outcome} (h : p.interpret? limit substitute document scope = some o) :
    o.scope = (Pass.ofDocument p.toInterpreter .empty substitute document scope).plan.scope := by
  obtain ⟨depth, hwithin⟩ := interpretWithin?_of_interpret? h
  obtain ⟨result, -, rfl⟩ := Option.map_eq_some_iff.1 hwithin
  rfl

/-- For every document and any two ways in which its requests can be answered, in whatever
    rounds, whether or not the document can be assembled:

    * The variables of the caller are the same in the end, in each of their layers.
    * Only the innermost layer can differ from what it was before.
    * Every level inside of the document, of what a request brings or of what is processed in
      place of a failed block, at any depth, is planned with those variables beneath a layer of
      its own, and leaves the cell that they are sealed in as it is. -/
theorem caller_scope_eq (i : Interpreter) (f f' : Fetcher) (substitute : Bool) (document : Text)
    (scope : Scope) :
    let p : Processor := ⟨i, f⟩
    let p' : Processor := ⟨i, f'⟩
    let pass := Pass.ofDocument i .empty substitute document scope
    (∀ limit limit' o o', p.interpret? limit substitute document scope = some o →
      p'.interpret? limit' substitute document scope = some o' → o.scope = o'.scope) ∧
    ∀ limit o, p.interpret? limit substitute document scope = some o →
      o.scope.outer = scope.outer ∧
      ∀ inner, p.Within pass inner → inner = pass ∨
        inner.store.get? pass.cell = some o.scope ∧ inner.cell ≠ pass.cell ∧
          ∃ between, inner.plan.scope.outer = between ++ o.scope.own :: o.scope.outer := by
  intro p p' pass
  refine ⟨fun limit limit' o o' h h' => ?_, fun limit o h => ?_⟩
  · rw [scope_of_interpret? h, scope_of_interpret? h']
  · have hscope : o.scope = pass.plan.scope := scope_of_interpret? h
    rw [hscope]
    refine ⟨Plan.outer_ofNested _ _ _ _, fun inner hwithin => ?_⟩
    obtain heq | hbeneath := beneath_of_within Pass.get?_cell hwithin
    · exact .inl heq
    · exact .inr ⟨hbeneath.sealed, hbeneath.cell_ne, hbeneath.layers⟩

/-- A document that a request brings binds a variable of the caller for itself only. The caller
    has the same variables as if the request failed. -/
theorem caller_scope_eq_of_failure :
    let i : Interpreter := ⟨{}, .empty⟩
    let f := Fetcher.ofTable
      [("/a".toList, .ok "<esi:assign name=\"x\" value=\"2\"/>$(x)".toList)]
    let document := "<esi:assign name=\"x\" value=\"1\"/><esi:include src=\"/a\" dca=\"esi\"/>".toList
    ∃ o o', interpret? ⟨i, f⟩ 3 true document .empty = some o ∧
      interpret? ⟨i, .ofTable []⟩ 3 true document .empty = some o' ∧
      o.result = .ok ['2'] ∧
      o'.result = .error (.unresolvedInclude "/a".toList (.unexpectedStatus "/a".toList 404)) ∧
      (o.scope.get? ['x']).map Value.display = some ['1'] ∧ o.scope = o'.scope := by
  intro i f document
  have hok : (interpret? ⟨i, f⟩ 3 true document .empty).map (fun o =>
      (o.result, (o.scope.get? ['x']).map Value.display)) = some (.ok ['2'], some ['1']) := by
    have hinstant : instant ⟨i, f⟩ = ⟨i, f⟩ := rfl
    rw [← hinstant, interpret?_instant]
    decide +kernel
  have hfails : (interpret? ⟨i, .ofTable []⟩ 3 true document .empty).map Outcome.result =
      some (.error (.unresolvedInclude "/a".toList (.unexpectedStatus "/a".toList 404))) := by
    have hinstant : instant ⟨i, .ofTable []⟩ = ⟨i, .ofTable []⟩ := rfl
    rw [← hinstant, interpret?_instant]
    decide +kernel
  obtain ⟨o, ho, hresult⟩ := Option.map_eq_some_iff.1 hok
  obtain ⟨o', ho', hresult'⟩ := Option.map_eq_some_iff.1 hfails
  obtain ⟨hresult, hx⟩ := Prod.mk.inj hresult
  exact ⟨o, o', ho, ho', hresult, hresult', hx,
    (caller_scope_eq i f (.ofTable []) true document .empty).1 3 3 o o' ho ho'⟩

end Processor

end EdgeInclude
