import EdgeInclude.Processor
import EdgeInclude.Proofs.Plan.Deferred

/-!
# The variables of a level

What a level leaves for later is processed under the variables as they are once
the whole level is planned. Its cell is empty while it is planned, is sealed
then, and keeps those variables from there on, so nothing reads it too early.
What is left for later are the bodies that includes bring and the other parts of
blocks; running an element is all that takes them up again.

Results:
* `get?_eq`, `ne_cell_of_sealed`: planning a level seals a cell of its own with the
  variables at its end, and changes no other.
* `runElement_congr`: elements are run with the help of nothing but the layers
  over the cells that they hold.
* `runPass_eq`: a level is run by running each of its elements over the
  variables at its end.
* `resumes_runElement`: running an element processes what it holds, as soon as it can be.
* `process_under_final_variables`: all of it together, for every level.
-/

namespace EdgeInclude

namespace Course

/-- A course, and from the round of its end on another one. -/
def followedBy (c d : Course) : Course := ⟨c.events ++ d.events, d.finish, d.ending⟩

theorem andThen_of_ending {c : Course} {result : Except Error Text}
    (h : c.ending = some result) (next : Nat → Except Error Text → Course) :
    c.andThen next = c.followedBy (next c.finish result) := by
  rw [andThen, h]
  rfl

end Course

/-! ## Cells -/

namespace Pass

variable {i : Interpreter} {store : Store} {substitute : Bool} {document : Text} {scope : Scope}

theorem get?_eq (other : Cell) :
    (ofDocument i store substitute document scope).store.get? other =
      if other = (ofDocument i store substitute document scope).cell then
        some (ofDocument i store substitute document scope).plan.scope
      else store.get? other := by
  have hlt : store.nextCell.index < store.allocate.cells.length := by
    simp [Store.nextCell, Store.allocate]
  have hempty : store.allocate.get? store.nextCell = none := by
    rw [Store.get?_allocate, Store.get?_nextCell]
  rw [ofDocument, Store.get?_fill hlt hempty, Store.get?_allocate]

theorem get?_cell :
    (ofDocument i store substitute document scope).store.get?
        (ofDocument i store substitute document scope).cell =
      some (ofDocument i store substitute document scope).plan.scope := by
  rw [get?_eq, if_pos rfl]

/-- A level does not get the cell of another one that is planned before. -/
theorem ne_cell_of_sealed {cell : Cell} {final : Scope} (h : store.get? cell = some final) :
    cell ≠ (ofDocument i store substitute document scope).cell := by
  rintro rfl
  rw [ofDocument, Store.get?_nextCell] at h
  cases h

end Pass

/-! ## Runs -/

namespace Processor

variable {p : Processor} {process : Nat → Text → Scope → Course} {layer layer' : Cell → Scope}
  {start : Nat}

mutual

/-- Elements are run with the help of nothing but the layers over the cells that they hold. -/
theorem runElement_congr (e : Element)
    (h : ∀ held ∈ e.deferred, layer held.1 = layer' held.1) :
    p.runElement process layer start e = p.runElement process layer' start e := by
  match e with
  | .text s => rfl
  | .pending i cell =>
    have hcell := h (cell, .content i) (by rw [Element.deferred]; exact List.mem_cons_self)
    simp only [runElement, hcell]
  | .attempt queue except cell =>
    have hcell := h (cell, .recovery except) (by rw [Element.deferred]; exact List.mem_cons_self)
    have hqueue := runElements_congr queue fun held hmem =>
      h held (by rw [Element.deferred]; exact List.mem_cons_of_mem _ hmem)
    simp only [runElement, hcell, hqueue]

theorem runElements_congr (es : List Element)
    (h : ∀ held ∈ Element.allDeferred es, layer held.1 = layer' held.1) :
    p.runElements process layer start es = p.runElements process layer' start es := by
  match es with
  | [] => rfl
  | e :: es =>
    have hhead := runElement_congr e fun held hmem =>
      h held (by rw [Element.allDeferred]; exact List.mem_append_left _ hmem)
    have htail := runElements_congr es fun held hmem =>
      h held (by rw [Element.allDeferred]; exact List.mem_append_right _ hmem)
    rw [runElements, runElements, hhead, htail]

end

/-- Everything that a level leaves for later holds the cell of the level. -/
theorem cell_of_deferred {i : Interpreter} {store : Store} {substitute : Bool}
    {document : Text} {scope : Scope} {held : Cell × Deferred}
    (h : held ∈ Element.allDeferred (Pass.ofDocument i store substitute document scope).plan.queue) :
    held.1 = (Pass.ofDocument i store substitute document scope).cell := by
  rw [Plan.queue, Element.allDeferred_merge] at h
  obtain ⟨later, -, rfl⟩ := List.mem_map.1 (Plan.deferred_ofNested _ _ _ _ ▸ h)
  rfl

/-- A level is run by running each of its elements over the variables at its end. -/
theorem runPass_eq (p : Processor) (process : Store → Nat → Text → Scope → Course) (start : Nat)
    (store : Store) (substitute : Bool) (document : Text) (scope : Scope) :
    let pass := Pass.ofDocument p.toInterpreter store substitute document scope
    p.runPass process start pass =
      .note start (pass.plan.events ++ [Element.queueLine pass.plan.queue])
        (.join start (pass.plan.queue.map
          (p.runElement (process pass.store) (fun _ => pass.plan.scope.child) start))) := by
  intro pass
  have hlayer : ∀ held ∈ Element.allDeferred pass.plan.queue,
      pass.store.child held.1 = pass.plan.scope.child := by
    intro held hmem
    rw [cell_of_deferred hmem, Store.child_of_get? Pass.get?_cell]
  have hrun : p.runElements (process pass.store) pass.store.child start pass.plan.queue =
      p.runElements (process pass.store) (fun _ => pass.plan.scope.child) start
        pass.plan.queue := runElements_congr _ hlayer
  rw [runPass, runPlan, hrun, runElements_eq_map]

/-! ## Later processing -/

/-- How the elements of a level that is run from the round `start` on take up what has been left
    for later: `run` runs an element, and `process` processes a document from a round on. -/
structure Resumes (p : Processor) (run : Element → Course) (process : Nat → Text → Course)
    (start : Nat) : Prop where
  /-- An include that asks for it is its requests, followed by the processing of the body that
      they bring. -/
  content : ∀ i cell, i.reprocess = true →
    ∀ body, (p.fetchInclude start i).ending = some (.ok body) →
      run (.pending i cell) =
        (p.fetchInclude start i).followedBy (process (p.fetchInclude start i).finish body)
  /-- A block that is tried runs the elements of its queue as the level does. If they fail, it is
      this attempt, followed by the processing of its other part. -/
  recovery : ∀ queue except cell,
    let attempt := Course.join start (queue.map run)
    ∀ cause, attempt.ending = some (.error cause) →
      run (.attempt queue (some except) cell) =
        attempt.followedBy
          (.note attempt.finish [exceptLine cause] (process attempt.finish except))
  /-- Without another part, or if it does not fail, it is this attempt and nothing else. -/
  attempted : ∀ queue except cell,
    let attempt := Course.join start (queue.map run)
    (∀ cause, attempt.ending = some (.error cause) → except = none) →
      run (.attempt queue except cell) = attempt

/-- What is attempted takes its course unless it fails and there is another part. -/
theorem runElement_attempt_eq {queue : List Element} {except : Option Text} {cell : Cell}
    {n : Nat} (h : ∀ e, (Course.join n (queue.map (p.runElement process layer n))).ending =
      some (.error e) → except = none) :
    p.runElement process layer n (.attempt queue except cell) =
      .join n (queue.map (p.runElement process layer n)) := by
  rw [runElement, runElements_eq_map]
  generalize Course.join n (queue.map (p.runElement process layer n)) = attempt at h
  obtain ⟨events, finish, ending⟩ := attempt
  match ending with
  | none => rfl
  | some (.ok s) => simp [Course.andThen]
  | some (.error e) => simp [Course.andThen, h e rfl]

/-- Elements take up what they hold over one layer, if all cells are taken to hold the same
    variables. -/
theorem resumes_runElement (p : Processor) (process : Nat → Text → Scope → Course)
    (scope : Scope) (start : Nat) :
    Resumes p (p.runElement process (fun _ => scope) start)
      (fun round document => process round document scope) start where
  content i cell hreprocess body hbody := by
    rw [runElement, runInclude, Course.andThen_of_ending hbody]
    simp only [hreprocess, if_true]
  recovery queue except cell := by
    intro attempt cause hcause
    rw [runElement, runElements_eq_map, Course.andThen_of_ending hcause]
  attempted queue except cell := by
    intro attempt hexcept
    exact runElement_attempt_eq hexcept

/-- For every level that is planned, whatever fetches its requests and whenever they end, with
    `final` the variables as they are once all its steps are planned:

    * What it leaves for later is what its steps leave, at any depth of nesting: includes with
      URLs as they are under the variables of their own step, and the other parts of blocks.
      All of it holds the cell of the level.
    * The cell is empty before, holds `final` afterwards and is never changed again; no other
      cell is changed.
    * The level is run by running each element by itself, where whatever is processed later
      is processed under an empty layer over `final`.
    * In particular, an include that asks for it is its requests, followed by the processing of
      the body that they bring, and a block that fails is its attempt, followed by the
      processing of its other part. Both are processed under an empty layer over `final`, as
      a level that is planned with the cells as this level leaves them.
    * A document that is processed later, in a level inside of this one, binds nothing in the
      layers below its own and leaves the cells of this level and of those around it alone.
    * A document is processed from the outside by running its level, and the variables of the
      caller end up as planning leaves them. -/
theorem process_under_final_variables (p : Processor)
    (process : Store → Nat → Text → Scope → Course) (start : Nat) (store : Store)
    (substitute : Bool) (document : Text) (scope : Scope) :
    let i := p.toInterpreter
    let pass := Pass.ofDocument i store substitute document scope
    let steps := Plan.stepsOfDocument i pass.cell substitute document scope
    let final := pass.plan.scope
    (pass.plan = Step.planOf scope steps ∧
      Element.allDeferred pass.plan.queue =
        ((Step.all steps).filterMap (Step.deferred? i)).map (pass.cell, ·)) ∧
    (store.get? pass.cell = none ∧ pass.store.get? pass.cell = some final ∧
      (∀ cell later, (pass.store.fill cell later).get? pass.cell = some final) ∧
      ∀ cell, cell ≠ pass.cell → pass.store.get? cell = store.get? cell) ∧
    p.runPass process start pass =
      .note start (pass.plan.events ++ [Element.queueLine pass.plan.queue])
        (.join start (pass.plan.queue.map
          (p.runElement (process pass.store) (fun _ => final.child) start))) ∧
    (∀ depth,
      Resumes p (p.runElement (p.process depth pass.store) (fun _ => final.child) start)
        (fun round body => p.process depth pass.store round body final.child) start ∧
      ∀ round body, p.process (depth + 1) pass.store round body final.child =
        p.runPass (p.process depth) round (Pass.ofDocument i pass.store true body final.child)) ∧
    (∀ body, let inner := Pass.ofDocument i pass.store true body final.child
      inner.plan.scope.outer = final.own :: final.outer ∧
        ∀ cell kept, pass.store.get? cell = some kept →
          inner.store.get? cell = some kept) ∧
    ∀ limit o, p.interpret? limit substitute document scope = some o →
      let level := Pass.ofDocument i .empty substitute document scope
      o.scope = level.plan.scope ∧
        ∃ depth, (p.runPass (p.process depth) 0 level).ending = some o.result ∧
          o.events = (p.runPass (p.process depth) 0 level).events.map Prod.snd := by
  intro i pass steps final
  refine ⟨⟨Plan.ofNested_eq_planOf _ _ _ _, ?_⟩, ⟨?_, Pass.get?_cell, ?_, ?_⟩,
    runPass_eq p process start store substitute document scope,
    fun depth => ⟨resumes_runElement p _ _ start, fun round body => rfl⟩,
    fun body => ⟨?_, ?_⟩, fun limit o h => ?_⟩
  · rw [Plan.queue, Element.allDeferred_merge]
    exact Plan.deferred_ofNested _ _ _ _
  · exact Store.get?_nextCell store
  · exact fun cell later => Store.get?_fill_of_sealed Pass.get?_cell cell later
  · intro cell hne
    rw [Pass.get?_eq, if_neg hne]
  · exact Plan.outer_ofNested _ _ _ _
  · intro cell kept hsealed
    rw [Pass.get?_eq, if_neg (Pass.ne_cell_of_sealed hsealed), hsealed]
  · obtain ⟨depth, hwithin⟩ := interpretWithin?_of_interpret? h
    obtain ⟨result, hending, rfl⟩ := Option.map_eq_some_iff.1 hwithin
    exact ⟨rfl, depth, hending, rfl⟩

end Processor

end EdgeInclude
