import EdgeInclude.Proofs.Run.Begun
import EdgeInclude.Proofs.Run.Failure

/-!
# Where includes stand

Which includes a run begins: those of its queues, from the round on in which the queue is
run, and those of the documents that they bring or that take the place of a failed block,
as far as the elements next to them have not stopped them before. Each of them stands at
the end of its path in the plans of the level and of the levels inside of it, and no two
have the same path.

Results:
* `standsAt_begunElement`, `standsAt_begunPass`: what is begun stands where its path says.
* `StandsAt.exists_within`: what stands somewhere is planned there.
* `distinct_begunElement`, `distinct_begunProcess`: nothing is begun twice.
-/

namespace EdgeInclude

open Begun

namespace Processor

/-! ## What is begun -/

/-- The includes that an include begins: itself, and those of the document that it brings. -/
def begunInclude (p : Processor) (inside : Nat → Text → List Begun) (start : Nat)
    (i : Include) : List Begun :=
  ⟨[], i, start, none⟩ ::
    match p.content i with
    | .ok body =>
      if i.reprocess then (inside (p.fetchInclude start i).finish body).map (under .body) else []
    | .error _ => []

/-- The includes that the other part of a block begins, if what is attempted fails. -/
def begunExcept (inside : Nat → Text → List Begun) (attempt : Course) (except : Option Text) :
    List Begun :=
  match attempt.ending, except with
  | some (.error _), some document => inside attempt.finish document
  | _, _ => []

mutual

/-- The includes that an element of a level begins, where `inside` says which ones are begun by
    documents inside of the level. -/
def begunElement (p : Processor) (process : Nat → Text → Scope → Course)
    (inside : Nat → Text → List Begun) (scope : Scope) (start : Nat) : Element → List Begun
  | .text _ => []
  | .pending i _ => p.begunInclude inside start i
  | .attempt queue except _ =>
    let courses := p.runElements process (fun _ => scope) start queue
    (together courses (begunElements p process inside scope start queue)).map (under .attempt) ++
      (begunExcept inside (.join start courses) except).map (under .except)

/-- The includes that each of several elements begins. -/
def begunElements (p : Processor) (process : Nat → Text → Scope → Course)
    (inside : Nat → Text → List Begun) (scope : Scope) (start : Nat) :
    List Element → List (List Begun)
  | [] => []
  | e :: es =>
    begunElement p process inside scope start e :: begunElements p process inside scope start es

end

/-- The includes that a level begins that is run from a round on. -/
def begunPass (p : Processor) (process : Store → Nat → Text → Scope → Course)
    (inside : Store → Nat → Text → Scope → List Begun) (start : Nat) (pass : Pass) : List Begun :=
  let scope := pass.plan.scope.child
  together (p.runElements (process pass.store) (fun _ => scope) start pass.plan.queue)
    (p.begunElements (process pass.store) (fun round document =>
      inside pass.store round document scope) scope start pass.plan.queue)

/-- The includes that a document begins that a request has brought. -/
def begunProcess (p : Processor) :
    (depth : Nat) → Store → (start : Nat) → Text → Scope → List Begun
  | 0, _, _, _, _ => []
  | depth + 1, store, start, document, scope =>
    p.begunPass (p.process depth) (p.begunProcess depth) start
      (.ofDocument p.toInterpreter store true document scope)

/-! ## Paths -/

/-- The level that processes a document inside of a level. -/
def levelInside (p : Processor) (pass : Pass) (document : Text) : Pass :=
  .ofDocument p.toInterpreter pass.store true document pass.plan.scope.child

/-- An include stands at the end of a path from a queue of a level: in the queue, in the queue of
    what a block in it attempts, or in a document inside of the level, which an include in the
    queue brings or which is the other part of a block in it. -/
inductive StandsAt (p : Processor) : Pass → List Element → List Turn → Include → Prop where
  | here {pass : Pass} {queue : List Element} {k : Nat} {i : Include} {cell : Cell}
      (element : queue[k]? = some (.pending i cell)) : StandsAt p pass queue [.element k] i
  | body {pass : Pass} {queue : List Element} {k : Nat} {i : Include} {cell : Cell} {body : Text}
      {path : List Turn} {content : Include} (element : queue[k]? = some (.pending i cell))
      (reprocess : i.reprocess = true) (brings : p.content i = .ok body)
      (inside : StandsAt p (p.levelInside pass body) (p.levelInside pass body).plan.queue path
        content) :
      StandsAt p pass queue (.element k :: .body :: path) content
  | attempt {pass : Pass} {queue inner : List Element} {k : Nat} {except : Option Text}
      {cell : Cell} {path : List Turn} {content : Include}
      (element : queue[k]? = some (.attempt inner except cell))
      (inside : StandsAt p pass inner path content) :
      StandsAt p pass queue (.element k :: .attempt :: path) content
  | except {pass : Pass} {queue inner : List Element} {k : Nat} {document : Text} {cell : Cell}
      {path : List Turn} {content : Include}
      (element : queue[k]? = some (.attempt inner (some document) cell))
      (inside : StandsAt p (p.levelInside pass document) (p.levelInside pass document).plan.queue
        path content) :
      StandsAt p pass queue (.element k :: .except :: path) content

section

variable {p : Processor} {process : Nat → Text → Scope → Course}
  {inside : Nat → Text → List Begun} {scope : Scope} {start : Nat}

theorem begunElements_eq_map (es : List Element) :
    p.begunElements process inside scope start es =
      es.map (p.begunElement process inside scope start) := by
  induction es with
  | nil => rfl
  | cons e es ih => rw [begunElements, ih, List.map_cons]

/-- An include begins itself, and what the document begins that it brings. -/
theorem mem_begunInclude {i : Include} {b : Begun} (h : b ∈ p.begunInclude inside start i) :
    b = ⟨[], i, start, none⟩ ∨ i.reprocess = true ∧ ∃ body, p.content i = .ok body ∧
      ∃ b' ∈ inside (p.fetchInclude start i).finish body, b = under .body b' := by
  obtain rfl | h := List.mem_cons.1 h
  · exact .inl rfl
  · cases hcontent : p.content i with
    | error e => simp [hcontent] at h
    | ok body =>
      cases hreprocess : i.reprocess with
      | false => simp [hcontent, hreprocess] at h
      | true =>
        simp only [hcontent, hreprocess, if_true] at h
        obtain ⟨b', hb', rfl⟩ := List.mem_map.1 h
        exact .inr ⟨rfl, body, rfl, b', hb', rfl⟩

theorem mem_begunExcept {attempt : Course} {except : Option Text} {b : Begun}
    (h : b ∈ begunExcept inside attempt except) :
    ∃ document, except = some document ∧ b ∈ inside attempt.finish document := by
  unfold begunExcept at h
  split at h
  · exact ⟨_, rfl, h⟩
  · cases h

/-- Whatever the elements of a queue begin side by side is begun by one of them. -/
theorem mem_together_begunElements {cs : List Course} {queue : List Element} {b : Begun}
    (h : b ∈ together cs (p.begunElements process inside scope start queue)) :
    ∃ k e, queue[k]? = some e ∧ ∃ b' ∈ p.begunElement process inside scope start e,
      ∃ deadline b'', until? deadline b' = some b'' ∧ under (.element k) b'' = b := by
  obtain ⟨k, deadline, bs, -, hbs, b', hb', b'', huntil, rfl⟩ := mem_together_iff.1 h
  rw [begunElements_eq_map, List.getElem?_map] at hbs
  obtain ⟨e, he, rfl⟩ := Option.map_eq_some_iff.1 hbs
  exact ⟨k, e, he, b', hb', deadline, b'', huntil, rfl⟩

/-- Whatever is begun in documents inside of a level stands in the plans of these. -/
def StandsInside (p : Processor) (pass : Pass) (inside : Nat → Text → List Begun) : Prop :=
  ∀ round document, ∀ b ∈ inside round document,
    p.StandsAt (p.levelInside pass document) (p.levelInside pass document).plan.queue b.path
      b.content

theorem standsAt_begunInclude {pass : Pass} (h : p.StandsInside pass inside)
    {queue : List Element} {k : Nat} {i : Include} {cell : Cell}
    (hk : queue[k]? = some (.pending i cell)) :
    ∀ b ∈ p.begunInclude inside start i,
      p.StandsAt pass queue (.element k :: b.path) b.content := by
  intro b hb
  obtain rfl | ⟨hreprocess, body, hbody, b', hb', rfl⟩ := mem_begunInclude hb
  · exact .here hk
  · exact .body hk hreprocess hbody (h _ body b' hb')

mutual

/-- Whatever an element of a queue begins stands where its path says. -/
theorem standsAt_begunElement {pass : Pass} (h : p.StandsInside pass inside) (e : Element) :
    ∀ (queue : List Element) (k : Nat), queue[k]? = some e →
      ∀ b ∈ p.begunElement process inside scope start e,
        p.StandsAt pass queue (.element k :: b.path) b.content := by
  intro queue k hk b hb
  match e with
  | .text s => cases hb
  | .pending i cell => exact standsAt_begunInclude h hk b hb
  | .attempt inner except cell =>
    have hinner := standsAt_begunElements h inner
    rw [begunElement] at hb
    obtain hb | hb := List.mem_append.1 hb
    · obtain ⟨own, hown, rfl⟩ := List.mem_map.1 hb
      obtain ⟨j, e, he, b', hb', deadline, b'', huntil, rfl⟩ := mem_together_begunElements hown
      rw [eq_of_until? huntil]
      exact .attempt hk (hinner e (List.mem_of_getElem? he) inner j he b' hb')
    · obtain ⟨own, hown, rfl⟩ := List.mem_map.1 hb
      obtain ⟨document, rfl, hinside⟩ := mem_begunExcept hown
      exact .except hk (h _ document own hinside)

theorem standsAt_begunElements {pass : Pass} (h : p.StandsInside pass inside)
    (es : List Element) :
    ∀ e ∈ es, ∀ (queue : List Element) (k : Nat), queue[k]? = some e →
      ∀ b ∈ p.begunElement process inside scope start e,
        p.StandsAt pass queue (.element k :: b.path) b.content := by
  match es with
  | [] => exact fun e he => absurd he List.not_mem_nil
  | e :: es =>
    exact List.forall_mem_cons.2 ⟨standsAt_begunElement h e, standsAt_begunElements h es⟩

end

/-- Whatever courses side by side begin stands where its path says. -/
theorem standsAt_together {pass : Pass} (h : p.StandsInside pass inside) (queue : List Element)
    (cs : List Course) :
    ∀ b ∈ together cs (p.begunElements process inside scope start queue),
      p.StandsAt pass queue b.path b.content := by
  intro b hb
  obtain ⟨j, e, he, b', hb', deadline, b'', huntil, rfl⟩ := mem_together_begunElements hb
  rw [eq_of_until? huntil]
  exact standsAt_begunElement h e queue j he b' hb'

/-- Whatever a level begins stands where its path says. -/
theorem standsAt_begunPass (depth start : Nat) (pass : Pass) :
    ∀ b ∈ p.begunPass (p.process depth) (p.begunProcess depth) start pass,
      p.StandsAt pass pass.plan.queue b.path b.content := by
  induction depth generalizing start pass with
  | zero =>
    have hinside : p.StandsInside pass fun round document =>
        p.begunProcess 0 pass.store round document pass.plan.scope.child :=
      fun _ _ b hb => absurd hb List.not_mem_nil
    exact standsAt_together hinside pass.plan.queue _
  | succ depth ih =>
    have hinside : p.StandsInside pass fun round document =>
        p.begunProcess (depth + 1) pass.store round document pass.plan.scope.child :=
      fun round document => ih round (p.levelInside pass document)
    exact standsAt_together hinside pass.plan.queue _

end

/-! ## Plans -/

section

variable {p : Processor}

/-- What stands somewhere in a queue of a level is planned in the level, or in a level inside of
    it. -/
theorem StandsAt.exists_within {pass : Pass} {queue : List Element} {path : List Turn}
    {content : Include} (h : p.StandsAt pass queue path content)
    (hincludes : Element.includes queue ⊆ Element.includes pass.plan.queue)
    (hrecoveries : Element.recoveries queue ⊆ Element.recoveries pass.plan.queue) :
    ∃ inner, p.Within pass inner ∧ content ∈ Element.includes inner.plan.queue := by
  induction h with
  | @here pass queue k i cell element =>
    have hi := Element.includes_subset (List.mem_of_getElem? element) (List.mem_singleton_self i)
    exact ⟨pass, .refl, hincludes hi⟩
  | @body pass queue k i cell body path content element reprocess brings _ ih =>
    have hi := Element.includes_subset (List.mem_of_getElem? element) (List.mem_singleton_self i)
    obtain ⟨inner, hwithin, hcontent⟩ := ih (List.Subset.refl _) (List.Subset.refl _)
    exact ⟨inner, .head (.content (hincludes hi) reprocess brings) hwithin, hcontent⟩
  | @attempt pass queue inner k except cell path content element _ ih =>
    have hmem := List.mem_of_getElem? element
    refine ih (List.Subset.trans ?_ hincludes) (List.Subset.trans ?_ hrecoveries)
    · exact Element.includes_attempt inner except cell ▸ Element.includes_subset hmem
    · refine List.Subset.trans ?_ (Element.recoveries_subset hmem)
      rw [Element.recoveries_attempt]
      exact List.subset_append_right _ _
  | @except pass queue inner k document cell path content element _ ih =>
    have hdocument : document ∈ Element.recoveries queue := by
      apply Element.recoveries_subset (List.mem_of_getElem? element)
      rw [Element.recoveries_attempt]
      exact List.mem_cons_self
    obtain ⟨inner, hwithin, hcontent⟩ := ih (List.Subset.refl _) (List.Subset.refl _)
    exact ⟨inner, .head (.recovery (hrecoveries hdocument)) hwithin, hcontent⟩

end

end Processor

/-! ## Nothing twice -/

namespace Begun

/-- Includes of which no two stand at the same place. -/
def Distinct (begun : List Begun) : Prop := begun.Pairwise fun b b' => b.path ≠ b'.path

variable {begun later : List Begun}

theorem Distinct.under (h : Distinct begun) (t : Turn) : Distinct (begun.map (Begun.under t)) := by
  refine List.pairwise_map.2 (h.imp fun hne hpath => ?_)
  exact hne (List.cons.inj hpath).2

theorem Distinct.until? (h : Distinct begun) (deadline : Option Nat) :
    Distinct (begun.filterMap (Begun.until? deadline)) := by
  refine List.Pairwise.filterMap _ (fun b b' hne c hc c' hc' => ?_) h
  rw [eq_of_until? hc, eq_of_until? hc']
  exact hne

/-- Where one turn is taken to the one and another one to the other, nothing is the same. -/
theorem Distinct.append (h : Distinct begun) (hlater : Distinct later) {t u : Turn}
    (hturns : t ≠ u) : Distinct (begun.map (Begun.under t) ++ later.map (Begun.under u)) := by
  refine List.pairwise_append.2 ⟨h.under t, hlater.under u, ?_⟩
  refine List.forall_mem_map.2 fun b _ => List.forall_mem_map.2 fun b' _ hpath => ?_
  exact hturns (List.cons.inj hpath).1

theorem distinct_ofQueue {begun : List (List Begun)} (h : ∀ bs ∈ begun, Distinct bs) :
    Distinct (ofQueue begun) := by
  refine List.pairwise_flatten.2 ⟨fun l hl => ?_, List.pairwise_iff_getElem.2 ?_⟩
  · obtain ⟨k, hk, rfl⟩ := List.mem_mapIdx.1 hl
    exact (h _ (List.getElem_mem hk)).under _
  · intro j k hj hk hlt
    rw [List.getElem_mapIdx, List.getElem_mapIdx]
    refine List.forall_mem_map.2 fun b _ => List.forall_mem_map.2 fun b' _ hpath => ?_
    exact Nat.ne_of_lt hlt (Turn.element.inj (List.cons.inj hpath).1)

theorem distinct_together {begun : List (List Begun)} (h : ∀ bs ∈ begun, Distinct bs)
    (cs : List Course) : Distinct (together cs begun) := by
  refine distinct_ofQueue fun l hl => ?_
  obtain ⟨k, hk, rfl⟩ := List.mem_iff_getElem.1 hl
  rw [List.getElem_zipWith]
  exact (h _ (List.getElem_mem _)).until? _

end Begun

namespace Processor

variable {p : Processor} {process : Nat → Text → Scope → Course}
  {inside : Nat → Text → List Begun} {scope : Scope} {start : Nat}

theorem distinct_begunInclude (h : ∀ round document, Distinct (inside round document))
    (i : Include) : Distinct (p.begunInclude inside start i) := by
  have hitself : Distinct [⟨[], i, start, none⟩] := List.pairwise_singleton _ _
  unfold begunInclude
  split
  · next body _ =>
    split
    · refine List.pairwise_cons.2 ⟨?_, (h _ body).under .body⟩
      refine List.forall_mem_map.2 fun b _ hpath => ?_
      cases hpath
    · exact hitself
  · exact hitself

mutual

/-- An element begins nothing twice. -/
theorem distinct_begunElement (h : ∀ round document, Distinct (inside round document))
    (e : Element) : Distinct (p.begunElement process inside scope start e) := by
  match e with
  | .text s => exact .nil
  | .pending i cell => exact distinct_begunInclude h i
  | .attempt queue except cell =>
    have hturns : Turn.attempt ≠ .except := by decide
    have hexcept : ∀ attempt, Distinct (begunExcept inside attempt except) := by
      intro attempt
      unfold begunExcept
      split
      · exact h _ _
      · exact .nil
    rw [begunElement]
    exact (distinct_together (distinct_begunElements h queue) _).append (hexcept _) hturns

theorem distinct_begunElements (h : ∀ round document, Distinct (inside round document))
    (es : List Element) : ∀ bs ∈ p.begunElements process inside scope start es, Distinct bs := by
  match es with
  | [] => exact fun bs hbs => absurd hbs List.not_mem_nil
  | e :: es =>
    exact List.forall_mem_cons.2 ⟨distinct_begunElement h e, distinct_begunElements h es⟩

end

theorem distinct_begunPass {process : Store → Nat → Text → Scope → Course}
    {inside : Store → Nat → Text → Scope → List Begun}
    (h : ∀ store round document scope, Distinct (inside store round document scope))
    (start : Nat) (pass : Pass) : Distinct (p.begunPass process inside start pass) :=
  distinct_together (distinct_begunElements (fun round document => h _ round document _) _) _

/-- A document that is processed begins nothing twice. -/
theorem distinct_begunProcess (depth : Nat) (store : Store) (start : Nat) (document : Text)
    (scope : Scope) : Distinct (p.begunProcess depth store start document scope) := by
  induction depth generalizing store start document scope with
  | zero => exact .nil
  | succ depth ih => exact distinct_begunPass ih start _

end Processor

end EdgeInclude
