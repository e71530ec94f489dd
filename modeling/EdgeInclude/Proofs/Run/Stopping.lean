import EdgeInclude.Proofs.Run.Begun

/-!
# Includes that fail

An include that has been begun fails in the round in which its last request does, unless
it is past its deadline then. If the failure gets out of the element of a queue in which it
comes about, it stops the queue, and with it all that is inside of the other elements. The
includes that have been begun explain how a course goes if one of them fails it when it
fails, and if each deadline that there is among them comes from a queue that is stopped.

Results:
* `FailsAt.until?`: an include that fails before a further deadline fails under it as well.
* `StoppedBy.until?`, `StoppedBy.under`: a queue is stopped by a failure also where a further
  deadline is set later on, and where it is seen from further out.
* `Explains.after`: what explains a course explains it after another one.
* `explains_join`: what explains each of several courses explains them side by side.
-/

namespace EdgeInclude

open Begun

/-- An include that does not go on after errors and fails in a round with the given error: the
    first URL, as it is written, and the answer to the last request, of the other URL if there
    is one. -/
def Begun.FailsAt (p : Processor) (round : Nat) (e : Error) (b : Begun) : Prop :=
  let url := p.requestUrl (b.content.alt.getD b.content.src)
  b.content.continueOnError = false ∧ b.goesOn round = true ∧
    (∃ last, (b.requests p).getLast? = some (last, .request url) ∧
      last + p.fetcher.delay url = round) ∧
    ∃ cause, p.fetcher.answer url = .error cause ∧ e = .unresolvedInclude b.content.src cause

/-- The queue at the end of a path is stopped in a round: an include in the element at the position
    `first`, or inside of that, fails then, and nothing in any other element, or inside of it, goes
    on for longer than its position allows. -/
structure QueueStops (p : Processor) (begun : List Begun) (queue : List Turn)
    (first round : Nat) : Prop where
  failure : ∃ b ∈ begun, ∃ e, queue ++ [.element first] <+: b.path ∧ b.FailsAt p round e
  others : ∀ b ∈ begun, ∀ j, j ≠ first → queue ++ [.element j] <+: b.path →
    ∃ deadline, b.deadline = some deadline ∧ deadline ≤ Course.cutoff j first round

/-- The deadline of an include comes from the failure of another one, which stops the queue that
    the include is in, or one around it, from another element of that queue. -/
def StoppedBy (p : Processor) (begun : List Begun) (path : List Turn) (deadline : Nat) : Prop :=
  ∃ queue j first round, j ≠ first ∧ queue ++ [.element j] <+: path ∧
    deadline = Course.cutoff j first round ∧ QueueStops p begun queue first round

/-- The includes that a course has begun explain how it goes: if it fails, one of them fails then,
    with the same error, and if one of them is under a deadline, that comes from a failure of
    another one, or it is not before the round up to which the course is known. -/
structure Explains (p : Processor) (begun : List Begun) (c : Course) : Prop where
  failure : ∀ e, c.ending = some (.error e) → ∃ b ∈ begun, b.FailsAt p c.finish e
  deadline : ∀ b ∈ begun, ∀ deadline, b.deadline = some deadline →
    StoppedBy p begun b.path deadline ∨ c.ending = none ∧ c.finish ≤ deadline

section

variable {p : Processor} {b : Begun} {begun later : List Begun} {round : Nat} {e : Error}
  {c d : Course}

theorem Begun.FailsAt.until? (h : b.FailsAt p round e) {deadline : Option Nat}
    (hdeadline : deadline.all (round < ·) = true) :
    ∃ b', Begun.until? deadline b = some b' ∧ b'.FailsAt p round e := by
  obtain ⟨hcontinue, hgoes, ⟨last, hlast, hround⟩, hcause⟩ := h
  have hbefore : ∀ r ≤ round, deadline.all (r < ·) = true := fun r => all_lt_of_le hdeadline
  obtain ⟨earlier, hrequests⟩ := List.getLast?_eq_some_iff.1 hlast
  have hstart : b.start ≤ last := start_le_of_mem_requests (List.mem_of_getLast? hlast)
  have huntil : Begun.until? deadline b =
      some { b with deadline := deadline.merge min b.deadline } := by
    unfold Begun.until?
    rw [if_pos (hbefore _ (by omega))]
  refine ⟨_, huntil, hcontinue, ?_, ⟨last, ?_, hround⟩, hcause⟩
  · unfold goesOn at hgoes ⊢
    rw [all_merge_min, hdeadline, hgoes]
    rfl
  · -- It makes the same requests, the last of them before the deadline.
    have hsame := requests_until? p deadline b
    rw [huntil, Option.toList_some, List.flatMap_singleton, hrequests, List.filter_append] at hsame
    rw [hsame, List.filter_singleton, hbefore last (by omega)]
    exact List.getLast?_concat

theorem StoppedBy.until? {path : List Turn} {deadline : Nat} (h : StoppedBy p begun path deadline)
    {further : Option Nat} (hfurther : further.all (deadline < ·) = true) :
    StoppedBy p (begun.filterMap (Begun.until? further)) path deadline := by
  obtain ⟨queue, j, first, round, hne, hpath, rfl, ⟨b, hb, e, hinside, hfails⟩, hothers⟩ := h
  refine ⟨queue, j, first, round, hne, hpath, rfl, ?_, fun b' hb' k hk hinside' => ?_⟩
  · have hbefore := all_lt_of_le hfurther (Course.le_cutoff j first round)
    obtain ⟨b', huntil, hfails'⟩ := hfails.until? hbefore
    refine ⟨b', List.mem_filterMap.2 ⟨b, hb, huntil⟩, e, ?_, hfails'⟩
    rw [eq_of_until? huntil]
    exact hinside
  · obtain ⟨b, hb, huntil⟩ := List.mem_filterMap.1 hb'
    rw [eq_of_until? huntil] at hinside'
    obtain ⟨own, hown, hle⟩ := hothers b hb k hk hinside'
    obtain ⟨least, hleast, hle'⟩ := exists_deadline_le_of_until? huntil (.inr hown)
    exact ⟨least, hleast, Nat.le_trans hle' hle⟩

/-- What stands behind one turn does not stand behind another one. -/
theorem head?_ne_of_mem_under {t u : Turn} (h : t ≠ u) :
    ∀ b ∈ begun.map (Begun.under u), b.path.head? ≠ some t :=
  List.forall_mem_map.2 fun _ _ hhead => h (Option.some.inj hhead).symm

/-- Seen from one turn further out, a queue is stopped as before, if nothing else is seen by the
    same turn. -/
theorem StoppedBy.under {path : List Turn} {deadline : Nat} (h : StoppedBy p begun path deadline)
    {t : Turn} {all : List Begun} (hsub : begun.map (Begun.under t) ⊆ all)
    (hall : ∀ b ∈ all, b ∈ begun.map (Begun.under t) ∨ b.path.head? ≠ some t) :
    StoppedBy p all (t :: path) deadline := by
  obtain ⟨queue, j, first, round, hne, hpath, rfl, ⟨b, hb, e, hinside, hfails⟩, hothers⟩ := h
  refine ⟨t :: queue, j, first, round, hne, List.cons_prefix_cons.2 ⟨rfl, hpath⟩, rfl, ?_, ?_⟩
  · exact ⟨b.under t, hsub (List.mem_map_of_mem hb), e,
      List.cons_prefix_cons.2 ⟨rfl, hinside⟩, hfails⟩
  · intro b' hb' k hk hinside'
    obtain hb' | helsewhere := hall b' hb'
    · obtain ⟨b, hb, rfl⟩ := List.mem_map.1 hb'
      exact hothers b hb k hk (List.cons_prefix_cons.1 hinside').2
    · obtain ⟨rest, hrest⟩ := hinside'
      rw [← hrest] at helsewhere
      exact absurd rfl helsewhere

namespace Explains

/-- Nothing has to be explained where a course comes to a good end and nothing is cut off. -/
theorem of_text {s : Text} (hc : c.ending = some (.ok s))
    (hbegun : ∀ b ∈ begun, b.deadline = none) :
    Explains p begun c where
  failure e he := by
    rw [hc] at he
    cases he
  deadline b hb deadline hdeadline := by
    rw [hbegun b hb] at hdeadline
    cases hdeadline

theorem of_unknown (hc : c.ending = none) : Explains p [] c where
  failure e he := by
    rw [hc] at he
    cases he
  deadline b hb := absurd hb List.not_mem_nil

/-- What happens in a course makes no difference to how it ends. -/
theorem congr (h : Explains p begun c) (hfinish : d.finish = c.finish)
    (hending : d.ending = c.ending) : Explains p begun d where
  failure e he := by
    rw [hfinish]
    exact h.failure e (hending.symm.trans he)
  deadline b hb deadline hdeadline := by
    rw [hfinish, hending]
    exact h.deadline b hb deadline hdeadline

/-- What explains a course explains it wherever it stands. -/
theorem under (h : Explains p begun c) (t : Turn) : Explains p (begun.map (Begun.under t)) c where
  failure e he := by
    obtain ⟨b, hb, hfails⟩ := h.failure e he
    exact ⟨b.under t, List.mem_map_of_mem hb, hfails⟩
  deadline := by
    refine List.forall_mem_map.2 fun b hb deadline hdeadline => ?_
    exact (h.deadline b hb deadline hdeadline).imp_left fun hstopped =>
      hstopped.under (List.Subset.refl _) fun _ => .inl

/-- What explains a course explains it after another one that has come to its end, if it stands
    elsewhere. -/
theorem after (hc : Explains p begun c) (hended : c.ending.isSome = true) (hd : Explains p later d)
    {t u : Turn} (hturns : t ≠ u) :
    Explains p (begun.map (Begun.under t) ++ later.map (Begun.under u)) d where
  failure e he := by
    obtain ⟨b, hb, hfails⟩ := (hd.under u).failure e he
    exact ⟨b, List.mem_append_right _ hb, hfails⟩
  deadline b hb deadline hdeadline := by
    obtain hb | hb := List.mem_append.1 hb
    · obtain ⟨own, hown, rfl⟩ := List.mem_map.1 hb
      obtain hstopped | ⟨hending, -⟩ := hc.deadline own hown deadline hdeadline
      · exact .inl (hstopped.under (List.subset_append_left _ _) fun b' hb' =>
          (List.mem_append.1 hb').imp_right (head?_ne_of_mem_under hturns b'))
      · rw [hending] at hended
        cases hended
    · obtain ⟨own, hown, rfl⟩ := List.mem_map.1 hb
      exact (hd.deadline own hown deadline hdeadline).imp_left fun hstopped =>
        hstopped.under (List.subset_append_right _ _) fun b' hb' =>
          (List.mem_append.1 hb').symm.imp_right (head?_ne_of_mem_under hturns.symm b')

/-- What explains the processing of a document explains it together with the include that has
    brought it. -/
theorem inside (h : Explains p begun c) (hpath : b.path = []) (hdeadline : b.deadline = none) :
    Explains p (b :: begun.map (Begun.under .body)) c where
  failure e he := by
    obtain ⟨b', hb', hfails⟩ := (h.under .body).failure e he
    exact ⟨b', List.mem_cons_of_mem _ hb', hfails⟩
  deadline b₁ hb₁ deadline hdeadline₁ := by
    obtain rfl | hb₁ := List.mem_cons.1 hb₁
    · rw [hdeadline] at hdeadline₁
      cases hdeadline₁
    · obtain ⟨own, hown, rfl⟩ := List.mem_map.1 hb₁
      refine (h.deadline own hown deadline hdeadline₁).imp_left fun hstopped => ?_
      refine hstopped.under (List.subset_cons_self _ _) fun b' hb' => ?_
      obtain rfl | hb' := List.mem_cons.1 hb'
      · exact .inr (by simp [hpath])
      · exact .inl hb'

end Explains

/-! ## Side by side -/

section

variable {begun : List (List Begun)} {cs : List Course} {start : Nat}

theorem exists_of_getElem? {α β : Type} {R : α → β → Prop} {as : List α} {bs : List β}
    (h : List.Forall₂ R as bs) {k : Nat} {a : α} (ha : as[k]? = some a) :
    ∃ b, bs[k]? = some b ∧ R a b := by
  obtain ⟨hlength, hget⟩ := List.forall₂_iff_get.1 h
  obtain ⟨hlt, rfl⟩ := List.getElem?_eq_some_iff.1 ha
  exact ⟨_, List.getElem?_eq_getElem (hlength ▸ hlt), hget k hlt (hlength ▸ hlt)⟩

/-- Of courses side by side, the one that stops the others is not cut off: all that it has begun is
    begun. -/
theorem exists_failsAt_together (h : List.Forall₂ (Explains p) begun cs) {first : Nat}
    (hfirst : Course.FirstStop start cs first c) (hfails : c.ending = some (.error e)) :
    ∃ b ∈ together cs begun, [.element first] <+: b.path ∧ b.FailsAt p c.finish e := by
  obtain ⟨bs, hbs, hexplains⟩ := exists_of_getElem? h.flip hfirst.atPosition
  obtain ⟨b, hb, hfailsAt⟩ := hexplains.failure e hfails
  have hmem : b.under (.element first) ∈ together cs begun :=
    mem_together_iff.2 ⟨first, none, bs, hfirst.free, hbs, b, hb, b, until?_none b, rfl⟩
  exact ⟨_, hmem, ⟨b.path, rfl⟩, hfailsAt⟩

/-- If one of several courses side by side fails first, the queue of them is stopped. -/
theorem queueStops_together (h : List.Forall₂ (Explains p) begun cs) {first : Nat}
    (hfirst : Course.FirstStop start cs first c) (hfails : c.ending = some (.error e)) :
    QueueStops p (together cs begun) [] first c.finish where
  failure := by
    obtain ⟨b, hb, hinside, hfailsAt⟩ := exists_failsAt_together h hfirst hfails
    exact ⟨b, hb, e, hinside, hfailsAt⟩
  others b hb j hj hinside := by
    obtain ⟨k, deadline, bs, hdeadline, hbs, b', hb', b'', huntil, rfl⟩ := mem_together_iff.1 hb
    -- The first turn of its path is that of its course.
    obtain ⟨hturn, -⟩ := List.cons_prefix_cons.1 hinside
    obtain rfl := Turn.element.inj hturn
    obtain ⟨d, hd, -⟩ := exists_of_getElem? h hbs
    obtain ⟨hcutoff, -⟩ := hfirst.others j d hd hj
    rw [hcutoff] at hdeadline
    have hle := exists_deadline_le_of_until? huntil (.inl (Option.some.inj hdeadline).symm)
    exact hle

/-- A deadline that is set by the stop of courses side by side comes from the one that fails
    first, or they are not known any further. -/
theorem stoppedBy_of_deadlines (h : List.Forall₂ (Explains p) begun cs) (start : Nat) {j : Nat}
    {deadline : Nat} (hd : cs[j]? = some d)
    (hdeadline : (Course.deadlines cs)[j]? = some (some deadline)) (path : List Turn) :
    StoppedBy p (together cs begun) (.element j :: path) deadline ∨
      (Course.join start cs).ending = none ∧ (Course.join start cs).finish ≤ deadline := by
  obtain ⟨-, hnone⟩ | ⟨first, c, hfirst⟩ := Course.firstStop_cases start cs
  · cases hnone _ (List.mem_of_getElem? hdeadline)
  · have hne : j ≠ first := by
      rintro rfl
      rw [hfirst.free] at hdeadline
      cases hdeadline
    obtain ⟨hcutoff, -⟩ := hfirst.others j d hd hne
    rw [hcutoff] at hdeadline
    obtain rfl := Option.some.inj (Option.some.inj hdeadline)
    rw [hfirst.ending, hfirst.finish]
    cases hending : c.ending with
    | none => exact .inr ⟨rfl, Course.le_cutoff j first c.finish⟩
    | some result =>
      cases result with
      | ok s =>
        have hstops := hfirst.stops
        rw [Course.stops, Course.text?, hending] at hstops
        cases hstops
      | error e =>
        exact .inl ⟨[], j, first, c.finish, hne, ⟨path, rfl⟩, rfl,
          queueStops_together h hfirst hending⟩

/-- What stops a queue inside of one of several courses stops it as well where they run side by
    side, if it does so before the deadline of the course. -/
theorem StoppedBy.together {j : Nat} {further : Option Nat} {bs : List Begun} {path : List Turn}
    {deadline : Nat} (h : StoppedBy p bs path deadline) (hbs : begun[j]? = some bs)
    (hfurther : (Course.deadlines cs)[j]? = some further)
    (hbefore : further.all (deadline < ·) = true) :
    StoppedBy p (together cs begun) (.element j :: path) deadline := by
  refine (h.until? hbefore).under (fun b hb => ?_) fun b hb => ?_
  · obtain ⟨b'', hb'', rfl⟩ := List.mem_map.1 hb
    obtain ⟨b', hb', huntil⟩ := List.mem_filterMap.1 hb''
    exact mem_together_iff.2 ⟨j, further, bs, hfurther, hbs, b', hb', b'', huntil, rfl⟩
  · obtain ⟨k, further', bs', hfurther', hbs', b', hb', b'', huntil, rfl⟩ := mem_together_iff.1 hb
    by_cases hk : k = j
    · subst hk
      obtain rfl := Option.some.inj (hfurther.symm.trans hfurther')
      obtain rfl := Option.some.inj (hbs.symm.trans hbs')
      exact .inl (List.mem_map_of_mem (List.mem_filterMap.2 ⟨b', hb', huntil⟩))
    · exact .inr (by simp [hk])

/-- What explains each of several courses explains them side by side. -/
theorem explains_join (h : List.Forall₂ (Explains p) begun cs) (start : Nat) :
    Explains p (together cs begun) (Course.join start cs) where
  failure e he := by
    obtain ⟨hall, -⟩ | ⟨first, c, hfirst⟩ := Course.firstStop_cases start cs
    · rw [Course.join_done hall] at he
      cases he
    · rw [hfirst.ending] at he
      obtain ⟨b, hb, -, hfailsAt⟩ := exists_failsAt_together h hfirst he
      exact ⟨b, hb, hfirst.finish ▸ hfailsAt⟩
  deadline b hb deadline hdeadline := by
    obtain ⟨j, further, bs, hfurther, hbs, b', hb', b'', huntil, rfl⟩ := mem_together_iff.1 hb
    obtain ⟨d, hd, hexplains⟩ := exists_of_getElem? h hbs
    obtain rfl | ⟨hown, hbefore⟩ := deadline_of_until? huntil hdeadline
    · exact stoppedBy_of_deadlines h start hd hfurther b''.path
    · obtain hstopped | ⟨hending, hfinish⟩ := hexplains.deadline b' hb' deadline hown
      · rw [eq_of_until? huntil]
        exact .inl (hstopped.together hbs hfurther hbefore)
      · -- The course is not known any further, so it is the one that stops the whole.
        have hstops : d.stops = true := by
          rw [Course.stops, Course.text?, hending]
          rfl
        have hfirst := Course.firstStop_of_stops start hd hstops hfurther
          (all_lt_of_le hbefore hfinish)
        exact .inr ⟨hfirst.ending.trans hending, hfirst.finish ▸ hfinish⟩

end

end

end EdgeInclude
