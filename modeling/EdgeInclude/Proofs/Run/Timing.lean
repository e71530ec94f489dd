import EdgeInclude.Proofs.Run.Sequential
import Mathlib.Data.List.Basic

/-!
# Timing

How long requests take decides which of several failures comes first, and with it
what happens at all. It does not decide whether a document can be assembled, nor
what its text is. A run that a fault breaks off has no text; see `Outcome.exit`.

Results:
* `agrees_join`: courses side by side agree with others if each of them agrees
  with its counterpart, in whichever rounds they end.
* `process_agrees`: documents come to the same text with all delays.
* `text_independent_of_delays`: so it is seen from the outside, and it is the text
  that comes from resolving the elements one after another.
-/

namespace EdgeInclude

namespace Course

/-- Whether two courses, as far as their ends are known, both come to a good end with the same
    text or both do not. -/
def Agrees (c d : Course) : Prop :=
  ∀ r s, c.ending = some r → d.ending = some s → r.toOption = s.toOption

theorem Agrees.symm {c d : Course} (h : c.Agrees d) : d.Agrees c :=
  fun r s hr hs => (h s r hs hr).symm

theorem agrees_unknown (round : Nat) (d : Course) : (unknown round).Agrees d :=
  fun _ _ hr => by cases hr

theorem agrees_done (n m : Nat) (s : Text) : (done n s).Agrees (done m s) := by
  rintro r r' ⟨⟩ ⟨⟩
  rfl

theorem agrees_fail (n m : Nat) (e e' : Error) : (fail n e).Agrees (fail m e') := by
  rintro r r' ⟨⟩ ⟨⟩
  rfl

theorem Agrees.note {c d : Course} (h : c.Agrees d) (n m : Nat) (es fs : List Event) :
    (Course.note n es c).Agrees (Course.note m fs d) := h

/-- Courses that end in a related way agree if what follows does. -/
theorem agrees_andThen {R : Except Error Text → Except Error Text → Prop} {c d : Course}
    {next next' : Nat → Except Error Text → Course}
    (h : ∀ r s, c.ending = some r → d.ending = some s → R r s)
    (hnext : ∀ n m r s, R r s → (next n r).Agrees (next' m s)) :
    (c.andThen next).Agrees (d.andThen next') := by
  unfold andThen
  cases hc : c.ending with
  | none => intro r s hr; rw [hc] at hr; cases hr
  | some r =>
    cases hd : d.ending with
    | none => intro r s _ hs; rw [hd] at hs; cases hs
    | some s => exact hnext _ _ r s (h r s hc hd)

/-! ## Side by side -/

section

variable {α : Type} {f g : α → Course} {xs : List α} {n m : Nat}

theorem filterMap_text?_eq (h : ∀ x ∈ xs, (f x).Agrees (g x))
    (hf : ∀ x ∈ xs, (f x).stops = false) (hg : ∀ x ∈ xs, (g x).stops = false) :
    (xs.map f).filterMap text? = (xs.map g).filterMap text? := by
  rw [List.filterMap_map, List.filterMap_map]
  refine List.filterMap_congr fun x hx => ?_
  obtain ⟨s, hs, hsending⟩ := ending_of_stops_eq_false (hf x hx)
  obtain ⟨t, ht, htending⟩ := ending_of_stops_eq_false (hg x hx)
  rw [Function.comp_apply, Function.comp_apply, hs, ht]
  exact h x hx _ _ hsending htending

/-- If one of several courses fails, those that agree with them do not all come to a good
    end. -/
theorem not_all_done (h : ∀ x ∈ xs, (f x).Agrees (g x)) (hf : ∀ x ∈ xs, (f x).stops = false)
    {d : Course} (hd : d ∈ xs.map g) {e : Error} (he : d.ending = some (.error e)) : False := by
  obtain ⟨x, hx, rfl⟩ := List.mem_map.1 hd
  obtain ⟨s, -, hs⟩ := ending_of_stops_eq_false (hf x hx)
  cases h x hx _ _ hs he

theorem agrees_join (h : ∀ x ∈ xs, (f x).Agrees (g x)) :
    (join n (xs.map f)).Agrees (join m (xs.map g)) := by
  intro r s hr hs
  -- Which of several failures comes first depends on the rounds; that there is one does not.
  obtain ⟨hf, rfl⟩ | ⟨c, hc, e, hce, rfl⟩ := ending_join hr <;>
    obtain ⟨hg, rfl⟩ | ⟨d, hd, e', hde, rfl⟩ := ending_join hs
  · rw [filterMap_text?_eq h (List.forall_mem_map.1 hf) (List.forall_mem_map.1 hg)]
  · exact (not_all_done h (List.forall_mem_map.1 hf) hd hde).elim
  · exact (not_all_done (fun x hx => (h x hx).symm) (List.forall_mem_map.1 hg) hc hce).elim
  · rfl

end

end Course

namespace Processor

open Course

variable {p : Processor} {delay : Text → Nat} {n m : Nat}

/-! ## Includes -/

/-- The end of an include's requests does not depend on how long they take. -/
theorem ending_fetchInclude (i : Include) :
    (p.fetchInclude n i).ending = (p.askInclude i).ending := by
  unfold fetchInclude askInclude request ask Course.andThen Resolution.andThen
  dsimp only
  cases p.fetcher.answer (p.requestUrl i.src) with
  | ok body => rfl
  | error e => cases i.alt <;> rfl

variable {process process' : Nat → Text → Scope → Course} {layer : Cell → Scope}

theorem runInclude_agrees
    (h : ∀ n m document scope, (process n document scope).Agrees (process' m document scope))
    (scope : Scope) (i : Include) :
    (p.runInclude process scope n i).Agrees
      ((p.withDelay delay).runInclude process' scope m i) := by
  refine agrees_andThen (R := Eq) (fun r s hr hs => ?_) ?_
  · rw [ending_fetchInclude] at hr hs
    exact Option.some.inj (hr.symm.trans hs)
  · rintro n m r _ rfl
    match r, i.reprocess, i.continueOnError with
    | .ok body, true, _ => exact h n m body scope
    | .ok body, false, _ => exact agrees_done _ _ _
    | .error e, _, true => exact (agrees_done _ _ _).note _ _ _ _
    | .error e, _, false => exact (agrees_fail _ _ _ _).note _ _ _ _

/-! ## Elements -/

mutual

/-- An element comes to the same text with all delays. -/
theorem runElement_agrees
    (h : ∀ n m document scope, (process n document scope).Agrees (process' m document scope))
    (e : Element) :
    (p.runElement process layer n e).Agrees
      ((p.withDelay delay).runElement process' layer m e) := by
  match e with
  | .text s => exact agrees_done n m s
  | .pending i cell => exact runInclude_agrees h (layer cell) i
  | .attempt queue except cell =>
    refine agrees_andThen (R := fun r s => r.toOption = s.toOption) ?_ ?_
    · rw [runElements_eq_map, runElements_eq_map]
      exact agrees_join (runElements_agrees h queue)
    · intro n m r s hrs
      match r, s, except with
      | .ok s, .ok t, _ =>
        obtain rfl : s = t := Option.some.inj hrs
        exact agrees_done n m s
      | .ok _, .error _, _ => cases hrs
      | .error _, .ok _, _ => cases hrs
      | .error _, .error _, none => exact agrees_fail _ _ _ _
      | .error _, .error _, some document => exact (h n m document (layer cell)).note _ _ _ _

theorem runElements_agrees
    (h : ∀ n m document scope, (process n document scope).Agrees (process' m document scope))
    (es : List Element) :
    ∀ e ∈ es, (p.runElement process layer n e).Agrees
      ((p.withDelay delay).runElement process' layer m e) := by
  match es with
  | [] => exact fun e he => absurd he List.not_mem_nil
  | e :: es =>
    have hhead := runElement_agrees h e
    have htail := runElements_agrees h es
    exact List.forall_mem_cons.2 ⟨hhead, htail⟩

end

/-! ## Documents -/

theorem runPass_agrees {process process' : Store → Nat → Text → Scope → Course}
    (h : ∀ store n m document scope,
      (process store n document scope).Agrees (process' store m document scope))
    (pass : Pass) :
    (p.runPass process n pass).Agrees ((p.withDelay delay).runPass process' m pass) := by
  refine Agrees.note ?_ _ _ _ _
  rw [runElements_eq_map, runElements_eq_map]
  exact agrees_join (runElements_agrees (h pass.store) pass.plan.queue)

/-- A document comes to the same text with all delays. -/
theorem process_agrees (depth depth' : Nat) (store : Store) (document : Text) (scope : Scope) :
    (p.process depth store n document scope).Agrees
      ((p.withDelay delay).process depth' store m document scope) := by
  induction depth generalizing depth' store n m document scope with
  | zero => exact agrees_unknown _ _
  | succ depth ih =>
    cases depth' with
    | zero => exact (agrees_unknown _ _).symm
    | succ depth' =>
      exact runPass_agrees (fun store n m document scope => ih depth' store document scope) _

theorem toOption_of_interpret? {limit limit' : Nat} {substitute : Bool} {document : Text}
    {scope : Scope} {o o' : Outcome} (h : p.interpret? limit substitute document scope = some o)
    (h' : (p.withDelay delay).interpret? limit' substitute document scope = some o') :
    o.result.toOption = o'.result.toOption := by
  obtain ⟨depth, hwithin⟩ := interpretWithin?_of_interpret? h
  obtain ⟨depth', hwithin'⟩ := interpretWithin?_of_interpret? h'
  obtain ⟨result, hend, rfl⟩ := Option.map_eq_some_iff.1 hwithin
  obtain ⟨result', hend', rfl⟩ := Option.map_eq_some_iff.1 hwithin'
  exact runPass_agrees (fun store n m document scope => process_agrees depth depth' store document
    scope) _ _ _ hend hend'

/-- For every document, with all delays: whenever two runs that differ in nothing but the
    delays of their requests come to an end, one is successful exactly if the other is, and
    then their texts are the same. It is the text that comes from resolving the elements of
    each level one after another, in document order. If no request takes any time, the run
    also makes the same requests in the same order as this, and ends with the same error. -/
theorem text_independent_of_delays (p : Processor) (delay : Text → Nat) (substitute : Bool)
    (document : Text) (scope : Scope) :
    (∀ limit limit' o o', p.interpret? limit substitute document scope = some o →
      (p.withDelay delay).interpret? limit' substitute document scope = some o' →
        ∀ s, o.result = .ok s ↔ o'.result = .ok s) ∧
    (∀ limit limit' o o', p.interpret? limit substitute document scope = some o →
      p.sequential? limit' substitute document scope = some o' →
        ∀ s, o.result = .ok s ↔ o'.result = .ok s) ∧
    ∀ limit, (p.withDelay fun _ => 0).interpret? limit substitute document scope =
      p.sequential? limit substitute document scope := by
  have htexts : ∀ {r r' : Except Error Text}, r.toOption = r'.toOption →
      ∀ s, r = .ok s ↔ r' = .ok s := by
    intro r r' h s
    cases r <;> cases r' <;> simp_all [Except.toOption]
  refine ⟨fun _ _ _ _ h h' => htexts (toOption_of_interpret? h h'), fun _ limit' _ _ h h' => ?_,
    fun limit => interpret?_instant limit substitute document scope⟩
  rw [← interpret?_instant] at h'
  exact htexts (toOption_of_interpret? h h')

end Processor

end EdgeInclude
