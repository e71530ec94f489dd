import EdgeInclude.Proofs.Plan.Quiet
import EdgeInclude.Proofs.Run.Deadline
import EdgeInclude.Run.Basic
import Mathlib.Data.List.Forall2

/-!
# Includes that have been begun

What an include requests: its first URL in the round in which it is begun, and its other
URL in the round in which the first request fails, unless that is past its deadline. The
includes that have been begun account for events if these hold the requests of each of
them, and no other request. Each has a path, which says where it stands: by the position of
an element in a queue, and by the queue that is inside of an element.

Results:
* `requests_until?`: an include under a further deadline requests what it would request
  otherwise before that deadline.
* `Accounts.append`, `Accounts.eventsUntil`, `Accounts.byRound`: what accounts for the parts
  of a run accounts for the run.
* `accounts_join`: so it does for courses side by side.
-/

namespace EdgeInclude

open Event

/-- A turn on the way from a queue to what is inside of it. -/
inductive Turn where
  /-- To an element of the queue. -/
  | element (position : Nat)
  /-- From an include to the queue of the document that it brings. -/
  | body
  /-- From a block to the queue of what it attempts. -/
  | attempt
  /-- From a block to the queue of its other part. -/
  | except
  deriving DecidableEq

/-- An include that has been begun. -/
structure Begun where
  /-- The turns on the way to it. -/
  path : List Turn
  content : Include
  /-- The round in which it is begun. -/
  start : Nat
  /-- The round from which on it does not go on, if an element next to it, or next to one that it
      is part of, has stopped. -/
  deadline : Option Nat
  deriving DecidableEq

namespace Begun

/-- An include as it is seen from one turn further out. -/
def under (t : Turn) (b : Begun) : Begun := { b with path := t :: b.path }

/-- Whether an include goes on in a round. -/
def goesOn (b : Begun) (round : Nat) : Bool := b.deadline.all (round < ·)

/-- The further request of an include that is begun in a round, if the first one fails and there
    is another URL. -/
def further? (p : Processor) (start : Nat) (i : Include) : Option (Nat × Event) :=
  match p.fetcher.answer (p.requestUrl i.src), i.alt with
  | .error _, some alt =>
    some (start + p.fetcher.delay (p.requestUrl i.src), .request (p.requestUrl alt))
  | _, _ => none

/-- The requests of an include, each with its round. -/
def requests (p : Processor) (b : Begun) : List (Nat × Event) :=
  (b.start, .request (p.requestUrl b.content.src)) ::
    (further? p b.start b.content).toList.filter fun e => b.goesOn e.1

/-- An include under a further deadline, if it is begun before that. -/
def until? (deadline : Option Nat) (b : Begun) : Option Begun :=
  if deadline.all (b.start < ·) then some { b with deadline := deadline.merge min b.deadline }
  else none

/-- The includes of a queue, from those of each of its elements. -/
def ofQueue (begun : List (List Begun)) : List Begun :=
  (begun.mapIdx fun k bs => bs.map (under (.element k))).flatten

/-- The includes that are begun by courses side by side, from those that each begins. -/
def together (cs : List Course) (begun : List (List Begun)) : List Begun :=
  ofQueue (List.zipWith (fun deadline bs => bs.filterMap (until? deadline)) (Course.deadlines cs)
    begun)

variable {p : Processor} {b : Begun}

@[simp] theorem under_path (t : Turn) (b : Begun) : (b.under t).path = t :: b.path := rfl

@[simp] theorem under_content (t : Turn) (b : Begun) : (b.under t).content = b.content := rfl

@[simp] theorem under_deadline (t : Turn) (b : Begun) : (b.under t).deadline = b.deadline := rfl

@[simp] theorem requests_under (t : Turn) (b : Begun) : (b.under t).requests p = b.requests p :=
  rfl

theorem mem_ofQueue_iff {begun : List (List Begun)} :
    b ∈ ofQueue begun ↔
      ∃ k bs, begun[k]? = some bs ∧ ∃ b' ∈ bs, under (.element k) b' = b := by
  rw [ofQueue, List.mem_flatten]
  constructor
  · rintro ⟨l, hl, hb⟩
    obtain ⟨k, hk⟩ := List.mem_iff_getElem?.1 hl
    rw [List.getElem?_mapIdx] at hk
    obtain ⟨bs, hbs, rfl⟩ := Option.map_eq_some_iff.1 hk
    exact ⟨k, bs, hbs, List.mem_map.1 hb⟩
  · rintro ⟨k, bs, hbs, hb⟩
    refine ⟨_, List.mem_iff_getElem?.2 ⟨k, ?_⟩, List.mem_map.2 hb⟩
    rw [List.getElem?_mapIdx, hbs, Option.map_some]

/-- Where includes stand makes no difference to what they request. -/
theorem map_requests_ofQueue (p : Processor) (begun : List (List Begun)) :
    (ofQueue begun).map (requests p) = begun.flatten.map (requests p) := by
  have hsame : ∀ (k : Nat) (bs : List Begun),
      (bs.map (under (.element k))).map (requests p) = bs.map (requests p) := by
    intro k bs
    rw [List.map_map]
    rfl
  rw [ofQueue, List.map_flatten, List.map_flatten]
  congr 1
  refine List.ext_getElem? fun k => ?_
  rw [List.getElem?_map, List.getElem?_mapIdx, Option.map_map, List.getElem?_map]
  exact congrArg (fun f => Option.map f begun[k]?) (funext (hsame k))

theorem start_le_of_mem_requests {e : Nat × Event} (h : e ∈ b.requests p) : b.start ≤ e.1 := by
  obtain rfl | h := List.mem_cons.1 h
  · exact Nat.le_refl _
  · have hfurther := Option.mem_toList.1 (List.mem_filter.1 h).1
    unfold further? at hfurther
    split at hfurther
    · cases hfurther
      exact Nat.le_add_right _ _
    · cases hfurther

theorem pairwise_requests (p : Processor) (b : Begun) :
    (b.requests p).Pairwise fun e e' => decide (e.1 ≤ e'.1) = true := by
  have hhead : ∀ e ∈ b.requests p, decide (b.start ≤ e.1) = true := by
    intro e he
    exact decide_eq_true (start_le_of_mem_requests he)
  unfold requests at hhead ⊢
  refine List.pairwise_cons.2 ⟨fun e he => hhead e (List.mem_cons_of_mem _ he), ?_⟩
  cases further? p b.start b.content with
  | none => exact .nil
  | some e => exact (List.pairwise_singleton _ e).filter _

theorem all_lt_of_le {d : Option Nat} {r round : Nat} (h : d.all (round < ·) = true)
    (hle : r ≤ round) : d.all (r < ·) = true := by
  cases d with
  | none => rfl
  | some deadline =>
    simp only [Option.all_some, decide_eq_true_eq] at h ⊢
    omega

theorem all_merge_min (d d' : Option Nat) (round : Nat) :
    (d.merge min d').all (round < ·) = (d.all (round < ·) && d'.all (round < ·)) := by
  cases d with
  | none => cases d' <;> rfl
  | some r =>
    cases d' with
    | none => simp [Option.merge]
    | some r' =>
      show decide (round < min r r') = (decide (round < r) && decide (round < r'))
      rw [← Bool.decide_and]
      exact decide_eq_decide.2 Nat.lt_min

theorem until?_none (b : Begun) : until? none b = some b := by
  obtain ⟨path, content, start, deadline⟩ := b
  cases deadline <;> rfl

/-- A further deadline changes nothing but the deadline. -/
theorem eq_of_until? {d : Option Nat} {b b' : Begun} (h : until? d b = some b') :
    b' = { b with deadline := d.merge min b.deadline } := by
  unfold until? at h
  split at h
  · exact (Option.some.inj h).symm
  · cases h

/-- Under a further deadline, an include has that one or the one that it has otherwise, whichever
    is earlier. -/
theorem deadline_of_until? {d : Option Nat} {b b' : Begun} {round : Nat}
    (h : until? d b = some b') (hdeadline : b'.deadline = some round) :
    d = some round ∨ b.deadline = some round ∧ d.all (round < ·) = true := by
  rw [eq_of_until? h] at hdeadline
  change d.merge min b.deadline = some round at hdeadline
  cases hd : d with
  | none => simpa [hd] using hdeadline
  | some further =>
    cases hown : b.deadline with
    | none => simpa [hd, hown] using hdeadline
    | some own =>
      simp only [hd, hown, Option.merge, Option.some.injEq] at hdeadline
      simp only [Option.some.injEq, Option.all_some, decide_eq_true_eq]
      omega

/-- Under a further deadline, an include stops no later than by that one, and no later than by the
    one that it has otherwise. -/
theorem exists_deadline_le_of_until? {d : Option Nat} {b b' : Begun} {round : Nat}
    (h : until? d b = some b') (hround : d = some round ∨ b.deadline = some round) :
    ∃ deadline, b'.deadline = some deadline ∧ deadline ≤ round := by
  rw [eq_of_until? h]
  show ∃ deadline, d.merge min b.deadline = some deadline ∧ deadline ≤ round
  obtain rfl | hown := hround
  · cases b.deadline with
    | none => exact ⟨round, rfl, Nat.le_refl round⟩
    | some own => exact ⟨min round own, rfl, Nat.min_le_left round own⟩
  · rw [hown]
    cases d with
    | none => exact ⟨round, rfl, Nat.le_refl round⟩
    | some further => exact ⟨min further round, rfl, Nat.min_le_right further round⟩

/-- Under a further deadline, an include requests what it would request otherwise before it. -/
theorem requests_until? (p : Processor) (d : Option Nat) (b : Begun) :
    (until? d b).toList.flatMap (requests p) =
      (b.requests p).filter fun e => d.all (e.1 < ·) := by
  unfold until?
  split
  · next hstart =>
    rw [Option.toList_some, List.flatMap_singleton]
    simp only [requests, goesOn, List.filter_cons, hstart, if_true, all_merge_min,
      List.filter_filter]
  · next hstart =>
    -- Nothing of the include happens before it is begun.
    refine (List.filter_eq_nil_iff.2 fun e he => ?_).symm
    have hle := start_le_of_mem_requests he
    cases d with
    | none => simp at hstart
    | some round =>
      simp only [Option.all_some, decide_eq_true_eq] at hstart ⊢
      omega

end Begun

open Begun

/-- The includes that have been begun account for events: the requests among the events are those
    of the includes, and the events hold the requests of each include in their order. -/
structure Accounts (p : Processor) (begun : List Begun) (events : List (Nat × Event)) : Prop where
  perm : (events.filter fun e => e.2.request?.isSome).Perm (begun.flatMap (Begun.requests p))
  inOrder : ∀ b ∈ begun, (b.requests p).Sublist events

namespace Accounts

variable {p : Processor} {begun later : List Begun} {events more : List (Nat × Event)}

theorem of_quiet (h : ∀ e ∈ events, e.2.request? = none) : Accounts p [] events where
  perm := by
    rw [List.filter_eq_nil_iff.2 fun e he => by simp [h e he]]
    exact .nil
  inOrder := fun b hb => absurd hb List.not_mem_nil

theorem nil : Accounts p [] [] := of_quiet fun _ he => absurd he List.not_mem_nil

theorem append (h : Accounts p begun events) (hmore : Accounts p later more) :
    Accounts p (begun ++ later) (events ++ more) where
  perm := by
    rw [List.filter_append, List.flatMap_append]
    exact h.perm.append hmore.perm
  inOrder := by
    intro b hb
    obtain hb | hb := List.mem_append.1 hb
    · exact (h.inOrder b hb).trans (List.sublist_append_left _ _)
    · exact (hmore.inOrder b hb).trans (List.sublist_append_right _ _)

/-- What is begun accounts for events wherever it stands. -/
theorem under (h : Accounts p begun events) (t : Turn) :
    Accounts p (begun.map (Begun.under t)) events where
  perm := by
    rw [List.flatMap_map]
    exact h.perm
  inOrder := List.forall_mem_map.2 h.inOrder

theorem ofQueue {begun : List (List Begun)} (h : Accounts p begun.flatten events) :
    Accounts p (Begun.ofQueue begun) events where
  perm := by
    rw [List.flatMap_def, map_requests_ofQueue, ← List.flatMap_def]
    exact h.perm
  inOrder := by
    intro b hb
    obtain ⟨k, bs, hbs, b', hb', rfl⟩ := mem_ofQueue_iff.1 hb
    exact h.inOrder b' (List.mem_flatten_of_mem (List.mem_of_getElem? hbs) hb')

/-- Lines in the log need no include to account for them. -/
theorem note {c : Course} (h : Accounts p begun c.events) (round : Nat) {noted : List Event}
    (hnoted : Quiet noted) : Accounts p begun (Course.note round noted c).events := by
  have hquiet : ∀ e ∈ noted.map (round, ·), e.2.request? = none := by
    intro e he
    obtain ⟨event, hevent, rfl⟩ := List.mem_map.1 he
    exact hnoted event hevent
  exact (of_quiet hquiet).append h

theorem eventsUntil {c : Course} (h : Accounts p begun c.events) (deadline : Option Nat) :
    Accounts p (begun.filterMap (until? deadline)) (c.eventsUntil deadline) where
  perm := by
    have hflat : (begun.filterMap (until? deadline)).flatMap (Begun.requests p) =
        (begun.flatMap (Begun.requests p)).filter fun e => deadline.all (e.1 < ·) := by
      clear h
      induction begun with
      | nil => rfl
      | cons b begun ih =>
        rw [List.flatMap_cons, List.filter_append, ← requests_until?, ← ih, List.filterMap_cons]
        cases until? deadline b <;> simp
    rw [hflat, Course.eventsUntil, List.filter_comm]
    exact h.perm.filter _
  inOrder := by
    intro b' hb'
    obtain ⟨b, hb, huntil⟩ := List.mem_filterMap.1 hb'
    have hrequests := requests_until? p deadline b
    rw [huntil, Option.toList_some, List.flatMap_singleton] at hrequests
    rw [hrequests]
    exact (h.inOrder b hb).filter _

/-- The order of events in different rounds makes no difference. -/
theorem byRound (h : Accounts p begun events) : Accounts p begun (Course.byRound events) where
  perm := ((List.mergeSort_perm events _).filter _).trans h.perm
  inOrder := by
    intro b hb
    refine List.sublist_mergeSort ?_ ?_ (pairwise_requests p b) (h.inOrder b hb)
    · intro x y z hxy hyz
      simp only [decide_eq_true_eq] at *
      omega
    · intro x y
      simp only [Bool.or_eq_true, decide_eq_true_eq]
      omega

theorem zipWith {begun : List (List Begun)} {cs : List Course}
    (h : List.Forall₂ (fun bs c => Accounts p bs c.events) begun cs)
    (deadlines : List (Option Nat)) :
    Accounts p
      (List.zipWith (fun deadline bs => bs.filterMap (until? deadline)) deadlines begun).flatten
      (List.zipWith Course.eventsUntil deadlines cs).flatten := by
  induction h generalizing deadlines with
  | nil => cases deadlines <;> exact nil
  | cons hc _ ih =>
    cases deadlines with
    | nil => exact nil
    | cons deadline deadlines => exact (hc.eventsUntil deadline).append (ih deadlines)

end Accounts

/-- What accounts for courses accounts for them side by side. -/
theorem accounts_join {p : Processor} {begun : List (List Begun)} {cs : List Course}
    (h : List.Forall₂ (fun bs c => Accounts p bs c.events) begun cs) (start : Nat) :
    Accounts p (together cs begun) (Course.join start cs).events := by
  rw [Course.events_join]
  exact (Accounts.zipWith h _).byRound.ofQueue

/-- Whatever is begun by courses side by side is begun by one of them, up to the deadline of
    that. -/
theorem mem_together_iff {begun : List (List Begun)} {cs : List Course} {b : Begun} :
    b ∈ together cs begun ↔ ∃ k deadline bs, (Course.deadlines cs)[k]? = some deadline ∧
      begun[k]? = some bs ∧
        ∃ b' ∈ bs, ∃ b'', until? deadline b' = some b'' ∧ under (.element k) b'' = b := by
  rw [together, mem_ofQueue_iff]
  constructor
  · rintro ⟨k, _, hzip, b'', hmem, rfl⟩
    obtain ⟨deadline, bs, hdeadline, hbs, rfl⟩ := List.getElem?_zipWith_eq_some.1 hzip
    obtain ⟨b', hb', huntil⟩ := List.mem_filterMap.1 hmem
    exact ⟨k, deadline, bs, hdeadline, hbs, b', hb', b'', huntil, rfl⟩
  · rintro ⟨k, deadline, bs, hdeadline, hbs, b', hb', b'', huntil, rfl⟩
    exact ⟨k, _, List.getElem?_zipWith_eq_some.2 ⟨deadline, bs, hdeadline, hbs, rfl⟩, b'',
      List.mem_filterMap.2 ⟨b', hb', huntil⟩, rfl⟩

end EdgeInclude
