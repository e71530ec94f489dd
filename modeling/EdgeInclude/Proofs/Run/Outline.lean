import EdgeInclude.Proofs.Run.Recovery

/-!
# Courses with bodies left open

The outline of a course is what can be said of it as soon as it is known which requests succeed,
when they are answered, and with which errors the others fail: what happens and when, and how
the course ends. The text at its end is an outline too. It has gaps for the bodies that requests
bring. Nothing looks at what is put into them, so a fetcher that brings other bodies fills the
gaps otherwise and changes nothing else.

Results:
* `course_join`: courses side by side go as their outlines do side by side.
* `Outlined.recover`: a course that follows another one if that fails has an outline if both do.
* `AllOutlined.join`: so have courses side by side.
-/

namespace EdgeInclude

/-! ## Passages -/

/-- A part of a text: one that is there, or the body that a URL brings. -/
inductive Passage where
  | text (s : Text)
  | body (url : Text)

namespace Passage

variable (f : Fetcher)

/-- What a passage says, with a body as the fetcher brings it. -/
def read : Passage → Text
  | text s => s
  | body url => (f.answer url).toOption.getD []

/-- What passages say, in order. -/
def readAll (passages : List Passage) : Text := passages.flatMap (read f)

theorem readAll_flatten (parts : List (List Passage)) :
    readAll f parts.flatten = (parts.map (readAll f)).flatten := by
  induction parts with
  | nil => rfl
  | cons passages parts ih =>
    rw [List.flatten_cons, readAll, List.flatMap_append, ← readAll, ← readAll, ih, List.map_cons,
      List.flatten_cons]

end Passage

/-- Fetchers that answer every URL after the same time, both with a body or both with the same
    error. The bodies need not be the same. -/
structure Fetcher.SameFate (f g : Fetcher) : Prop where
  delay_eq : ∀ url, f.delay url = g.delay url
  answer_eq : ∀ url, (f.answer url).map (fun _ => ()) = (g.answer url).map fun _ => ()

namespace Fetcher.SameFate

variable {f g : Fetcher} {url : Text}

theorem refl (f : Fetcher) : f.SameFate f := ⟨fun _ => rfl, fun _ => rfl⟩

theorem answer_ok (h : f.SameFate g) {body : Text} (hf : f.answer url = .ok body) :
    ∃ other, g.answer url = .ok other := by
  have heq := h.answer_eq url
  rw [hf] at heq
  cases hg : g.answer url with
  | ok other => exact ⟨other, rfl⟩
  | error e =>
    rw [hg] at heq
    cases heq

theorem answer_error (h : f.SameFate g) {e : Error} (hf : f.answer url = .error e) :
    g.answer url = .error e := by
  have heq := h.answer_eq url
  rw [hf] at heq
  cases hg : g.answer url with
  | ok other =>
    rw [hg] at heq
    cases heq
  | error e' =>
    rw [hg] at heq
    cases heq
    rfl

end Fetcher.SameFate

/-! ## Outlines -/

/-- A course with passages for the text at its end. -/
structure Outline where
  events : List (Nat × Event)
  finish : Nat
  ending : Option (Except Error (List Passage))

namespace Outline

/-- The course that an outline becomes with what a fetcher brings. -/
def course (f : Fetcher) (o : Outline) : Course :=
  ⟨o.events, o.finish, o.ending.map (Except.map (Passage.readAll f))⟩

/-- The passages of an outline that comes to a good end. -/
def passages? (o : Outline) : Option (List Passage) :=
  match o.ending with
  | some (.ok passages) => some passages
  | _ => none

/-- Whether every body that is put into an outline is one that the fetcher brings. -/
def Answered (f : Fetcher) (o : Outline) : Prop :=
  ∀ passages ∈ o.passages?, ∀ url, .body url ∈ passages → ∃ body, f.answer url = .ok body

theorem answered_of_passages?_eq_none {f : Fetcher} {o : Outline} (h : o.passages? = none) :
    o.Answered f := by
  intro passages hpassages
  rw [h] at hpassages
  cases hpassages

theorem text?_course (f : Fetcher) (o : Outline) :
    (o.course f).text? = o.passages?.map (Passage.readAll f) := by
  obtain ⟨events, finish, ending⟩ := o
  match ending with
  | none => rfl
  | some (.ok passages) => rfl
  | some (.error e) => rfl

/-- Whether an outline stops does not depend on the bodies. -/
theorem stops_course (f : Fetcher) (o : Outline) : (o.course f).stops = o.passages?.isNone := by
  rw [Course.stops, text?_course, Option.isNone_map]

theorem stopRound?_map (f : Fetcher) (os : List Outline) :
    Course.stopRound? (os.map (course f)) =
      ((os.filter fun o => o.passages?.isNone).map finish).min? := by
  have hstops : Course.stops ∘ course f = fun o => o.passages?.isNone := funext (stops_course f)
  rw [Course.stopRound?, List.filter_map, List.map_map, hstops]
  rfl

/-- Outlines side by side that all come to a good end. -/
def joinDone (start : Nat) (os : List Outline) : Outline where
  events := Course.byRound (os.flatMap events)
  finish := (os.map finish).foldl max start
  ending := some (.ok (os.filterMap passages?).flatten)

theorem course_joinDone (f : Fetcher) (start : Nat) (os : List Outline) :
    Course.joinDone start (os.map (course f)) = (joinDone start os).course f := by
  have hevents : (os.map (course f)).flatMap Course.events = os.flatMap events := by
    rw [List.flatMap_map]
    rfl
  have hfinish : (os.map (course f)).map Course.finish = os.map finish := by
    rw [List.map_map]
    rfl
  have htexts : (os.map (course f)).filterMap Course.text? =
      (os.filterMap passages?).map (Passage.readAll f) := by
    have htext : Course.text? ∘ course f = fun o => o.passages?.map (Passage.readAll f) :=
      funext (text?_course f)
    rw [List.filterMap_map, htext, List.map_filterMap]
  rw [Course.joinDone, hevents, hfinish, htexts, ← Passage.readAll_flatten]
  rfl

/-- Outlines side by side up to a round in which one of them stops. -/
def joinStopped (round : Nat) (os : List Outline) : Outline :=
  let goesOn := fun o : Outline => !(o.passages?.isNone && o.finish == round)
  let before := os.takeWhile goesOn
  match os.dropWhile goesOn with
  | [] => ⟨[], round, none⟩
  | o :: later =>
    { events := Course.byRound (before.flatMap (fun o => o.events.filter (·.1 ≤ round)) ++
        o.events ++ later.flatMap fun o => o.events.filter (·.1 < round))
      finish := round
      ending := o.ending }

theorem course_joinStopped (f : Fetcher) (round : Nat) (os : List Outline) :
    Course.joinStopped round (os.map (course f)) = (joinStopped round os).course f := by
  have hgoesOn : (fun c : Course => !(c.stops && c.finish == round)) ∘ course f =
      fun o => !(o.passages?.isNone && o.finish == round) := by
    funext o
    rw [Function.comp_apply, stops_course]
    rfl
  rw [Course.joinStopped, joinStopped]
  dsimp only
  rw [List.takeWhile_map, List.dropWhile_map, hgoesOn]
  cases os.dropWhile fun o => !(o.passages?.isNone && o.finish == round) with
  | nil => rfl
  | cons o later =>
    simp only [List.map_cons, List.flatMap_map]
    rfl

/-- Outlines side by side. -/
def join (start : Nat) (os : List Outline) : Outline :=
  match ((os.filter fun o => o.passages?.isNone).map finish).min? with
  | none => joinDone start os
  | some round => joinStopped round os

/-- Courses side by side go as their outlines do side by side. -/
theorem course_join (f : Fetcher) (start : Nat) (os : List Outline) :
    Course.join start (os.map (course f)) = (join start os).course f := by
  rw [Course.join, stopRound?_map, join]
  cases ((os.filter fun o => o.passages?.isNone).map finish).min? with
  | none => exact course_joinDone f start os
  | some round => exact course_joinStopped f round os

theorem passages?_eq_some_iff {o : Outline} {passages : List Passage} :
    o.passages? = some passages ↔ o.ending = some (.ok passages) := by
  obtain ⟨events, finish, ending⟩ := o
  match ending with
  | none => simp [passages?]
  | some (.ok others) => simp [passages?]
  | some (.error e) => simp [passages?]

/-- Side by side, nothing is put in that is not put into one of them. -/
theorem answered_join {f : Fetcher} {os : List Outline} (h : ∀ o ∈ os, o.Answered f)
    (start : Nat) : (join start os).Answered f := by
  intro passages hpassages url hurl
  rw [Option.mem_def, passages?_eq_some_iff, join] at hpassages
  split at hpassages
  · cases hpassages
    obtain ⟨part, hpart, hurl⟩ := List.mem_flatten.1 hurl
    obtain ⟨o, ho, hdone⟩ := List.mem_filterMap.1 hpart
    exact h o ho part hdone url hurl
  · rw [joinStopped] at hpassages
    split at hpassages
    · cases hpassages
    · next o later hdrop =>
      have ho : o ∈ os := (List.dropWhile_suffix _).mem (hdrop ▸ List.mem_cons_self)
      exact h o ho passages (passages?_eq_some_iff.2 hpassages) url hurl

end Outline

/-! ## What has an outline -/

/-- Whether a course, as it goes with the fetchers that have the fate of `f`, has an outline
    that does not depend on what they bring. If `ends` holds, the course comes to an end. -/
def Outlined (f : Fetcher) (ends : Prop) (run : Fetcher → Course) : Prop :=
  ∃ o : Outline, o.Answered f ∧ (ends → o.ending.isSome = true) ∧
    ∀ g, f.SameFate g → run g = o.course g

/-- The same for courses. -/
def AllOutlined (f : Fetcher) (ends : Prop) (runs : Fetcher → List Course) : Prop :=
  ∃ os : List Outline, (∀ o ∈ os, o.Answered f ∧ (ends → o.ending.isSome = true)) ∧
    ∀ g, f.SameFate g → runs g = os.map (Outline.course g)

section

variable {f : Fetcher} {ends : Prop} {run : Fetcher → Course} {runs : Fetcher → List Course}

theorem Outlined.mono {ends' : Prop} (h : Outlined f ends run) (hends : ends' → ends) :
    Outlined f ends' run := by
  obtain ⟨o, hanswered, hend, hrun⟩ := h
  exact ⟨o, hanswered, fun h => hend (hends h), hrun⟩

theorem outlined_done (n : Nat) (s : Text) : Outlined f ends fun _ => .done n s := by
  refine ⟨⟨[], n, some (.ok [.text s])⟩, ?_, fun _ => rfl, fun g _ => ?_⟩
  · intro passages hpassages url hurl
    cases hpassages
    cases List.mem_singleton.1 hurl
  · simp [Course.done, Outline.course, Except.map, Passage.readAll, Passage.read]

theorem outlined_fail (n : Nat) (e : Error) : Outlined f ends fun _ => .fail n e :=
  ⟨⟨[], n, some (.error e)⟩, Outline.answered_of_passages?_eq_none rfl, fun _ => rfl,
    fun _ _ => rfl⟩

theorem outlined_unknown (n : Nat) : Outlined f False fun _ => .unknown n :=
  ⟨⟨[], n, none⟩, Outline.answered_of_passages?_eq_none rfl, False.elim, fun _ _ => rfl⟩

theorem Outlined.note (h : Outlined f ends run) (n : Nat) (events : List Event) :
    Outlined f ends fun g => (run g).note n events := by
  obtain ⟨o, hanswered, hend, hrun⟩ := h
  refine ⟨⟨events.map (n, ·) ++ o.events, o.finish, o.ending⟩, hanswered, hend, fun g hg => ?_⟩
  dsimp only
  rw [hrun g hg]
  rfl

/-- A course that another one follows if it fails. -/
def Course.recover (c : Course) (next : Nat → Error → Course) : Course :=
  c.andThen fun round result =>
    match result with
    | .ok s => .done round s
    | .error e => next round e

/-- Only a failure calls for anything, and how a course fails does not depend on bodies. -/
theorem Outlined.recover {next : Fetcher → Nat → Error → Course} (h : Outlined f ends run)
    (hnext : ∀ round e, Outlined f ends fun g => next g round e) :
    Outlined f ends fun g => (run g).recover (next g) := by
  obtain ⟨⟨events, finish, ending⟩, hanswered, hend, hrun⟩ := h
  match ending with
  | none =>
    refine ⟨⟨events, finish, none⟩, hanswered, hend, fun g hg => ?_⟩
    dsimp only
    rw [hrun g hg]
    rfl
  | some (.ok passages) =>
    refine ⟨⟨events, finish, some (.ok passages)⟩, hanswered, hend, fun g hg => ?_⟩
    dsimp only
    rw [hrun g hg]
    simp [Course.recover, Course.andThen, Outline.course, Course.done, Except.map]
  | some (.error e) =>
    obtain ⟨later, hlater, hends, hnext⟩ := hnext finish e
    refine ⟨⟨events ++ later.events, later.finish, later.ending⟩, hlater, hends, fun g hg => ?_⟩
    dsimp only
    rw [hrun g hg]
    simp only [Course.recover, Course.andThen, Outline.course, Option.map_some, Except.map,
      hnext g hg]

theorem allOutlined_nil : AllOutlined f ends fun _ => [] :=
  ⟨[], fun _ h => absurd h List.not_mem_nil, fun _ _ => rfl⟩

theorem Outlined.cons (h : Outlined f ends run) (hs : AllOutlined f ends runs) :
    AllOutlined f ends fun g => run g :: runs g := by
  obtain ⟨o, hanswered, hend, hrun⟩ := h
  obtain ⟨os, hos, hruns⟩ := hs
  refine ⟨o :: os, List.forall_mem_cons.2 ⟨⟨hanswered, hend⟩, hos⟩, fun g hg => ?_⟩
  dsimp only
  rw [hrun g hg, hruns g hg, List.map_cons]

theorem AllOutlined.join (h : AllOutlined f ends runs) (n : Nat) :
    Outlined f ends fun g => .join n (runs g) := by
  obtain ⟨os, hos, hruns⟩ := h
  refine ⟨Outline.join n os, Outline.answered_join (fun o ho => (hos o ho).1) n, fun hends => ?_,
    fun g hg => ?_⟩
  · have hall : ∀ c ∈ os.map (Outline.course f), c.ending.isSome = true := by
      refine List.forall_mem_map.2 fun o ho => ?_
      rw [Outline.course, Option.isSome_map, (hos o ho).2 hends]
    have hend := Course.ending_join_isSome (n := n) hall
    rwa [Outline.course_join, Outline.course, Option.isSome_map] at hend
  · dsimp only
    rw [hruns g hg, Outline.course_join]

end

end EdgeInclude
