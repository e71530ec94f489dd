import EdgeInclude.Proofs.Plan.Deferred
import Mathlib.Data.List.Chain
import Mathlib.Data.List.Induction

/-!
# Queues

The queue of a level is put together from what its fragments leave, one after the other and from
whatever depth of nesting: a text is added to the text that the queue ends with, and anything that
waits for requests is put behind it. Thus no text of a queue is empty, no two texts follow each
other, and between two elements that wait for requests stands all the text that the document has
there.

Results:
* `tidy_push`, `tidy_foldl_push`: putting elements to the end of a queue keeps it tidy.
* `merge_eq_foldl_push`: joining the texts of elements is putting the elements into a queue one by
  one.
* `filter_isPending_merge`, `gaps_merge`: joining changes neither what waits for requests nor the
  text in between.
* `elements_ofNested`: the elements of a plan are what the steps of its level leave.
* `queue_of_level`: what the queue of a level holds.
-/

namespace EdgeInclude

namespace Element

/-! ## Putting elements into queues -/

/-- Whether the text of an element depends on requests. -/
def isPending : Element → Bool
  | text _ => false
  | _ => true

/-- A queue with a text put to its end. An empty text is passed over, and one behind a text is
    added to it. -/
def pushText (queue : List Element) (s : Text) : List Element :=
  if s.isEmpty then queue
  else
    match queue.getLast? with
    | some (text t) => queue.dropLast ++ [text (t ++ s)]
    | _ => queue ++ [text s]

/-- A queue with an element put to its end. -/
def push (queue : List Element) : Element → List Element
  | text s => pushText queue s
  | e => queue ++ [e]

/-- Whether no text of a queue is empty, and no two texts in it follow each other. -/
structure Tidy (queue : List Element) : Prop where
  filled : ∀ s, text s ∈ queue → s ≠ []
  apart : queue.IsChain fun e f => e.isPending || f.isPending

variable {queue : List Element} {e : Element}

theorem pushText_append_text (front : List Element) (t s : Text) :
    pushText (front ++ [text t]) s = front ++ [text (t ++ s)] := by
  unfold pushText
  cases s with
  | nil => simp
  | cons c cs => simp

theorem pushText_of_getLast? (h : ∀ e ∈ queue.getLast?, e.isPending) (s : Text) :
    pushText queue s = if s.isEmpty then queue else queue ++ [text s] := by
  unfold pushText
  split
  · rfl
  · split
    · next t hlast => exact absurd (h _ hlast) (by simp [isPending])
    · rfl

/-- A queue ends with a text, or with an element that waits for requests if with any. -/
theorem getLast?_cases (queue : List Element) :
    (∃ front t, queue = front ++ [text t]) ∨ ∀ e ∈ queue.getLast?, e.isPending := by
  induction queue using List.reverseRecOn with
  | nil => exact .inr nofun
  | append_singleton front e _ =>
    cases e with
    | text t => exact .inl ⟨front, t, rfl⟩
    | pending i cell => exact .inr (by simp [isPending])
    | attempt queue except cell => exact .inr (by simp [isPending])

/-- Texts can be put to the end of a queue one by one or at once. -/
theorem pushText_pushText (queue : List Element) (s t : Text) :
    pushText (pushText queue s) t = pushText queue (s ++ t) := by
  obtain ⟨front, r, rfl⟩ | hlast := getLast?_cases queue
  · rw [pushText_append_text, pushText_append_text, pushText_append_text, List.append_assoc]
  · cases s with
    | nil => rfl
    | cons c cs =>
      rw [pushText_of_getLast? hlast, pushText_of_getLast? hlast, if_neg (by simp),
        if_neg (by simp), pushText_append_text]

theorem tidy_nil : Tidy [] := ⟨nofun, .nil⟩

theorem Tidy.append_singleton (h : Tidy queue) (hfilled : ∀ s, e = text s → s ≠ [])
    (hapart : ∀ last ∈ queue.getLast?, last.isPending || e.isPending) : Tidy (queue ++ [e]) where
  filled := by
    intro s hs
    obtain hs | hs := List.mem_append.1 hs
    · exact h.filled s hs
    · exact hfilled s (List.mem_singleton.1 hs).symm
  apart := by
    refine List.isChain_append.2 ⟨h.apart, .singleton e, fun last hlast next hnext => ?_⟩
    obtain rfl : e = next := Option.some.inj hnext
    exact hapart last hlast

theorem Tidy.of_append (h : Tidy (queue ++ [e])) : Tidy queue where
  filled := fun s hs => h.filled s (List.mem_append_left _ hs)
  apart := (List.isChain_append.1 h.apart).1

/-- Putting an element to the end of a queue keeps it tidy. -/
theorem tidy_push (h : Tidy queue) (e : Element) : Tidy (push queue e) := by
  cases e with
  | text s =>
    show Tidy (pushText queue s)
    obtain ⟨front, t, rfl⟩ | hlast := getLast?_cases queue
    · -- What a text can follow, a longer one can.
      rw [pushText_append_text]
      refine h.of_append.append_singleton ?_ ?_
      · rintro _ ⟨⟩
        exact List.append_ne_nil_of_left_ne_nil (h.filled t (by simp)) s
      · intro last hlast
        exact (List.isChain_append.1 h.apart).2.2 last hlast (text t) rfl
    · rw [pushText_of_getLast? hlast]
      split
      · exact h
      · next hs =>
        refine h.append_singleton ?_ fun last hmem => ?_
        · rintro _ ⟨⟩
          simpa using hs
        · simp [hlast last hmem]
  | pending i cell => exact h.append_singleton nofun fun last _ => by simp [isPending]
  | attempt inner except cell => exact h.append_singleton nofun fun last _ => by simp [isPending]

/-- Any elements that are put into a tidy queue leave it tidy. -/
theorem tidy_foldl_push (es : List Element) (h : Tidy queue) : Tidy (es.foldl push queue) := by
  induction es generalizing queue with
  | nil => exact h
  | cons e es ih => exact ih (tidy_push h e)

/-! ## Joining texts -/

theorem merge_filled {es : List Element} {s : Text} (h : text s ∈ merge es) : s ≠ [] := by
  induction es generalizing s with
  | nil => cases h
  | cons e es ih =>
    cases e with
    | text t =>
      rw [merge] at h
      split at h
      · next u rest hrest =>
        obtain heq | hmem := List.mem_cons.1 h
        · obtain rfl : s = t ++ u := Element.text.inj heq
          exact List.append_ne_nil_of_right_ne_nil t (ih (hrest ▸ List.mem_cons_self))
        · exact ih (hrest ▸ List.mem_cons_of_mem _ hmem)
      · split at h
        · exact ih h
        · next ht =>
          obtain heq | hmem := List.mem_cons.1 h
          · obtain rfl : s = t := Element.text.inj heq
            simpa using ht
          · exact ih hmem
    | pending _ _ | attempt _ _ _ =>
      obtain heq | hmem := List.mem_cons.1 h
      · cases heq
      · exact ih hmem

/-- A queue followed by another one, with the text at their border joined. -/
def joinQueues (queue : List Element) : List Element → List Element
  | text t :: rest => pushText queue t ++ rest
  | rest => queue ++ rest

theorem joinQueues_of_ne {es : List Element} (h : ∀ t rest, es ≠ text t :: rest)
    (queue : List Element) : joinQueues queue es = queue ++ es := by
  unfold joinQueues
  split
  · next t rest => exact absurd rfl (h t rest)
  · rfl

theorem joinQueues_pushText (queue : List Element) (s : Text) (es : List Element) :
    joinQueues (pushText queue s) (merge es) = joinQueues queue (merge (text s :: es)) := by
  rw [merge]
  split
  · next t rest hmerge => rw [hmerge, joinQueues, joinQueues, pushText_pushText]
  · next hother =>
    rw [joinQueues_of_ne hother]
    split
    · next hs => rw [joinQueues_of_ne hother, pushText, if_pos hs]
    · rw [joinQueues]

theorem joinQueues_append_singleton (he : e.isPending) (queue es : List Element) :
    joinQueues (queue ++ [e]) (merge es) = queue ++ e :: merge es := by
  unfold joinQueues
  split
  · next t rest hmerge =>
    have ht : t ≠ [] := merge_filled (hmerge ▸ List.mem_cons_self)
    rw [pushText_of_getLast? (by simpa using he), if_neg (by simpa using ht), hmerge]
    simp
  · simp

/-- Elements that are put into a queue one by one follow it with their texts joined. -/
theorem foldl_push_eq (es queue : List Element) :
    es.foldl push queue = joinQueues queue (merge es) := by
  induction es generalizing queue with
  | nil => exact (List.append_nil queue).symm
  | cons e es ih =>
    rw [List.foldl_cons, ih]
    cases e with
    | text s => exact joinQueues_pushText queue s es
    | pending i cell => exact joinQueues_append_singleton rfl queue es
    | attempt inner except cell => exact joinQueues_append_singleton rfl queue es

/-- Joining the texts of elements is putting the elements into a queue one by one. -/
theorem merge_eq_foldl_push (es : List Element) : merge es = es.foldl push [] := by
  rw [foldl_push_eq]
  unfold joinQueues
  split
  · next t rest hmerge =>
    have ht : t ≠ [] := merge_filled (hmerge ▸ List.mem_cons_self)
    rw [pushText, if_neg (by simpa using ht), hmerge]
    rfl
  · rfl

theorem tidy_merge (es : List Element) : Tidy (merge es) :=
  merge_eq_foldl_push es ▸ tidy_foldl_push es tidy_nil

/-- Joining texts leaves what waits for requests as it is. -/
theorem filter_isPending_merge (es : List Element) :
    (merge es).filter isPending = es.filter isPending := by
  induction es with
  | nil => rfl
  | cons e es ih =>
    cases e with
    | text s =>
      rw [merge, List.filter_cons_of_neg (by simp [isPending]), ← ih]
      split
      · next rest hrest => simp [hrest, isPending]
      · split <;> simp [isPending]
    | pending i cell => exact congrArg (pending i cell :: ·) ih
    | attempt queue except cell => exact congrArg (attempt queue except cell :: ·) ih

/-- The texts in front of, between and behind the elements that wait for requests. -/
def gaps : List Element → List Text
  | [] => [[]]
  | text s :: es => (gaps es).modifyHead (s ++ ·)
  | _ :: es => [] :: gaps es

/-- Joining texts leaves all text where it is. -/
theorem gaps_merge (es : List Element) : gaps (merge es) = gaps es := by
  induction es with
  | nil => rfl
  | cons e es ih =>
    cases e with
    | text s =>
      rw [merge, gaps, ← ih]
      split
      · next t rest hrest =>
        rw [hrest, gaps, gaps]
        cases gaps rest <;> simp
      · split
        · next hs =>
          obtain rfl : s = [] := List.isEmpty_iff.1 hs
          cases gaps (merge es) <;> simp
        · rw [gaps]
    | pending i cell => exact congrArg ([] :: ·) ih
    | attempt queue except cell => exact congrArg ([] :: ·) ih

mutual

/-- The queues of the blocks in an element, also of those inside of others. -/
def queues : Element → List (List Element)
  | .text _ => []
  | .pending _ _ => []
  | .attempt queue _ _ => queue :: allQueues queue

/-- The queues of the blocks among elements. -/
def allQueues : List Element → List (List Element)
  | [] => []
  | e :: es => e.queues ++ allQueues es

end

theorem allQueues_append (es fs : List Element) :
    allQueues (es ++ fs) = allQueues es ++ allQueues fs := by
  induction es with
  | nil => rfl
  | cons e es ih => rw [List.cons_append, allQueues, allQueues, ih, List.append_assoc]

/-- Joining texts leaves the queues of blocks as they are. -/
theorem allQueues_merge (es : List Element) : allQueues (merge es) = allQueues es := by
  induction es with
  | nil => rfl
  | cons e es ih =>
    cases e with
    | text s =>
      rw [allQueues, queues, List.nil_append, ← ih, merge]
      split
      · next rest hrest => rw [hrest, allQueues, allQueues]; rfl
      · split
        · rfl
        · rw [allQueues, queues, List.nil_append]
    | pending i cell => simp only [merge, allQueues, ih]
    | attempt queue except cell => simp only [merge, allQueues, ih]

end Element

/-! ## What fragments leave by themselves -/

/-- The text that a directive by itself leaves in the queue. -/
def Directive.shown? (i : Interpreter) (scope : Scope) : Directive → Option Text
  | .show template => some (Template.render (i.context scope) template)
  | .verbatim body => some body
  | .unknown _ raw => some raw
  | _ => none

namespace Fragment

/-- The text that a fragment by itself leaves in the queue; `substitute` says whether text is a
    template. -/
def shown? (i : Interpreter) (substitute : Bool) (scope : Scope) : Fragment → Option Text
  | .text s => some (if substitute then Template.render (i.context scope) s else s)
  | .tag t => (Directive.ofTag t).shown? i scope

/-- Whether a fragment is a block that is tried. -/
def isTry (f : Fragment) : Bool :=
  match f.directive? with
  | some (.tryBlock _) => true
  | _ => false

end Fragment

namespace Step

mutual

/-- A step and those inside of it that leave something in the same queue, in document order, each
    with whether text is a template in its place. What a block attempts has a queue of its own. -/
def sharing (substitute : Bool) : Step → List (Bool × Step)
  | ⟨f, scope, plan, inner⟩ =>
    (substitute, ⟨f, scope, plan, inner⟩) :: if f.isTry then [] else level true inner

/-- The steps that leave something in the queue of a level. -/
def level (substitute : Bool) : List Step → List (Bool × Step)
  | [] => []
  | st :: sts => st.sharing substitute ++ level substitute sts

end

/-- What a step by itself leaves in the queue to wait for requests: a planned include that has a
    URL, or a planned block with the queue of what it attempts. -/
def awaited? (i : Interpreter) (cell : Cell) (st : Step) : Option Element :=
  (st.deferred? i).map fun
    | .content content => .pending content cell
    | .recovery except => .attempt (planOf st.scope st.inner).queue except cell

/-- What a step by itself leaves in the queue of its level, in a place where text is a template or
    not. -/
def output? (i : Interpreter) (cell : Cell) (placed : Bool × Step) : Option Element :=
  match placed.2.fragment.shown? i placed.1 placed.2.scope with
  | some s => some (.text s)
  | none => placed.2.awaited? i cell

theorem level_cons (substitute : Bool) (st : Step) (steps : List Step) :
    level substitute (st :: steps) =
      (substitute, st) :: (if st.fragment.isTry then [] else level true st.inner) ++
        level substitute steps := by
  rw [level]
  cases st
  rw [sharing]

mutual

theorem map_snd_sharing (substitute : Bool) :
    ∀ st : Step, (st.sharing substitute).map Prod.snd = st.within (fun f => !f.isTry)
  | ⟨f, scope, plan, inner⟩ => by
    rw [sharing, within, ← map_snd_level true inner]
    cases f.isTry <;> rfl

/-- The steps of a level are those of its document that are not inside of a block that is tried. -/
theorem map_snd_level (substitute : Bool) :
    ∀ steps, (level substitute steps).map Prod.snd = allWithin (fun f => !f.isTry) steps
  | [] => rfl
  | st :: sts => by
    rw [level, allWithin, List.map_append, map_snd_sharing substitute st,
      map_snd_level substitute sts]

end

theorem mem_allWithin_of_mem_level {substitute : Bool} {steps : List Step} {placed : Bool × Step}
    (h : placed ∈ level substitute steps) : placed.2 ∈ allWithin (fun f => !f.isTry) steps :=
  map_snd_level substitute steps ▸ List.mem_map_of_mem h

/-- No step leaves both a text and something that waits for requests. -/
theorem awaited?_eq_none {i : Interpreter} {substitute : Bool} {st : Step} {s : Text}
    (h : st.fragment.shown? i substitute st.scope = some s) (cell : Cell) :
    st.awaited? i cell = none := by
  rw [awaited?, Option.map_eq_none_iff, deferred?]
  cases hf : st.fragment with
  | text s => rfl
  | tag t =>
    rw [hf, Fragment.shown?] at h
    rw [Fragment.directive?, Option.bind_some]
    cases hd : Directive.ofTag t with
    | «show» _ | verbatim _ | unknown _ _ => rfl
    | _ => simp [hd, Directive.shown?] at h

/-- What waits for requests in the output of steps is what they leave for that. -/
theorem filter_isPending_output? (i : Interpreter) (cell : Cell) (placed : List (Bool × Step)) :
    (placed.filterMap (output? i cell)).filter Element.isPending =
      placed.filterMap fun placed => placed.2.awaited? i cell := by
  induction placed with
  | nil => rfl
  | cons head rest ih =>
    obtain ⟨substitute, st⟩ := head
    rw [List.filterMap_cons, List.filterMap_cons, output?]
    cases hshown : st.fragment.shown? i substitute st.scope with
    | some s =>
      rw [awaited?_eq_none hshown]
      exact ih
    | none =>
      dsimp only
      cases hawaited : st.awaited? i cell with
      | none => exact ih
      | some e =>
        obtain ⟨d, -, rfl⟩ := Option.map_eq_some_iff.1 hawaited
        cases d <;> exact congrArg (_ :: ·) ih

end Step

/-! ## What plans are made of -/

namespace Plan

variable {i : Interpreter} {cell : Cell}

/-- A fragment leaves what it leaves by itself, and then what is inside of it leaves, unless that
    has a queue of its own. -/
theorem elements_stepOf (depth : Nat) (substitute : Bool) (f : Fragment) (scope : Scope) :
    (stepOf i cell depth substitute f scope).plan.elements =
      (Step.output? i cell (substitute, stepOf i cell depth substitute f scope)).toList ++
        if f.isTry then []
        else (f.inner? i scope).elim [] fun inside =>
          (ofNested i cell depth true inside.1 inside.2).elements := by
  cases f with
  | text s => cases substitute <;> rfl
  | tag t =>
    have hdirective : (Fragment.tag t).directive? = some (Directive.ofTag t) := rfl
    have hplan : (stepOf i cell depth substitute (.tag t) scope).plan =
        ofDirective i cell (ofNested i cell depth true) (Directive.ofTag t) scope := rfl
    rw [hplan]
    simp only [Step.output?, stepOf, Step.awaited?, Step.deferred?, Fragment.shown?, Fragment.isTry,
      Fragment.inner?, hdirective, Option.bind_some]
    cases Directive.ofTag t with
    | «include» src alt reprocess continueOnError =>
      rcases src with _ | _ | ⟨c, cs⟩ <;> rfl
    | tryBlock body =>
      have hqueue (attempt : Text) : ofNested i cell depth true attempt scope =
          Step.planOf scope (stepsOfNested i cell depth true attempt scope) :=
        ofNested_eq_planOf depth true attempt scope
      simp [ofDirective, ofTry, hqueue, Directive.shown?, Directive.deferred?, Directive.inner?]
    | when test matchName body =>
      cases hinside : (Directive.when test matchName body).inner? i scope with
      | none =>
        obtain ⟨events, hwhen⟩ := ofWhen_of_inner?_eq_none hinside
        rw [ofDirective, hwhen]
        rfl
      | some inside =>
        obtain ⟨condition, -, -, hwhen⟩ := ofWhen_of_inner?_eq_some hinside
        rw [ofDirective, hwhen]
        rfl
    | otherwise body =>
      rw [ofDirective_otherwise]
      cases (Directive.otherwise body).inner? i scope <;> rfl
    | assign name value => cases name <;> rfl
    | vars _ | choose _ | «show» _ | verbatim _ | nothing | unknown _ _ =>
      simp [ofDirective, ofChoose, text, nothing, Directive.shown?, Directive.deferred?,
        Directive.inner?]

/-- The elements of a plan are what the steps of its level leave, in document order. -/
theorem elements_ofNested (depth : Nat) (substitute : Bool) (document : Text) (scope : Scope) :
    (ofNested i cell depth substitute document scope).elements =
      (Step.level substitute (stepsOfNested i cell depth substitute document scope)).filterMap
        (Step.output? i cell) := by
  induction depth generalizing substitute document scope with
  | zero => rfl
  | succ depth ih =>
    rw [stepsOfNested, ofNested]
    generalize fragmentsOf i.settings document = fs
    induction fs generalizing scope with
    | nil => rfl
    | cons f fs ihfs =>
      show (stepOf i cell depth substitute f scope).plan.elements ++
          (ofFragments i cell (ofNested i cell depth true) substitute fs _).elements =
        (Step.level substitute (stepOf i cell depth substitute f scope :: _)).filterMap _
      have hinside : (Step.level true (stepOf i cell depth substitute f scope).inner).filterMap
            (Step.output? i cell) =
          (f.inner? i scope).elim [] fun inside =>
            (ofNested i cell depth true inside.1 inside.2).elements := by
        cases hinside : f.inner? i scope with
        | none => simp [stepOf, hinside, Step.level]
        | some inside => simp only [stepOf, hinside, Option.elim, ih]
      have hstep : ((substitute, stepOf i cell depth substitute f scope) ::
            if f.isTry then []
            else Step.level true (stepOf i cell depth substitute f scope).inner).filterMap
              (Step.output? i cell) =
          (stepOf i cell depth substitute f scope).plan.elements := by
        rw [elements_stepOf, ← hinside, List.filterMap_cons]
        cases Step.output? i cell (substitute, stepOf i cell depth substitute f scope) <;>
          cases f.isTry <;> rfl
      rw [Step.level_cons, List.filterMap_append, ← hstep, ihfs]
      rfl

/-- Every step of a level is that of a fragment planned under its variables. -/
theorem eq_stepOf_of_mem_level {depth : Nat} {substitute : Bool} {document : Text} {scope : Scope}
    {placed : Bool × Step}
    (h : placed ∈ Step.level substitute (stepsOfNested i cell depth substitute document scope)) :
    ∃ depth substitute,
      placed.2 = stepOf i cell depth substitute placed.2.fragment placed.2.scope :=
  eq_stepOf_of_mem (Step.mem_allWithin_of_mem_level h)

/-- The queue of what a block attempts is that of the plan of a document. -/
theorem planOf_inner_of_tryBlock {depth : Nat} {substitute : Bool} {f : Fragment} {scope : Scope}
    {body : Text} (h : f.directive? = some (.tryBlock body)) :
    Step.planOf scope (stepOf i cell depth substitute f scope).inner =
      ofNested i cell depth true (TryParts.ofBody i.settings.ns body).attempt scope := by
  have hinner : f.inner? i scope = some ((TryParts.ofBody i.settings.ns body).attempt, scope) := by
    rw [Fragment.inner?, h]
    rfl
  rw [ofNested_eq_planOf, stepOf, hinner]
  rfl

/-- If the queues of blocks in what is inside of a fragment are tidy, so are those in what the
    fragment leaves. -/
theorem tidy_ofFragment {nested : Text → Scope → Plan} {substitute : Bool} (f : Fragment)
    (scope : Scope)
    (hnested : ∀ body scope, ∀ q ∈ Element.allQueues (nested body scope).elements, Element.Tidy q) :
    ∀ q ∈ Element.allQueues (ofFragment i cell nested substitute f scope).elements,
      Element.Tidy q := by
  cases f with
  | text s => cases substitute <;> exact List.forall_mem_nil _
  | tag t =>
    show ∀ q ∈ Element.allQueues (ofDirective i cell nested (Directive.ofTag t) scope).elements, _
    cases Directive.ofTag t with
    | «include» src alt reprocess continueOnError =>
      rcases src with _ | _ | ⟨c, cs⟩ <;> exact List.forall_mem_nil _
    | tryBlock body =>
      intro q hq
      simp only [ofDirective, ofTry, queue, Element.allQueues, Element.queues,
        Element.allQueues_merge, List.append_nil, List.mem_cons] at hq
      obtain rfl | hq := hq
      · exact Element.tidy_merge _
      · exact hnested _ _ q hq
    | when test matchName body =>
      cases hinside : (Directive.when test matchName body).inner? i scope with
      | none =>
        obtain ⟨events, hplan⟩ := ofWhen_of_inner?_eq_none hinside
        rw [ofDirective, hplan]
        exact List.forall_mem_nil _
      | some inside =>
        obtain ⟨condition, -, -, hplan⟩ := ofWhen_of_inner?_eq_some hinside
        rw [ofDirective, hplan]
        exact hnested _ _
    | otherwise body =>
      rw [ofDirective_otherwise]
      cases (Directive.otherwise body).inner? i scope with
      | none => exact List.forall_mem_nil _
      | some inside => exact hnested _ _
    | vars body | choose body => exact hnested _ _
    | assign name value => cases name <;> exact List.forall_mem_nil _
    | «show» _ | verbatim _ | nothing | unknown _ _ => exact List.forall_mem_nil _

/-- The queues of all blocks in a plan are tidy. -/
theorem tidy_ofNested (depth : Nat) (substitute : Bool) (document : Text) (scope : Scope) :
    ∀ q ∈ Element.allQueues (ofNested i cell depth substitute document scope).elements,
      Element.Tidy q := by
  refine stepsOfNested_induction
    (Q := fun _ _ plan => ∀ q ∈ Element.allQueues plan.elements, Element.Tidy q)
    (fun _ => List.forall_mem_nil _) ?_ depth substitute document scope
  intro depth substitute f scope steps rest hinner hrest q hq
  rw [append, Element.allQueues_append, List.mem_append] at hq
  obtain hq | hq := hq
  · exact tidy_ofFragment f scope hinner q hq
  · exact hrest q hq

/-- For every document, all variables and any nesting of directives:

    * The queue of the level is what one gets by putting what its steps leave into an empty queue,
      one after the other in document order.
    * Neither in this queue nor in that of any block inside of it is a text empty, and no two texts
      follow each other.
    * What waits for requests is, in document order, exactly what the planned includes with a URL
      and the planned blocks of the level leave. What a block attempts is planned like a document,
      and its queue is that of this plan.
    * In front of, between and behind the elements that wait for requests stands all the text that
      the steps of the level leave there, in document order. -/
theorem queue_of_level (i : Interpreter) (cell : Cell) (depth : Nat) (substitute : Bool)
    (document : Text) (scope : Scope) :
    let steps := Step.level substitute (stepsOfNested i cell depth substitute document scope)
    let outputs := steps.filterMap (Step.output? i cell)
    let queue := (ofNested i cell depth substitute document scope).queue
    queue = outputs.foldl Element.push [] ∧
      (∀ q ∈ queue :: Element.allQueues queue, Element.Tidy q) ∧
      queue.filter Element.isPending = steps.filterMap (fun placed => placed.2.awaited? i cell) ∧
      (∀ placed ∈ steps, ∀ body, placed.2.fragment.directive? = some (.tryBlock body) →
        ∃ depth, Step.planOf placed.2.scope placed.2.inner =
          ofNested i cell depth true (TryParts.ofBody i.settings.ns body).attempt placed.2.scope) ∧
      Element.gaps queue = Element.gaps outputs := by
  intro steps outputs queue
  have helements : (ofNested i cell depth substitute document scope).elements = outputs :=
    elements_ofNested depth substitute document scope
  have hqueue : queue = Element.merge outputs := congrArg Element.merge helements
  refine ⟨?_, ?_, ?_, ?_, ?_⟩
  · rw [hqueue, Element.merge_eq_foldl_push]
  · intro q hq
    obtain rfl | hq := List.mem_cons.1 hq
    · exact hqueue ▸ Element.tidy_merge outputs
    · rw [hqueue, Element.allQueues_merge, ← helements] at hq
      exact tidy_ofNested depth substitute document scope q hq
  · rw [hqueue, Element.filter_isPending_merge, Step.filter_isPending_output?]
  · intro placed hplaced body hbody
    obtain ⟨depth, substitute, hstep⟩ := eq_stepOf_of_mem_level hplaced
    exact ⟨depth, (congrArg (Step.planOf _ ·.inner) hstep).trans (planOf_inner_of_tryBlock hbody)⟩
  · rw [hqueue, Element.gaps_merge]

end Plan

end EdgeInclude
