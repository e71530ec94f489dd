import EdgeInclude.Condition.Verdict
import EdgeInclude.Proofs.Condition.Reading

/-!
# What conditions come to

A condition is true as if its terms were grouped to the right, with `&&` and `||` of one rank.
Its terms are evaluated from the left up to the first that decides: one that is false before
`&&`, or true before `||`. The terms behind that have no part in what the condition comes to.
The groups of a pattern are those of the last term evaluated that found one.

Results:
* `Term.decide_holds_iff`, `Term.decide_groups_iff`: what a term contributes.
* `holds_decideFrom_iff`: the truth of a condition.
* `decideFrom_of_evaluates`: only the terms that are evaluated count.
* `verdict_of_reads`: what a condition comes to, by its text.
-/

namespace EdgeInclude

variable {ctx : Context}

/-! ## Terms -/

/-- Whether the answer to a question is yes. -/
def Question.Holds (ctx : Context) : Question → Prop
  | .comparison left sign right =>
    (Condition.compare (left.text ctx) (right.text ctx) sign).holds = true
  | .nonEmpty template => Template.render ctx template ≠ []

namespace Term

/-- Whether a term is true: its question is answered with yes, or with no if the term is
    negated. -/
def Holds (ctx : Context) (t : Term) : Prop := t.question.Holds ctx ↔ t.negated = false

/-- Whether a term looks for a pattern in a text and finds it there, with the given groups. -/
def Finds (ctx : Context) (t : Term) (groups : List Value) : Prop :=
  ∃ left right ignoreCase found,
    t.question = .comparison left (if ignoreCase then .matchesAnyCase else .matches) right ∧
      Condition.search ignoreCase (right.text ctx) (left.text ctx) = some (some found) ∧
      groups = found.map Condition.groupValue

theorem decide_holds_iff (t : Term) : (t.decide ctx).holds = true ↔ t.Holds ctx := by
  have hanswer : (t.question.answer ctx).holds = true ↔ t.question.Holds ctx := by
    cases t.question with
    | comparison left sign right => exact Iff.rfl
    | nonEmpty template => simp [Question.answer, Question.Holds]
  rw [Holds, ← hanswer, decide]
  cases (t.question.answer ctx).holds <;> cases t.negated <;> simp

theorem findPattern_groups_iff {ignoreCase : Bool} {pattern s : Text} {groups : List Value} :
    (Condition.findPattern ignoreCase pattern s).groups = some groups ↔
      ∃ found, Condition.search ignoreCase pattern s = some (some found) ∧
        groups = found.map Condition.groupValue := by
  unfold Condition.findPattern
  cases Condition.search ignoreCase pattern s with
  | none => simp
  | some found =>
    cases found with
    | none => simp
    | some found => simp [eq_comm]

/-- Groups come from terms that find a pattern, negated or not, and from no others. -/
theorem decide_groups_iff (t : Term) {groups : List Value} :
    (t.decide ctx).groups = some groups ↔ t.Finds ctx groups := by
  have hdecide : (t.decide ctx).groups = (t.question.answer ctx).groups := rfl
  rw [hdecide]
  unfold Finds
  cases t.question with
  | nonEmpty template => simp [Question.answer]
  | comparison left sign right =>
    have hanswer : (Question.answer ctx (.comparison left sign right)).groups =
        (Condition.compare (left.text ctx) (right.text ctx) sign).groups := rfl
    rw [hanswer]
    constructor
    · intro h
      cases sign with
      | «matches» =>
        obtain ⟨found, hfound, hgroups⟩ := findPattern_groups_iff.1 h
        exact ⟨left, right, false, found, rfl, hfound, hgroups⟩
      | matchesAnyCase =>
        obtain ⟨found, hfound, hgroups⟩ := findPattern_groups_iff.1 h
        exact ⟨left, right, true, found, rfl, hfound, hgroups⟩
      | equal | notEqual | atLeast | atMost | has | hasAnyCase => cases h
    · rintro ⟨left', right', ignoreCase, found, hquestion, hfound, hgroups⟩
      cases ignoreCase with
      | false | true =>
        cases hquestion
        exact findPattern_groups_iff.2 ⟨found, hfound, hgroups⟩

end Term

/-! ## Which terms are evaluated -/

/-- Whether what stands before a connective decides the condition. -/
def Connective.Decides (holds : Prop) : Connective → Prop
  | and => ¬holds
  | or => holds

theorem Connective.settledBy_iff {holds : Bool} {p : Prop} (h : holds = true ↔ p)
    (c : Connective) : c.settledBy holds = true ↔ c.Decides p := by
  cases c with
  | and => simp [settledBy, Decides, ← h]
  | or => simp [settledBy, Decides, ← h]

namespace Condition

/-- Whether a term, and the terms joined to it, are true together: grouped to the right, with
    connectives of one rank. -/
def HoldsFrom (ctx : Context) (t : Term) : List (Connective × Term) → Prop
  | [] => t.Holds ctx
  | (.and, u) :: rest => t.Holds ctx ∧ HoldsFrom ctx u rest
  | (.or, u) :: rest => t.Holds ctx ∨ HoldsFrom ctx u rest

/-- Whether the given terms are those that are evaluated of a term and the terms joined to it:
    all up to the first that decides. -/
inductive Evaluates (ctx : Context) : Term → List (Connective × Term) → List Term → Prop where
  | last (t : Term) : Evaluates ctx t [] [t]
  | decided {t u : Term} {c : Connective} {rest : List (Connective × Term)}
      (h : c.Decides (t.Holds ctx)) : Evaluates ctx t ((c, u) :: rest) [t]
  | undecided {t u : Term} {c : Connective} {rest : List (Connective × Term)} {terms : List Term}
      (h : ¬c.Decides (t.Holds ctx)) (later : Evaluates ctx u rest terms) :
      Evaluates ctx t ((c, u) :: rest) (t :: terms)

/-- Whether the last of several terms that find a pattern finds the given groups. -/
def LastFinds (ctx : Context) (terms : List Term) (groups : List Value) : Prop :=
  ∃ before t after, terms = before ++ t :: after ∧ t.Finds ctx groups ∧
    ∀ u ∈ after, ∀ others, ¬u.Finds ctx others

variable {t u : Term} {rest : List (Connective × Term)} {terms : List Term}
  {found : Finding} {groups : List Value}

theorem Evaluates.unique {terms' : List Term} (h : Evaluates ctx t rest terms)
    (h' : Evaluates ctx t rest terms') : terms = terms' := by
  induction h generalizing terms' with
  | last t => cases h'; rfl
  | decided hc =>
    cases h' with
    | decided _ => rfl
    | undecided hc' _ => exact absurd hc hc'
  | undecided hc _ ih =>
    cases h' with
    | decided hc' => exact absurd hc' hc
    | undecided _ later => rw [ih later]

theorem exists_evaluates (ctx : Context) (t : Term) (rest : List (Connective × Term)) :
    ∃ terms, Evaluates ctx t rest terms := by
  induction rest generalizing t with
  | nil => exact ⟨_, .last t⟩
  | cons next rest ih =>
    obtain ⟨c, u⟩ := next
    by_cases hc : c.Decides (t.Holds ctx)
    · exact ⟨_, .decided hc⟩
    · obtain ⟨terms, hterms⟩ := ih u
      exact ⟨_, .undecided hc hterms⟩

/-! ## The finding of the terms that are evaluated -/

/-- A finding after another term has been evaluated. -/
def nextFinding (ctx : Context) (found : Finding) (t : Term) : Finding :=
  { holds := (t.decide ctx).holds
    groups := (t.decide ctx).groups <|> found.groups
    events := found.events ++ (t.decide ctx).events }

theorem decideFrom_cons (c : Connective) :
    decideFrom ctx found ((c, t) :: rest) =
      if c.settledBy found.holds then found
      else decideFrom ctx (nextFinding ctx found t) rest := rfl

/-- A condition is true as its terms are, grouped to the right. -/
theorem holds_decideFrom_iff (h : found.holds = true ↔ t.Holds ctx) :
    (decideFrom ctx found rest).holds = true ↔ HoldsFrom ctx t rest := by
  induction rest generalizing found t with
  | nil => exact h
  | cons next rest ih =>
    obtain ⟨c, u⟩ := next
    have hnext : (decideFrom ctx (nextFinding ctx found u) rest).holds = true ↔
        HoldsFrom ctx u rest := ih u.decide_holds_iff
    rw [decideFrom_cons]
    split
    · next hsettled =>
      have hdecides := (c.settledBy_iff h).1 hsettled
      cases c with
      | and => exact iff_of_false (mt h.1 hdecides) fun hboth => hdecides hboth.1
      | or => exact iff_of_true (h.2 hdecides) (.inl hdecides)
    · next hsettled =>
      have hdecides := mt (c.settledBy_iff h).2 hsettled
      rw [hnext]
      cases c with
      | and => exact (and_iff_right (not_not.1 hdecides)).symm
      | or => exact (or_iff_right hdecides).symm

/-- Only the terms that are evaluated count. -/
theorem decideFrom_of_evaluates (h : Evaluates ctx t rest terms)
    (hfound : found.holds = true ↔ t.Holds ctx) :
    ∃ later, terms = t :: later ∧
      decideFrom ctx found rest = later.foldl (nextFinding ctx) found := by
  induction h generalizing found with
  | last t => exact ⟨[], rfl, rfl⟩
  | @decided t u c rest hc =>
    refine ⟨[], rfl, ?_⟩
    rw [decideFrom_cons, if_pos ((c.settledBy_iff hfound).2 hc)]
    rfl
  | @undecided t u c rest terms hc _ ih =>
    obtain ⟨later, rfl, hlater⟩ := @ih (nextFinding ctx found u) u.decide_holds_iff
    refine ⟨_, rfl, ?_⟩
    rw [decideFrom_cons, if_neg (mt (c.settledBy_iff hfound).1 hc), hlater]
    rfl

theorem events_foldl (terms : List Term) (found : Finding) :
    (terms.foldl (nextFinding ctx) found).events =
      found.events ++ terms.flatMap fun t => (t.decide ctx).events := by
  induction terms generalizing found with
  | nil => simp
  | cons t terms ih => rw [List.foldl_cons, ih, List.flatMap_cons, ← List.append_assoc]; rfl

theorem lastFinds_cons_iff :
    LastFinds ctx (t :: terms) groups ↔
      LastFinds ctx terms groups ∨
        (∀ u ∈ terms, ∀ others, ¬u.Finds ctx others) ∧ t.Finds ctx groups := by
  constructor
  · rintro ⟨before, u, after, hterms, hu, hafter⟩
    cases before with
    | nil =>
      obtain ⟨rfl, rfl⟩ := List.cons.inj hterms
      exact .inr ⟨hafter, hu⟩
    | cons b before =>
      obtain ⟨-, hterms⟩ := List.cons.inj hterms
      exact .inl ⟨before, u, after, hterms, hu, hafter⟩
  · rintro (⟨before, u, after, rfl, hu, hafter⟩ | ⟨hterms, ht⟩)
    · exact ⟨t :: before, u, after, rfl, hu, hafter⟩
    · exact ⟨[], t, terms, rfl, ht, hterms⟩

theorem groups_nextFinding_iff :
    (nextFinding ctx found t).groups = some groups ↔
      t.Finds ctx groups ∨ (∀ others, ¬t.Finds ctx others) ∧ found.groups = some groups := by
  have hnext : (nextFinding ctx found t).groups = ((t.decide ctx).groups <|> found.groups) := rfl
  rw [hnext]
  simp only [← Term.decide_groups_iff]
  cases (t.decide ctx).groups with
  | none => simp
  | some others => simp

/-- Of several patterns that were found the last one counts. -/
theorem groups_foldl_iff :
    (terms.foldl (nextFinding ctx) found).groups = some groups ↔
      LastFinds ctx terms groups ∨
        (∀ u ∈ terms, ∀ others, ¬u.Finds ctx others) ∧ found.groups = some groups := by
  induction terms generalizing found with
  | nil => simp [LastFinds]
  | cons t terms ih =>
    rw [List.foldl_cons, ih, groups_nextFinding_iff, lastFinds_cons_iff, List.forall_mem_cons]
    tauto

/-- What is found out about a condition, by the terms that are evaluated. -/
theorem decide_of_evaluates {c : Condition} (h : Evaluates ctx c.first c.rest terms) :
    ∃ later, terms = c.first :: later ∧
      c.decide ctx = later.foldl (nextFinding ctx) (c.first.decide ctx) :=
  decideFrom_of_evaluates h c.first.decide_holds_iff

theorem groups_decide_iff {c : Condition} (h : Evaluates ctx c.first c.rest terms) :
    (c.decide ctx).groups = some groups ↔ LastFinds ctx terms groups := by
  obtain ⟨later, rfl, hdecide⟩ := decide_of_evaluates h
  rw [hdecide, groups_foldl_iff, lastFinds_cons_iff, Term.decide_groups_iff]

theorem events_decide {c : Condition} (h : Evaluates ctx c.first c.rest terms) :
    (c.decide ctx).events = terms.flatMap fun t => (t.decide ctx).events := by
  obtain ⟨later, rfl, hdecide⟩ := decide_of_evaluates h
  rw [hdecide, events_foldl, List.flatMap_cons]

/-! ## Verdicts -/

theorem verdict_holds (found : Finding) : found.verdict.holds = found.holds := by
  unfold Finding.verdict
  cases found.holds with
  | false => rfl
  | true => cases found.groups <;> rfl

theorem verdict_eq_matched_iff :
    found.verdict = .matched groups ↔ found.holds = true ∧ found.groups = some groups := by
  unfold Finding.verdict
  cases found.holds with
  | false => simp
  | true => cases found.groups <;> simp

/-- For every text there is one condition that it says, whatever the variables are, and in every
    context this is what deciding it comes to:

    * The condition is fulfilled exactly if its terms are true, grouped to the right.
    * There is one list of terms that are evaluated, and what is written to the log is what
      evaluating them writes, in order.
    * It comes to groups exactly if it is fulfilled and one of these terms found a pattern, and
      then to those of the last that did, be it negated or not.
    * Any other text with the same terms evaluated comes to the same. -/
theorem verdict_of_reads (s : Text) :
    ∃ c : Condition, (∀ c', Reads s c' ↔ c' = c) ∧
      ∀ ctx : Context,
        let found := (ofText s).decide ctx
        (found.verdict.holds = true ↔ HoldsFrom ctx c.first c.rest) ∧
          ∃ terms, (∀ terms', Evaluates ctx c.first c.rest terms' ↔ terms' = terms) ∧
            found.events = (terms.flatMap fun t => (t.decide ctx).events) ∧
            (∀ groups, found.verdict = .matched groups ↔
              HoldsFrom ctx c.first c.rest ∧ LastFinds ctx terms groups) ∧
            ∀ s' c', Reads s' c' → Evaluates ctx c'.first c'.rest terms →
              (ofText s').decide ctx = found := by
  refine ⟨ofText s, fun c' => ofText_eq_iff_reads.symm.trans eq_comm, fun ctx => ?_⟩
  intro found
  have hholds : found.holds = true ↔ HoldsFrom ctx (ofText s).first (ofText s).rest :=
    holds_decideFrom_iff (Term.decide_holds_iff _)
  obtain ⟨terms, hterms⟩ := exists_evaluates ctx (ofText s).first (ofText s).rest
  refine ⟨by rw [verdict_holds, hholds], terms, ?_, events_decide hterms, ?_, ?_⟩
  · exact fun terms' => ⟨fun h => h.unique hterms, fun h => h ▸ hterms⟩
  · intro groups
    rw [verdict_eq_matched_iff, hholds, groups_decide_iff hterms]
  · intro s' c' hreads hterms'
    obtain rfl := ofText_eq_iff_reads.2 hreads
    obtain ⟨later, rfl, hdecide⟩ := decide_of_evaluates hterms
    obtain ⟨later', hlater, hdecide'⟩ := decide_of_evaluates hterms'
    obtain ⟨hfirst, rfl⟩ := List.cons.inj hlater
    rw [hdecide', ← hfirst, ← hdecide]

/-- A false term before `&&` decides, and a true one before `||`, whatever is behind it. -/
example :
    let holds := fun s => ((ofText s).decide ⟨.empty, .empty⟩).verdict.holds
    holds "a == b && a == a || a == a".toList = false ∧
      holds "!(a == b) || a && b == a".toList = true := by
  decide +kernel

end Condition

end EdgeInclude
