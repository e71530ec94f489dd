import EdgeInclude.Proofs.Condition.Sign
import Mathlib.Data.List.Forall2

/-!
# How conditions are written

What the terms of a condition are, and what each of them asks, by where signs stand in its text:
a condition is cut at its connectives, the leftmost first, and a term at its first comparison.
Nothing is substituted before, so no value of a variable has a part in it.

Results:
* `splitFrom_eq_iff`: where a condition is cut.
* `splitComparison?_eq_some_iff`, `splitComparison?_eq_none_iff`: where a term is cut.
* `ofText_eq_iff_reads`: what is read from the text of a condition.
-/

namespace EdgeInclude

namespace Condition

variable {s first before after : Text} {rest : List (Connective × Text)}

/-! ## Connectives -/

/-- The connectives by the signs that stand for them. -/
def connectives : List (Text × Connective) := [(['&', '&'], .and), (['|', '|'], .or)]

theorem distinct_connectives : Distinct connectives where
  ne_nil := by decide
  solid := solid_of_all (by decide)
  unique := by decide

theorem readConnective?_eq (s : Text) : readConnective? s = readSign? connectives s := by
  cases s with
  | nil => rfl
  | cons c cs =>
    cases hc : Text.isBlank c with
    | false => simp [readConnective?, readSign?, hc]
    | true =>
      simp only [readConnective?, readSign?, connectives, hc, Bool.not_true, Bool.false_eq_true,
        if_false, List.head?_cons, Option.any_some, if_true, List.findSome?_cons,
        List.findSome?_nil]
      generalize (c :: cs).dropWhile Text.isBlank = t
      split
      · next d rest =>
        cases hd : Text.isBlank d <;> simp [readOne?, Text.after?, Text.afterPrefix?, hd]
      · next d rest =>
        cases hd : Text.isBlank d <;> simp [readOne?, Text.after?, Text.afterPrefix?, hd]
      · next hand hor =>
        have hnone : ∀ entry : Text × Connective, (∀ d rest, t ≠ entry.1 ++ d :: rest) →
            readOne? t entry = none := by
          intro entry hne
          unfold readOne?
          split
          · next d rest hafter => exact absurd (Text.eq_append_of_after? hafter) (hne d rest)
          · rfl
        rw [hnone (['&', '&'], .and) hand, hnone (['|', '|'], .or) hor]

/-- Whether a text is cut into terms at its connectives, from left to right. -/
inductive Cut : Text → Text → List (Connective × Text) → Prop where
  | last {s : Text} (h : NoSign connectives s) : Cut s s []
  | join {s term next after : Text} {c : Connective} {terms : List (Connective × Text)}
      (h : FirstSign connectives s term c after) (rest : Cut after next terms) :
      Cut s term ((c, next) :: terms)

theorem splitFrom_nil (skip : Nat) : splitFrom skip [] = ([], []) := by
  cases skip <;> rfl

theorem splitFrom_cons (c : Char) (cs : Text) :
    splitFrom 0 (c :: cs) =
      match readConnective? (c :: cs) with
      | some (connective, rest) =>
        let (term, terms) := splitFrom (cs.length - rest.length) cs
        ([], (connective, term) :: terms)
      | none =>
        let (term, terms) := splitFrom 0 cs
        (c :: term, terms) := by
  rfl

theorem splitFrom_eq_drop (skip : Nat) (s : Text) :
    splitFrom skip s = splitFrom 0 (s.drop skip) := by
  induction s generalizing skip with
  | nil => rw [List.drop_nil, splitFrom_nil, splitFrom_nil]
  | cons c cs ih =>
    cases skip with
    | zero => rfl
    | succ skip => exact ih skip

namespace Cut

/-- A character where no connective is read belongs to the first term. -/
theorem cons {c : Char} (hc : readSign? connectives (c :: s) = none) (h : Cut s first rest) :
    Cut (c :: s) (c :: first) rest := by
  cases h with
  | last h => exact .last (h.cons distinct_connectives hc)
  | join h rest => exact .join (h.cons distinct_connectives hc) rest

theorem unique {first' : Text} {rest' : List (Connective × Text)} (h : Cut s first rest)
    (h' : Cut s first' rest') : first = first' ∧ rest = rest' := by
  induction h generalizing first' rest' with
  | last hno =>
    cases h' with
    | last _ => exact ⟨rfl, rfl⟩
    | join hfirst _ => exact absurd hno hfirst.not_noSign
  | join hfirst _ ih =>
    cases h' with
    | last hno => exact absurd hno hfirst.not_noSign
    | join hfirst' hrest' =>
      obtain ⟨rfl, rfl, rfl⟩ := hfirst.unique distinct_connectives hfirst'
      obtain ⟨rfl, rfl⟩ := ih hrest'
      exact ⟨rfl, rfl⟩

end Cut

theorem cut_splitFrom (s : Text) : Cut s (splitFrom 0 s).1 (splitFrom 0 s).2 := by
  induction hn : s.length using Nat.strongRecOn generalizing s with
  | ind n ih =>
    cases s with
    | nil => exact .last noSign_nil
    | cons c cs =>
      rw [splitFrom_cons]
      cases hread : readConnective? (c :: cs) with
      | none =>
        rw [readConnective?_eq] at hread
        exact (ih cs.length (by simp [← hn]) cs rfl).cons hread
      | some found =>
        obtain ⟨connective, after⟩ := found
        rw [readConnective?_eq] at hread
        have hfirst := firstSign_of_readSign? hread
        obtain ⟨w, hw, hs⟩ := hfirst.found
        obtain ⟨d, w, rfl⟩ := List.exists_cons_of_ne_nil hw.ne_nil
        obtain ⟨rfl, rfl⟩ : c = d ∧ cs = w ++ after := by simpa using hs
        have hshorter : after.length < n := by
          rw [← hn]
          simp only [List.length_cons, List.length_append]
          omega
        dsimp only
        rw [splitFrom_eq_drop, Text.drop_sub_append]
        exact .join hfirst (ih after.length hshorter after rfl)

/-- A condition is cut exactly at its connectives. -/
theorem splitFrom_eq_iff : splitFrom 0 s = (first, rest) ↔ Cut s first rest := by
  constructor
  · intro h
    have hcut := cut_splitFrom s
    rwa [h] at hcut
  · intro h
    obtain ⟨hfirst, hrest⟩ := h.unique (cut_splitFrom s)
    rw [hfirst, hrest]

/-! ## Comparisons -/

theorem distinct_comparisons : Distinct comparisons where
  ne_nil := by decide
  solid := solid_of_all (by decide)
  unique := by decide

theorem splitComparison?_cons (c : Char) (cs : Text) :
    splitComparison? (c :: cs) =
      match readSign? comparisons (c :: cs) with
      | some (sign, right) => some ([], sign, right)
      | none => (splitComparison? cs).map fun (left, rest) => (c :: left, rest) := by
  rfl

/-- A term without a comparison is not cut; any other is cut at its first. -/
theorem splitComparison?_cases (s : Text) :
    splitComparison? s = none ∧ NoSign comparisons s ∨
      ∃ left sign right, splitComparison? s = some (left, sign, right) ∧
        FirstSign comparisons s left sign right := by
  induction s with
  | nil => exact .inl ⟨rfl, noSign_nil⟩
  | cons c cs ih =>
    rw [splitComparison?_cons]
    cases hread : readSign? comparisons (c :: cs) with
    | some found => exact .inr ⟨[], found.1, found.2, rfl, firstSign_of_readSign? hread⟩
    | none =>
      obtain ⟨hsplit, hno⟩ | ⟨left, sign, right, hsplit, hfirst⟩ := ih
      · exact .inl ⟨by rw [hsplit]; rfl, hno.cons distinct_comparisons hread⟩
      · exact .inr ⟨c :: left, sign, right, by rw [hsplit]; rfl,
          hfirst.cons distinct_comparisons hread⟩

theorem splitComparison?_eq_some_iff {left right : Text} {sign : Comparison} :
    splitComparison? s = some (left, sign, right) ↔ FirstSign comparisons s left sign right := by
  obtain ⟨hsplit, hno⟩ | ⟨l, c, r, hsplit, hfirst⟩ := splitComparison?_cases s
  · rw [hsplit]
    exact iff_of_false nofun fun h => h.not_noSign hno
  · rw [hsplit]
    constructor
    · rintro ⟨⟩
      exact hfirst
    · intro h
      obtain ⟨rfl, rfl, rfl⟩ := hfirst.unique distinct_comparisons h
      rfl

theorem splitComparison?_eq_none_iff : splitComparison? s = none ↔ NoSign comparisons s := by
  obtain ⟨hsplit, hno⟩ | ⟨l, c, r, hsplit, hfirst⟩ := splitComparison?_cases s
  · exact iff_of_true hsplit hno
  · rw [hsplit]
    exact iff_of_false nofun hfirst.not_noSign

end Condition

open Condition

/-! ## Terms -/

namespace Term

/-- Whether a text is what follows one `!` at the start of a text and the blanks behind that, or
    the whole text if it does not begin with one. -/
def IsNegation (s : Text) (negated : Bool) (inner : Text) : Prop :=
  (∃ rest, s = '!' :: rest ∧ negated = true ∧ inner = Text.trimStart rest) ∨
    s.head? ≠ some '!' ∧ negated = false ∧ inner = s

/-- Whether a text is what stands between one pair of parentheses around a text and the blanks
    inside of them, or the whole text if there is no such pair. -/
def IsEnclosed (s bare : Text) : Prop :=
  (∃ inner, s = '(' :: inner ++ [')'] ∧ bare = Text.trim inner) ∨
    (∀ inner, s ≠ '(' :: inner ++ [')']) ∧ bare = s

/-- Whether a text is what is left of that of a term without the blanks around it, the `!` at its
    start and the parentheses around it. -/
def IsBare (s : Text) (negated : Bool) (bare : Text) : Prop :=
  ∃ inner, IsNegation s.trim negated inner ∧ IsEnclosed inner bare

/-- What a term asks by its text: what is left of it is cut at its first comparison, or else is
    asked to be rendered as any text at all. -/
inductive Reads (s : Text) : Term → Prop where
  | comparison {negated : Bool} {bare left right : Text} {sign : Comparison}
      (h : IsBare s negated bare) (cut : FirstSign comparisons bare left sign right) :
      Reads s ⟨negated, .comparison (.ofText left) sign (.ofText right)⟩
  | nonEmpty {negated : Bool} {bare : Text} (h : IsBare s negated bare)
      (whole : NoSign comparisons bare) : Reads s ⟨negated, .nonEmpty bare⟩

variable {s bare bare' : Text} {negated negated' : Bool}

theorem IsNegation.unique {inner inner' : Text} (h : IsNegation s negated inner)
    (h' : IsNegation s negated' inner') : negated = negated' ∧ inner = inner' := by
  obtain ⟨rest, rfl, rfl, rfl⟩ | ⟨hhead, rfl, rfl⟩ := h
  · obtain ⟨rest', hs, rfl, rfl⟩ | ⟨hhead', -⟩ := h'
    · obtain ⟨-, rfl⟩ := List.cons.inj hs
      exact ⟨rfl, rfl⟩
    · exact absurd rfl hhead'
  · obtain ⟨rest', rfl, -⟩ | ⟨-, rfl, rfl⟩ := h'
    · exact absurd rfl hhead
    · exact ⟨rfl, rfl⟩

theorem IsEnclosed.unique (h : IsEnclosed s bare) (h' : IsEnclosed s bare') : bare = bare' := by
  obtain ⟨inner, rfl, rfl⟩ | ⟨hnone, rfl⟩ := h
  · obtain ⟨inner', hs, rfl⟩ | ⟨hnone', -⟩ := h'
    · rw [List.append_cancel_right (List.cons.inj hs).2]
    · exact absurd rfl (hnone' inner)
  · obtain ⟨inner', rfl, -⟩ | ⟨-, rfl⟩ := h'
    · exact absurd rfl (hnone inner')
    · rfl

theorem IsBare.unique (h : IsBare s negated bare) (h' : IsBare s negated' bare') :
    negated = negated' ∧ bare = bare' := by
  obtain ⟨inner, hnegation, henclosed⟩ := h
  obtain ⟨inner', hnegation', henclosed'⟩ := h'
  obtain ⟨rfl, rfl⟩ := hnegation.unique hnegation'
  exact ⟨rfl, henclosed.unique henclosed'⟩

theorem Reads.unique {t t' : Term} (h : Reads s t) (h' : Reads s t') : t = t' := by
  cases h with
  | comparison h cut =>
    cases h' with
    | comparison h' cut' =>
      obtain ⟨rfl, rfl⟩ := h.unique h'
      obtain ⟨rfl, rfl, rfl⟩ := cut.unique distinct_comparisons cut'
      rfl
    | nonEmpty h' whole =>
      obtain ⟨-, rfl⟩ := h.unique h'
      exact absurd whole cut.not_noSign
  | nonEmpty h whole =>
    cases h' with
    | comparison h' cut =>
      obtain ⟨-, rfl⟩ := h.unique h'
      exact absurd whole cut.not_noSign
    | nonEmpty h' _ =>
      obtain ⟨rfl, rfl⟩ := h.unique h'
      rfl

theorem between?_eq_some_iff {start stop inner : Text} :
    between? start stop s = some inner ↔ s = start ++ inner ++ stop := by
  simp only [between?, Option.bind_eq_some_iff, Text.after?_eq_some_iff,
    Text.beforeSuffix?_eq_some_iff, List.append_assoc]
  constructor
  · rintro ⟨rest, rfl, rfl⟩
    rfl
  · rintro rfl
    exact ⟨_, rfl, rfl⟩

theorem isEnclosed_getD (s : Text) :
    IsEnclosed s (((between? ['('] [')'] s).map Text.trim).getD s) := by
  cases h : between? ['('] [')'] s with
  | some inner => exact .inl ⟨inner, between?_eq_some_iff.1 h, rfl⟩
  | none =>
    refine .inr ⟨fun inner hs => ?_, rfl⟩
    rw [between?_eq_some_iff.2 hs] at h
    cases h

/-- Whether a term is negated, and what is left of its text without the `!`. -/
def negation : Text → Bool × Text
  | '!' :: rest => (true, Text.trimStart rest)
  | s => (false, s)

theorem isNegation_negation (s : Text) : IsNegation s (negation s).1 (negation s).2 := by
  unfold negation
  split
  · next rest => exact .inl ⟨rest, rfl, rfl, rfl⟩
  · next hhead =>
    refine .inr ⟨fun hs => ?_, rfl, rfl⟩
    obtain ⟨rest, hrest⟩ := List.head?_eq_some_iff.1 hs
    exact hhead rest hrest

/-- A term is read from what is left of its text. -/
theorem exists_isBare (s : Text) : ∃ negated bare, IsBare s negated bare ∧
    ofText s =
      match splitComparison? bare with
      | some (left, sign, right) =>
        ⟨negated, .comparison (Operand.ofText left) sign (Operand.ofText right)⟩
      | none => ⟨negated, .nonEmpty bare⟩ :=
  ⟨(negation s.trim).1, _, ⟨_, isNegation_negation s.trim, isEnclosed_getD _⟩, by rfl⟩

theorem reads_ofText (s : Text) : Reads s (ofText s) := by
  obtain ⟨negated, bare, hbare, hs⟩ := exists_isBare s
  rw [hs]
  cases hsplit : splitComparison? bare with
  | some cut => exact .comparison hbare (splitComparison?_eq_some_iff.1 hsplit)
  | none => exact .nonEmpty hbare (splitComparison?_eq_none_iff.1 hsplit)

/-- What a term asks is what its text says. -/
theorem ofText_eq_iff {t : Term} : ofText s = t ↔ Reads s t := by
  constructor
  · rintro rfl
    exact reads_ofText s
  · exact fun h => (reads_ofText s).unique h

end Term

/-! ## Conditions -/

namespace Condition

/-- Whether a condition is the one that a text says: the text is cut at its connectives, and each
    term is read by itself. -/
def Reads (s : Text) (c : Condition) : Prop :=
  ∃ first rest, Cut s first rest ∧ Term.Reads first c.first ∧
    List.Forall₂ (fun text term => text.1 = term.1 ∧ Term.Reads text.2 term.2) rest c.rest

theorem ofText_eq (s : Text) :
    ofText s = ⟨Term.ofText (splitFrom 0 s).1,
      (splitFrom 0 s).2.map fun text => (text.1, Term.ofText text.2)⟩ := by
  rfl

/-- The condition that is read is the one that the text says. -/
theorem ofText_eq_iff_reads {s : Text} {c : Condition} : ofText s = c ↔ Reads s c := by
  have hterms : ∀ (rest : List (Connective × Text)) (terms : List (Connective × Term)),
      (rest.map fun text => (text.1, Term.ofText text.2)) = terms ↔
        List.Forall₂ (fun text term => text.1 = term.1 ∧ Term.Reads text.2 term.2) rest terms := by
    intro rest terms
    simp only [← Term.ofText_eq_iff]
    rw [← List.forall₂_eq_eq_eq, List.forall₂_map_left_iff]
    simp only [Prod.ext_iff]
  obtain ⟨first, rest⟩ := c
  rw [ofText_eq]
  unfold Reads
  simp only [mk.injEq, hterms, Term.ofText_eq_iff, ← splitFrom_eq_iff]
  constructor
  · rintro ⟨hfirst, hrest⟩
    exact ⟨_, _, rfl, hfirst, hrest⟩
  · rintro ⟨_, _, hcut, hfirst, hrest⟩
    rw [hcut]
    exact ⟨hfirst, hrest⟩

end Condition

end EdgeInclude
