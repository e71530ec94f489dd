import EdgeInclude.Proofs.Condition.Deciding
import EdgeInclude.Proofs.Expression.Segments

/-!
# Raw texts in conditions

A variable is compared with a raw text between three quotes. The text stands for itself, with
all that looks like a comparison, a negation, a quote or a template in it. But a condition is cut
at its connectives before anything else, and quotes have no part in that: a connective between
blanks cuts the text as well.

Results:
* `Cut.append`, `Cut.prepend`: how conditions are cut that are put together.
* `ofText_literalTest`: what is read from a comparison with a raw text.
* `verdict_literalTest`: when a variable is found to be a raw text.
-/

namespace EdgeInclude

namespace Condition

variable {s t first : Text} {rest : List (Connective × Text)} {x : Char}

/-! ## Conditions put together -/

/-- What stands behind a character that no connective has belongs to the last term. -/
theorem Cut.append (hx : Apart connectives x) (ht : NoSign connectives t) (h : Cut s first rest) :
    (rest = [] → Cut (s ++ x :: t) (first ++ x :: t) []) ∧
      ∀ before c last, rest = before ++ [(c, last)] →
        Cut (s ++ x :: t) first (before ++ [(c, last ++ x :: t)]) := by
  induction h with
  | last hs => exact ⟨fun _ => .last (hs.append hx ht), by simp⟩
  | @join s term next after d terms hfirst _ ih =>
    refine ⟨nofun, fun before c last hterms => ?_⟩
    cases before with
    | nil =>
      obtain ⟨⟨⟨⟩, ⟨⟩⟩, rfl⟩ := List.cons.inj hterms
      exact .join (hfirst.append hx t) (ih.1 rfl)
    | cons b before =>
      obtain ⟨rfl, hrest⟩ := List.cons.inj hterms
      exact .join (hfirst.append hx t) (ih.2 before c last hrest)

/-- What stands before such a character belongs to the first term. -/
theorem Cut.prepend (hx : Apart connectives x) (ht : NoSign connectives t) (h : Cut s first rest) :
    Cut (t ++ x :: s) (t ++ x :: first) rest := by
  cases h with
  | last hs => exact .last (ht.append hx hs)
  | join hfirst hrest => exact .join (hfirst.prepend hx ht) hrest

theorem noSign_connectives (hand : '&' ∉ s) (hor : '|' ∉ s) : NoSign connectives s :=
  noSign_of_not_mem (by simp [connectives, hand, hor])

theorem apart_quote : Apart connectives '\'' := ⟨by decide, by decide⟩

/-! ## Comparisons with raw texts -/

/-- A reference to a variable, as it is written in a template. -/
def referenceTo (v : Text) : Text := '$' :: '(' :: v ++ [')']

/-- What a test begins with that compares a variable with a raw text. -/
def openLiteral (v : Text) : Text := referenceTo v ++ " == ".toList ++ rawQuotes

/-- A test that compares a variable with a raw text. -/
def literalTest (v s : Text) : Text := openLiteral v ++ s ++ rawQuotes

/-- A raw text stands between two quotes that no connective is written across. -/
theorem literalTest_eq (v s : Text) :
    literalTest v s =
      (referenceTo v ++ " == ''".toList) ++ '\'' :: (s ++ '\'' :: ['\'', '\'']) := by
  simp [literalTest, openLiteral, rawQuotes]

variable {v : Text} {ctx : Context}

/-- A reference to a variable whose name consists of letters is rendered as its value. -/
theorem render_referenceTo (hv : ∀ c ∈ v, c.isAlpha = true) :
    Template.render ctx (referenceTo v) = (ctx.scope.lookup v none).display := by
  have hkeyless : ∀ name key, Reference.IsKey key → v ≠ name ++ Reference.braced key := by
    rintro name key - rfl
    exact absurd (hv '\x7b' (by simp [Reference.braced])) (by decide)
  have hclosed : ')' ∉ v := fun h => absurd (hv _ h) (by decide)
  have hwritten : (Expr.reference ⟨v, none⟩).IsWritten ctx.library.contains (referenceTo v) :=
    ⟨v, ⟨hclosed, rfl, hkeyless⟩, rfl⟩
  have hrender := Template.render_written hwritten []
  rw [List.append_nil] at hrender
  exact hrender.trans (List.append_nil _)

/-- Such a reference is one word, so the first comparison is the one behind it. -/
theorem solid_referenceTo (hv : ∀ c ∈ v, c.isAlpha = true) :
    ∀ c ∈ referenceTo v, Text.isBlank c = false := by
  intro c hc
  obtain rfl | rfl | hc | rfl : c = '$' ∨ c = '(' ∨ c ∈ v ∨ c = ')' := by
    simpa [referenceTo] using hc
  · rfl
  · rfl
  · exact Text.isBlank_eq_false_of_isAlpha (hv c hc)
  · rfl

theorem operand_referenceTo (v : Text) :
    Operand.ofText (referenceTo v) = .template (referenceTo v) := by
  have htrim : (referenceTo v).trim = referenceTo v :=
    Text.trim_eq_self rfl (by rw [referenceTo, List.getLast?_append]; rfl)
  have hquote : ∀ quotes : Text,
      between? ('\'' :: quotes) ('\'' :: quotes) (referenceTo v) = none := by
    intro quotes
    rw [Option.eq_none_iff_forall_ne_some]
    intro inner hinner
    cases Term.between?_eq_some_iff.1 hinner
  simp only [Operand.ofText, htrim, hquote, Option.getD_none]

theorem operand_rawQuotes (s : Text) : Operand.ofText (rawQuotes ++ s ++ rawQuotes) = .raw s := by
  have htrim : (rawQuotes ++ s ++ rawQuotes).trim = rawQuotes ++ s ++ rawQuotes :=
    Text.trim_eq_self rfl (by rw [List.getLast?_append]; rfl)
  have hbetween : between? rawQuotes rawQuotes (rawQuotes ++ s ++ rawQuotes) = some s :=
    Term.between?_eq_some_iff.2 rfl
  rw [rawQuotes] at hbetween htrim ⊢
  simp only [Operand.ofText, htrim, hbetween]

/-- The term that compares a variable with a raw text. -/
def literalTerm (v s : Text) : Term :=
  ⟨false, .comparison (.template (referenceTo v)) .equal (.raw s)⟩

/-- Nothing between the quotes has a part in how the term is read. -/
theorem term_literalTest (hv : ∀ c ∈ v, c.isAlpha = true) (s : Text) :
    Term.ofText (literalTest v s) = literalTerm v s := by
  have htrim : (literalTest v s).trim = literalTest v s :=
    Text.trim_eq_self rfl (by rw [literalTest, List.getLast?_append]; rfl)
  have hbare : Term.IsBare (literalTest v s) false (literalTest v s) := by
    refine ⟨literalTest v s, .inr ⟨?_, rfl, htrim.symm⟩, .inr ⟨?_, rfl⟩⟩
    · rw [htrim]
      exact nofun
    · rintro inner ⟨⟩
  have hgap : IsGap [' '] := ⟨by decide, List.forall_mem_singleton.2 rfl⟩
  have hequal : IsSign comparisons .equal " == ".toList :=
    ⟨['=', '='], [' '], [' '], by decide, hgap, hgap, rfl⟩
  have hfirst : FirstSign comparisons (literalTest v s) (referenceTo v) .equal
      (rawQuotes ++ s ++ rawQuotes) := by
    have h := firstSign_of_solid distinct_comparisons (solid_referenceTo hv) hequal
      (show (rawQuotes ++ s ++ rawQuotes).head?.any Text.isBlank = false from rfl)
    simpa only [literalTest, openLiteral, List.append_assoc] using h
  have hreads := Term.ofText_eq_iff.2 (.comparison hbare hfirst)
  rwa [operand_referenceTo, operand_rawQuotes] at hreads

/-- What stands around the raw text belongs to the first and to the last term that it is cut
    into. -/
theorem cut_literalTest (hv : ∀ c ∈ v, c.isAlpha = true) (h : Cut s first rest) :
    (rest = [] → Cut (literalTest v s) (openLiteral v ++ first ++ rawQuotes) []) ∧
      ∀ before c last, rest = before ++ [(c, last)] →
        Cut (literalTest v s) (openLiteral v ++ first) (before ++ [(c, last ++ rawQuotes)]) := by
  have hname : ∀ {c : Char}, c.isAlpha = false → c ∉ v := fun hc hmem => by simp [hv _ hmem] at hc
  have hopen : NoSign connectives (referenceTo v ++ " == ''".toList) :=
    noSign_connectives (by simp [referenceTo, hname (c := '&') (by decide)])
      (by simp [referenceTo, hname (c := '|') (by decide)])
  have hquotes : NoSign connectives ['\'', '\''] := noSign_connectives (by decide) (by decide)
  have hfirst : ∀ first : Text, openLiteral v ++ first =
      referenceTo v ++ " == ''".toList ++ '\'' :: first := by
    simp [openLiteral, rawQuotes]
  rw [literalTest_eq, hfirst]
  obtain ⟨hwhole, hparts⟩ := h.append apart_quote hquotes
  constructor
  · rintro rfl
    have hcut := (hwhole rfl).prepend apart_quote hopen
    simpa [rawQuotes] using hcut
  · rintro before c last rfl
    exact (hparts before c last rfl).prepend apart_quote hopen

theorem ofText_literalTest (hv : ∀ c ∈ v, c.isAlpha = true) (hs : NoSign connectives s) :
    ofText (literalTest v s) = ⟨literalTerm v s, []⟩ := by
  have hcut : Cut (literalTest v s) (literalTest v s) [] := (cut_literalTest hv (.last hs)).1 rfl
  rw [ofText_eq, splitFrom_eq_iff.2 hcut, term_literalTest hv, List.map_nil]

/-- For a variable whose name consists of letters, any text between three quotes and every
    context:

    * If no connective is written between blanks in the text, the test that compares them is
      fulfilled exactly if the value of the variable is displayed as this text. Whatever else is
      in the text has no part in that.
    * Otherwise the test is cut where the text by itself is. Its first term is a comparison with
      what is before the first connective and the quotes that open the text, and its last term is
      what is behind the last connective and the quotes that close it. -/
theorem verdict_literalTest (hv : ∀ c ∈ v, c.isAlpha = true) (s : Text) :
    (NoSign connectives s → ∀ ctx : Context,
      (((ofText (literalTest v s)).decide ctx).verdict.holds = true ↔
        (ctx.scope.lookup v none).display = s)) ∧
      ∀ first before c last, Cut s first (before ++ [(c, last)]) →
        Cut (literalTest v s) (openLiteral v ++ first) (before ++ [(c, last ++ rawQuotes)]) := by
  refine ⟨fun hs ctx => ?_, fun first before c last h => (cut_literalTest hv h).2 before c last rfl⟩
  have hdecide : ((ofText (literalTest v s)).decide ctx).holds =
      ((Template.render ctx (referenceTo v) == s) != false) := by
    rw [ofText_literalTest hv hs]
    rfl
  rw [verdict_holds, hdecide, render_referenceTo hv]
  simp

/-- The context in which a variable `v` has a text for its value, and there is nothing else. -/
def binding (value : Text) : Context := ⟨.empty, Scope.empty.insert ['v'] (.string value)⟩

/-- A raw text with a negation, a comparison, a quote and a connective in it. -/
theorem verdict_literalTest_signs :
    let s := "!($(v) >= 'x') &&".toList
    ((ofText (literalTest ['v'] s)).decide (binding s)).verdict.holds = true ∧
      ((ofText (literalTest ['v'] s)).decide (binding ['x'])).verdict.holds = false := by
  intro s
  have hname : ∀ c ∈ ['v'], c.isAlpha = true := List.forall_mem_singleton.2 rfl
  have hs : NoSign connectives s := by
    cases splitFrom_eq_iff.1 (show splitFrom 0 s = (s, []) by decide +kernel) with
    | last h => exact h
  have hverdict := (verdict_literalTest hname s).1 hs
  refine ⟨(hverdict (binding s)).2 (by decide +kernel), ?_⟩
  rw [← Bool.not_eq_true]
  exact mt (hverdict (binding ['x'])).1 (by decide +kernel)

/-- A raw text that is cut at a connective is not what the variable is compared with. -/
theorem literalTest_not_raw :
    ¬∀ (v s : Text) (ctx : Context), (∀ c ∈ v, c.isAlpha = true) → ¬rawQuotes <:+: s →
      (((ofText (literalTest v s)).decide ctx).verdict.holds = true ↔
        (ctx.scope.lookup v none).display = s) := by
  intro h
  have hraw := h ['v'] "a && b".toList (binding "a && b".toList)
    (List.forall_mem_singleton.2 rfl) (by decide +kernel)
  have hno : ((ofText (literalTest ['v'] "a && b".toList)).decide
      (binding "a && b".toList)).verdict.holds = false := by decide +kernel
  rw [hno] at hraw
  exact absurd (hraw.2 (by decide +kernel)) (by decide)

end Condition

end EdgeInclude
