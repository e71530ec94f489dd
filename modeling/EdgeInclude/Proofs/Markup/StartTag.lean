import EdgeInclude.Markup.Tag
import EdgeInclude.Proofs.Text.Character
import EdgeInclude.Proofs.Text.Parts
import Mathlib.Data.List.Forall2
import Mathlib.Tactic.SplitIfs

/-!
# Start tags

What a tag begins with, and where its start tag ends: at the first `>` that is
not part of a quoted value. Whether a place is part of one is settled by the
characters before it alone, read from left to right.

Results:
* `afterAnyCase?_eq_some_iff`: an opener is found exactly where it stands up to
  the case of ASCII letters.
* `splitStart_eq_some_iff`: a start tag is cut at its first `>` outside of
  quoted values, and nowhere else.
* `splitStart_eq_none_iff`: there is no such `>` where it cannot be cut.
-/

namespace EdgeInclude

namespace Text

/-! ## Prefixes up to letter case -/

/-- Equality of texts up to the case of ASCII letters. -/
def SameText (s t : Text) : Prop := List.Forall₂ (fun a b => sameLetter a b = true) s t

theorem SameText.length_eq {s t : Text} (h : SameText s t) : s.length = t.length :=
  List.Forall₂.length_eq h

/-- A text that begins with anything but a letter begins so in any letter case. -/
theorem SameText.exists_cons {c : Char} {s t : Text} (hc : c.isAlpha = false)
    (h : SameText (c :: s) t) : ∃ rest, t = c :: rest ∧ SameText s rest := by
  cases h with
  | @cons _ d _ rest hcd h =>
    have hdc : sameLetter d c = true := by
      simp only [sameLetter, beq_iff_eq] at hcd ⊢
      exact hcd.symm
    exact ⟨rest, by rw [eq_of_sameLetter hc hdc], h⟩

theorem afterAnyCase?_eq_some_iff {lead s rest : Text} :
    afterAnyCase? lead s = some rest ↔ ∃ head, s = head ++ rest ∧ SameText lead head := by
  induction lead generalizing s with
  | nil =>
    constructor
    · intro h
      exact ⟨[], by simpa [afterAnyCase?, afterPrefix?] using h, .nil⟩
    · rintro ⟨head, rfl, h⟩
      cases h
      rfl
  | cons p ps ih =>
    cases s with
    | nil =>
      simp only [afterAnyCase?, afterPrefix?, reduceCtorEq, false_iff]
      rintro ⟨head, hs, h⟩
      cases h
      simp at hs
    | cons c cs =>
      rw [afterAnyCase?, afterPrefix?]
      split_ifs with hpc
      · rw [ih]
        constructor
        · rintro ⟨head, rfl, h⟩
          exact ⟨c :: head, rfl, .cons hpc h⟩
        · rintro ⟨head, hs, h⟩
          cases h with
          | cons _ h =>
            obtain ⟨rfl, rfl⟩ := List.cons.inj hs
            exact ⟨_, rfl, h⟩
      · simp only [false_iff]
        rintro ⟨head, hs, h⟩
        cases h with
        | cons hab h =>
          obtain ⟨rfl, -⟩ := List.cons.inj hs
          exact hpc hab

theorem afterAnyCase?_cons_ne_none {p c : Char} {lead s : Text} :
    afterAnyCase? (p :: lead) (c :: s) ≠ none ↔
      sameLetter p c = true ∧ afterAnyCase? lead s ≠ none := by
  rw [afterAnyCase?, afterPrefix?]
  split_ifs with h <;> simp [h]

end Text

namespace Tag

/-! ## Quoted values -/

/-- One character of a start tag, read where `(quote, afterEquals)` says which quoted value is
    open, if one is, and whether an equals sign has just been read. -/
def quoteStep : Option Char × Bool → Char → Option Char × Bool
  | (some q, _), c => (if c = q then none else some q, c == '=')
  | (none, afterEquals), c =>
    (if afterEquals && (c == '"' || c == '\'') then some c else none, c == '=')

/-- The quote of the value that is open at the end of a text, where reading begins in the
    given state. -/
def openQuoteFrom (state : Option Char × Bool) (s : Text) : Option Char :=
  (s.foldl quoteStep state).1

/-- The quote of the value that is open after the given part of a start tag. -/
def openQuote (s : Text) : Option Char := openQuoteFrom (none, false) s

/-- Every `>` of a text is part of a quoted value. -/
def UnendedFrom (state : Option Char × Bool) (s : Text) : Prop :=
  ∀ u v, s = u ++ '>' :: v → openQuoteFrom state u ≠ none

/-- A part of a start tag in which every `>` belongs to a quoted value. -/
def Unended (s : Text) : Prop := UnendedFrom (none, false) s

/-! ## The end of a start tag -/

theorem splitStart_cons (quote : Option Char) (afterEquals : Bool) (c : Char) (cs : Text) :
    splitStart quote afterEquals (c :: cs) =
      if quote = none ∧ c = '>' then some ([], cs)
      else
        let state := quoteStep (quote, afterEquals) c
        (splitStart state.1 state.2 cs).map fun (s, rest) => (c :: s, rest) := by
  cases quote with
  | some q =>
    rw [if_neg (show ¬(some q = none ∧ c = '>') by simp), splitStart]
    rfl
  | none =>
    rw [splitStart]
    by_cases hq : (afterEquals && (c == '"' || c == '\'')) = true
    · have hc : c = '"' ∨ c = '\'' := by simpa using (Bool.and_eq_true_iff.1 hq).2
      have heq : (c == '=') = false := by rcases hc with rfl | rfl <;> rfl
      have hgt : c ≠ '>' := by rcases hc with rfl | rfl <;> decide
      rw [if_pos hq, if_neg (by simp [hgt])]
      simp only [quoteStep, if_pos hq, heq]
    · rw [if_neg hq]
      by_cases hgt : c = '>'
      · rw [if_pos hgt, if_pos ⟨rfl, hgt⟩]
      · rw [if_neg hgt, if_neg (by simp [hgt])]
        simp only [quoteStep, if_neg hq]

/-- A start tag is cut at a `>` outside of quoted values that has none before it. -/
theorem splitStart_eq_some_iff {quote : Option Char} {afterEquals : Bool} {s inner rest : Text} :
    splitStart quote afterEquals s = some (inner, rest) ↔
      s = inner ++ '>' :: rest ∧ openQuoteFrom (quote, afterEquals) inner = none ∧
        UnendedFrom (quote, afterEquals) inner := by
  induction s generalizing quote afterEquals inner with
  | nil => simp [splitStart]
  | cons c cs ih =>
    rw [splitStart_cons]
    split_ifs with h
    · obtain ⟨rfl, rfl⟩ := h
      constructor
      · intro heq
        obtain ⟨rfl, rfl⟩ := Prod.mk.inj (Option.some.inj heq)
        exact ⟨rfl, rfl, fun u v hu => by simp at hu⟩
      · rintro ⟨hs, -, hfirst⟩
        cases inner with
        | nil => simpa using hs
        | cons d inner =>
          obtain ⟨rfl, -⟩ := List.cons.inj hs
          exact absurd rfl (hfirst [] inner rfl)
    · simp only [Option.map_eq_some_iff, Prod.exists, Prod.mk.injEq]
      constructor
      · rintro ⟨inner, rest, hsplit, rfl, rfl⟩
        obtain ⟨rfl, hopen, hfirst⟩ := ih.1 hsplit
        refine ⟨rfl, hopen, fun u v hu => ?_⟩
        cases u with
        | nil =>
          -- the first character would end the tag itself
          obtain ⟨rfl, -⟩ := List.cons.inj hu
          intro hq
          exact h ⟨hq, rfl⟩
        | cons d u =>
          obtain ⟨rfl, rfl⟩ := List.cons.inj hu
          exact hfirst u v rfl
      · rintro ⟨hs, hopen, hfirst⟩
        cases inner with
        | nil =>
          obtain ⟨rfl, rfl⟩ := List.cons.inj hs
          exact absurd ⟨hopen, rfl⟩ h
        | cons d inner =>
          obtain ⟨rfl, rfl⟩ := List.cons.inj hs
          refine ⟨inner, rest, ih.2 ⟨rfl, hopen, fun u v hu => ?_⟩, rfl, rfl⟩
          exact hfirst (c :: u) v (by rw [hu]; rfl)

/-- A start tag that cannot be cut has no `>` outside of quoted values. -/
theorem splitStart_eq_none_iff {quote : Option Char} {afterEquals : Bool} {s : Text} :
    splitStart quote afterEquals s = none ↔ UnendedFrom (quote, afterEquals) s := by
  induction s generalizing quote afterEquals with
  | nil => simp [splitStart, UnendedFrom]
  | cons c cs ih =>
    rw [splitStart_cons]
    split_ifs with h
    · obtain ⟨rfl, rfl⟩ := h
      simp only [false_iff]
      intro hnone
      exact hnone [] cs rfl rfl
    · rw [Option.map_eq_none_iff, ih]
      constructor
      · intro hcs u v hu
        cases u with
        | nil =>
          obtain ⟨rfl, -⟩ := List.cons.inj hu
          intro hq
          exact h ⟨hq, rfl⟩
        | cons d u =>
          obtain ⟨rfl, rfl⟩ := List.cons.inj hu
          exact hcs u v rfl
      · intro hcs u v hu
        exact hcs (c :: u) v (by rw [hu]; rfl)

end Tag

end EdgeInclude
