import EdgeInclude.Proofs.Markup.Comment

/-!
# Weights of documents

What tags and comments weigh in a document. A tag with a body takes two `<` from the
document around it. A comment that is unwrapped has one `<` only, and gives two to the
tags in its place; so a `<` that a `!` follows is counted twice. Counted in this way,
unwrapping makes no document heavier, although it makes it longer and brings new tags,
and the body of a tag is lighter than the document that the tag stands in.

Results:
* `noHeavier_unwrap`: unwrapping comments makes no document heavier.
* `maxDepth_body_lt`: the bound that the weight puts on the depth of nesting is less
  for the body of a tag than for the document.
* `maxDepth_le_count`: it is at most the number of `<` in the document.
-/

namespace EdgeInclude

namespace Text

/-! ## Characters that begin tags and comments -/

/-- Whether a character is one of those that tags and comments begin with. -/
def isOpening (c : Char) : Bool := c == '<' || c == '!'

/-- The number of characters of a text that tags and comments begin with. -/
def openings (s : Text) : Nat := s.countP isOpening

theorem not_mem_of_openings_eq_zero {s : Text} (h : s.openings = 0) : '<' ∉ s ∧ '!' ∉ s := by
  have hnone := List.countP_eq_zero.1 h
  exact ⟨fun hlt => hnone _ hlt rfl, fun hbang => hnone _ hbang rfl⟩

theorem openings_eq_zero_of_isAlphanum {s : Text} (h : ∀ c ∈ s, c.isAlphanum = true) :
    s.openings = 0 := by
  refine List.countP_eq_zero.2 fun c hc hopening => ?_
  have halphanum := h c hc
  simp only [isOpening, Bool.or_eq_true, beq_iff_eq] at hopening
  obtain rfl | rfl := hopening <;> revert halphanum <;> decide

/-! ## Weights -/

/-- The number of `<` in a text, where those that a `!` follows count twice. -/
def weight : Text → Nat
  | [] => 0
  | c :: cs => weight cs + if c = '<' then (if cs.head? = some '!' then 2 else 1) else 0

/-- How deep tags can be nested in a text of this weight. -/
def maxDepth (s : Text) : Nat := (weight s + 1) / 2

theorem weight_cons_of_ne {c : Char} (h : c ≠ '<') (s : Text) : weight (c :: s) = weight s := by
  rw [weight, if_neg h, Nat.add_zero]

theorem weight_lt_cons {s : Text} (h : s.head? ≠ some '!') : weight ('<' :: s) = weight s + 1 := by
  rw [weight, if_pos rfl, if_neg h]

theorem weight_comment_cons (s : Text) : weight ('<' :: '!' :: s) = weight s + 2 := by
  rw [weight, weight_cons_of_ne (by decide)]
  rfl

/-- Tags cannot be nested deeper than a text has `<`. -/
theorem maxDepth_le_count (s : Text) : maxDepth s ≤ s.count '<' := by
  have hweight : weight s ≤ 2 * s.count '<' := by
    induction s with
    | nil => exact Nat.zero_le _
    | cons c cs ih =>
      by_cases hc : c = '<'
      · rw [weight, if_pos hc, List.count_cons, hc, if_pos (beq_self_eq_true _)]
        split <;> omega
      · rw [weight_cons_of_ne hc, List.count_cons_of_ne hc]
        exact ih
  unfold maxDepth
  omega

theorem maxDepth_le_length (s : Text) : maxDepth s ≤ s.length :=
  Nat.le_trans (maxDepth_le_count s) List.count_le_length

/-- A text without `<` adds nothing to the weight of the text behind it. -/
theorem weight_append_of_not_mem {s : Text} (h : '<' ∉ s) (t : Text) :
    weight (s ++ t) = weight t := by
  induction s with
  | nil => rfl
  | cons c s ih =>
    obtain ⟨hc, hs⟩ := not_or.1 (mt List.mem_cons.2 h)
    rw [List.cons_append, weight_cons_of_ne (Ne.symm hc), ih hs]

theorem weight_append {s t : Text} (h : t.head? ≠ some '!') :
    weight (s ++ t) = weight s + weight t := by
  induction s with
  | nil => rw [List.nil_append, weight, Nat.zero_add]
  | cons c s ih =>
    have hhead : (s ++ t).head? = some '!' ↔ s.head? = some '!' := by
      cases s with
      | nil => simpa using h
      | cons d s => rfl
    rw [List.cons_append, weight, weight, ih]
    simp only [hhead]
    omega

/-- A `<` and a `!` can meet where texts are joined, but nothing gets lighter. -/
theorem weight_add_le (s t : Text) : weight s + weight t ≤ weight (s ++ t) := by
  induction s with
  | nil => rw [List.nil_append, weight, Nat.zero_add]
  | cons c s ih =>
    have hhead : s.head? = some '!' → (s ++ t).head? = some '!' := by
      cases s <;> simp
    rw [List.cons_append, weight, weight]
    split
    · split
      · next hs => rw [if_pos (hhead hs)]; omega
      · split <;> omega
    · omega

/-- A text that weighs no more than another one, also behind a `<`. -/
structure NoHeavier (s t : Text) : Prop where
  weight_le : weight s ≤ weight t
  head?_eq : s.head? = some '!' → t.head? = some '!'

theorem NoHeavier.refl (s : Text) : NoHeavier s s := ⟨Nat.le_refl _, id⟩

theorem NoHeavier.maxDepth_le {s t : Text} (h : NoHeavier s t) : maxDepth s ≤ maxDepth t := by
  have hweight := h.weight_le
  unfold maxDepth
  omega

theorem NoHeavier.append_left {s t : Text} (h : NoHeavier s t) (u : Text) :
    NoHeavier (u ++ s) (u ++ t) := by
  induction u with
  | nil => exact h
  | cons c u ih =>
    have hweight := ih.weight_le
    refine ⟨?_, fun hc => hc⟩
    rw [List.cons_append, List.cons_append, weight, weight]
    split
    · split
      · next hu => rw [if_pos (ih.head?_eq hu)]; omega
      · split <;> omega
    · omega

end Text

open Text

/-! ## Comments -/

namespace Comment

/-- The opener of a comment weighs as much as two tags. -/
theorem two_le_weight_of_opener {ns head : Text} (h : SameText (opener ns) head) :
    2 ≤ weight head := by
  obtain ⟨named, rfl, hnamed⟩ := h.exists_cons (by decide)
  obtain ⟨rest, rfl, -⟩ := hnamed.exists_cons (by decide)
  rw [weight_comment_cons]
  omega

/-- The tags in the place of a comment weigh as much as its opener. -/
theorem weight_unwrap_wrapped {ns : Text} (hns : ns.openings = 0) (content rest : Text) :
    weight ((Piece.wrapped content).unwrap ns ++ rest) = weight content + 2 + weight rest := by
  obtain ⟨hlt, hbang⟩ := not_mem_of_openings_eq_zero hns
  have hname : ∀ t, weight (ns ++ (":vars>".toList ++ t)) = weight t := fun t => by
    rw [weight_append_of_not_mem hlt, weight_append_of_not_mem (by decide)]
  have hstart : ∀ t, weight ('<' :: (ns ++ (":vars>".toList ++ t))) = weight t + 1 := by
    intro t
    have hhead : (ns ++ (":vars>".toList ++ t)).head? ≠ some '!' :=
      head?_append_ne hbang (by simp)
    rw [weight_lt_cons hhead, hname]
  have hend : ∀ t, weight ('<' :: '/' :: (ns ++ (":vars>".toList ++ t))) = weight t + 1 := by
    intro t
    rw [weight_lt_cons (by simp), weight_cons_of_ne (by decide), hname]
  have hsplit : (Piece.wrapped content).unwrap ns ++ rest =
      '<' :: (ns ++ (":vars>".toList ++
        (content ++ '<' :: '/' :: (ns ++ (":vars>".toList ++ rest))))) := by
    simp [Piece.unwrap, varsStart, varsEnd, Tag.opener, Tag.endOpener]
  rw [hsplit, hstart, weight_append (by simp), hend]
  omega

/-- Unwrapping comments makes no document heavier. -/
theorem noHeavier_unwrap {ns : Text} (hns : ns.openings = 0) (s : Text) :
    NoHeavier (unwrap ns s) s := by
  induction s using opener_induction ns with
  | nil => exact .refl []
  | character c s hc ih =>
    rw [unwrap_cons hc]
    exact ih.append_left [c]
  | opens head s hhead ih =>
    rw [unwrap_opener hhead]
    split
    · -- A name goes on from the opener, which stays as it is.
      exact (ih s List.suffix_rfl).append_left head
    · cases hcloser : splitFirst closer s with
      | none => exact .refl (head ++ s)
      | some cut =>
        obtain ⟨content, after⟩ := cut
        obtain rfl := eq_append_of_splitFirst hcloser
        refine ⟨?_, fun h => by simp [Piece.unwrap, varsStart, Tag.opener] at h⟩
        have hopens := two_le_weight_of_opener hhead
        have hwhole := weight_add_le head (content ++ closer ++ after)
        have hwrapped := weight_add_le (content ++ closer) after
        have hcontent := weight_add_le content closer
        have hlater := (ih after (List.suffix_append _ _)).weight_le
        rw [weight_unwrap_wrapped hns]
        omega

end Comment

/-! ## Bodies -/

/-- Each `<` that a text begins with counts. -/
theorem Text.SameText.weight_pos {s t : Text} (h : SameText ('<' :: s) t) : 1 ≤ weight t := by
  obtain ⟨rest, rfl, -⟩ := h.exists_cons (by decide)
  rw [weight, if_pos rfl]
  split <;> omega

/-- A start tag and an end tag take two `<` from the body between them. A tag that closes
    itself takes one, and has an empty body. -/
theorem Tag.Complete.maxDepth_body_lt {ns rest : Text} {t : Tag} (h : Tag.Complete ns t rest) :
    maxDepth (t.body.getD []) < maxDepth t.raw := by
  cases h with
  | @selfClosing lead name attributes _ start =>
    have hlead := SameText.weight_pos start.opens
    have hraw := weight_add_le lead (name ++ attributes ++ ['/', '>'])
    simp only [Option.getD_none, List.append_assoc, maxDepth, weight] at hraw ⊢
    omega
  | @withBody lead name attributes stop _ before _ start _ ends =>
    obtain ⟨stopLead, blanks, rfl, hstop, -⟩ := ends
    have hlead := SameText.weight_pos start.opens
    have hend := SameText.weight_pos hstop
    have hstart := weight_add_le lead (name ++ attributes)
    have hinside := weight_add_le (Piece.text before) (stopLead ++ blanks ++ ['>'])
    have hstopped := weight_add_le stopLead (blanks ++ ['>'])
    have hraw := weight_add_le (lead ++ name ++ attributes)
      ('>' :: (Piece.text before ++ (stopLead ++ blanks ++ ['>'])))
    rw [weight_cons_of_ne (by decide)] at hraw
    simp only [Option.getD_some, maxDepth, List.append_assoc] at *
    omega

namespace Markup

theorem mem_fragments_of_mem_tags {m : Markup} {t : Tag} (h : t ∈ m.tags.map Prod.fst) :
    .tag t ∈ m.fragments := by
  obtain ⟨⟨t, after⟩, hmem, rfl⟩ := List.mem_map.1 h
  exact List.mem_cons_of_mem _ (List.mem_flatMap.2 ⟨_, hmem, List.mem_cons_self⟩)

/-- The body of a tag of a document can hold less than the document. -/
theorem maxDepth_body_lt {ns s : Text} {t : Tag} (h : .tag t ∈ (scan ns s).fragments) :
    maxDepth (t.body.getD []) < maxDepth s := by
  obtain ⟨before, after, hcut⟩ := List.append_of_mem h
  have hbody := ((cut_scan ns s).complete hcut).maxDepth_body_lt
  have hwritten := (cut_scan ns s).written_eq
  rw [hcut, Fragment.written, List.flatMap_append, List.flatMap_cons, Fragment.raw] at hwritten
  have hbefore := weight_add_le (before.flatMap Fragment.raw)
    (t.raw ++ after.flatMap Fragment.raw)
  have hafter := weight_add_le t.raw (after.flatMap Fragment.raw)
  rw [hwritten] at hbefore
  unfold maxDepth at hbody ⊢
  omega

end Markup

end EdgeInclude
