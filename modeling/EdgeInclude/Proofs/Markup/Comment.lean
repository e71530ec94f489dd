import EdgeInclude.Markup.Comment
import EdgeInclude.Proofs.Markup.Nesting

/-!
# Unwrapping comments

Where unwrapping changes a document, and where it does not. A tag with nothing in it that
an opener of a comment begins with is not changed, and comments are found inside of it as
if what stands there stood alone: no opener reaches over the `<` of a tag, and an opener
that is never closed inside of the tag is not closed by the end of the tag either.

Results:
* `opener_induction`, `unwrap_opener`: how a document is read up to an opener, and behind it.
* `unwrap_eq_self`: a document without wrappers is not changed.
* `unwrap_wrapped`: one that is wrapped as a whole becomes a tag around what is wrapped.
* `unwrap_append_of_lt`: what stands before a tag is unwrapped as if it stood alone.
* `unwrap_tag`: inside of a tag, what is unwrapped is the body.
-/

namespace EdgeInclude

namespace Text

/-! ## Prefixes and marks before a character that they do not have -/

/-- A prefix does not reach over a character that it does not have. -/
theorem afterPrefix?_append {same : Char → Char → Bool} {lead s t : Text} {c : Char}
    (hlead : ∀ p ∈ lead, same p c = false) (ht : t.head? = some c) :
    afterPrefix? same lead (s ++ t) = (afterPrefix? same lead s).map (· ++ t) := by
  induction lead generalizing s with
  | nil => rfl
  | cons p ps ih =>
    obtain ⟨hp, hps⟩ := List.forall_mem_cons.1 hlead
    cases s with
    | nil =>
      obtain ⟨t, rfl⟩ := List.head?_eq_some_iff.1 ht
      simp [afterPrefix?, hp]
    | cons d s =>
      rw [List.cons_append, afterPrefix?, afterPrefix?]
      split
      · exact ih hps
      · rfl

/-- A mark is found as before if a text follows that it is not found in, and that begins with a
    character that it does not have. -/
theorem splitFirst_append_of_head {mark s t : Text} {c : Char} (hmark : c ∉ mark)
    (ht : t.head? = some c) (hnone : splitFirst mark t = none) :
    splitFirst mark (s ++ t) = (splitFirst mark s).map fun cut => (cut.1, cut.2 ++ t) := by
  have hsame : ∀ p ∈ mark, (p == c) = false := by
    intro p hp
    rw [beq_eq_false_iff_ne]
    rintro rfl
    exact hmark hp
  induction s with
  | nil =>
    obtain ⟨t, rfl⟩ := List.head?_eq_some_iff.1 ht
    cases mark with
    | nil => simp [splitFirst, after?, afterPrefix?] at hnone
    | cons p ps => exact hnone
  | cons d s ih =>
    have hafter : after? mark (d :: (s ++ t)) = (after? mark (d :: s)).map (· ++ t) :=
      afterPrefix?_append (s := d :: s) hsame ht
    rw [List.cons_append, splitFirst, splitFirst, ih, hafter]
    cases after? mark (d :: s) with
    | some rest => rfl
    | none => cases splitFirst mark s <;> rfl

end Text

open Text

namespace Comment

/-! ## Openers -/

theorem opener_apart {ns : Text} (hns : '<' ∉ ns) :
    ∀ p ∈ (opener ns).tail, sameLetter p '<' = false := by
  intro p hp
  rw [← Bool.not_eq_true]
  intro hsame
  obtain rfl := eq_of_sameLetter (by decide) hsame
  simp [opener, hns] at hp

/-- No opener reaches over the `<` of a tag. -/
theorem afterAnyCase?_opener_append {ns t : Text} {c : Char} (hns : '<' ∉ ns)
    (ht : t.head? = some '<') (s : Text) :
    afterAnyCase? (opener ns) (c :: s ++ t) =
      (afterAnyCase? (opener ns) (c :: s)).map (· ++ t) := by
  simp only [opener, afterAnyCase?, List.cons_append, afterPrefix?]
  split
  · exact afterPrefix?_append (opener_apart hns) ht
  · rfl

/-- An opener begins with a `<` that a `!` follows. -/
theorem afterAnyCase?_opener_eq_none {ns s : Text} {c : Char}
    (h : c = '<' → s.head? ≠ some '!') : afterAnyCase? (opener ns) (c :: s) = none := by
  rw [afterAnyCase?_eq_none_iff]
  rintro head hhead hprefix
  obtain ⟨tail, rfl, htail⟩ := hhead.exists_cons (by decide)
  obtain ⟨rest, rfl, -⟩ := htail.exists_cons (by decide)
  obtain ⟨hc, hs⟩ := List.cons_prefix_cons.1 hprefix
  obtain ⟨s, rfl⟩ := List.prefix_iff_exists_append_eq.1 hs |>.imp fun _ h => h.symm
  exact h hc.symm rfl

/-! ## Pieces -/

theorem piecesFrom_eq_drop (ns : Text) (skip : Nat) (s : Text) :
    piecesFrom ns skip s = pieces ns (s.drop skip) := by
  induction s generalizing skip with
  | nil => rw [List.drop_nil, pieces, piecesFrom, piecesFrom]
  | cons c cs ih =>
    cases skip with
    | zero => rfl
    | succ skip => exact ih skip

theorem pieces_cons {ns s : Text} {c : Char} (h : afterAnyCase? (opener ns) (c :: s) = none) :
    pieces ns (c :: s) = .plain [c] :: pieces ns s := by
  rw [pieces, piecesFrom, h]
  rfl

/-- How a document is cut behind an opener. -/
theorem pieces_opener {ns head : Text} (h : SameText (opener ns) head) (s : Text) :
    pieces ns (head ++ s) =
      if Tag.continuesName s then .plain head :: pieces ns s
      else
        match splitFirst closer s with
        | none => [.plain (head ++ s)]
        | some (content, after) => .wrapped content :: pieces ns after := by
  have hopens : afterAnyCase? (opener ns) (head ++ s) = some s :=
    afterAnyCase?_eq_some_iff.2 ⟨head, rfl, h⟩
  have htake : (head ++ s).take (opener ns).length = head := by rw [h.length_eq, List.take_left]
  obtain ⟨tail, rfl, -⟩ := h.exists_cons (by decide)
  rw [List.cons_append] at hopens htake ⊢
  rw [pieces, piecesFrom, hopens]
  simp only [htake, piecesFrom_eq_drop, drop_sub_append]
  split
  · rfl
  · cases hcloser : splitFirst closer s with
    | none => rfl
    | some cut =>
      obtain ⟨content, after⟩ := cut
      obtain rfl := eq_append_of_splitFirst hcloser
      simp only [← List.append_assoc, drop_sub_append]

/-- A document is read character by character up to an opener, and goes on behind that. -/
theorem opener_induction (ns : Text) {motive : Text → Prop} (nil : motive [])
    (character : ∀ c s, afterAnyCase? (opener ns) (c :: s) = none → motive s → motive (c :: s))
    (opens : ∀ head s, SameText (opener ns) head → (∀ t, t <:+ s → motive t) → motive (head ++ s))
    (s : Text) : motive s := by
  induction hn : s.length using Nat.strongRecOn generalizing s with
  | ind n ih =>
    cases s with
    | nil => exact nil
    | cons c cs =>
      rw [List.length_cons] at hn
      cases hopens : afterAnyCase? (opener ns) (c :: cs) with
      | none => exact character c cs hopens (ih cs.length (by omega) cs rfl)
      | some rest =>
        obtain ⟨head, hs, hhead⟩ := afterAnyCase?_eq_some_iff.1 hopens
        rw [hs]
        refine opens head rest hhead fun t ht => ?_
        have hlength := congrArg List.length hs
        have hle := ht.length_le
        obtain ⟨tail, rfl, -⟩ := hhead.exists_cons (by decide)
        simp only [List.length_cons, List.length_append] at hlength
        exact ih t.length (by omega) t rfl

theorem unwrap_cons {ns s : Text} {c : Char} (h : afterAnyCase? (opener ns) (c :: s) = none) :
    unwrap ns (c :: s) = c :: unwrap ns s := by
  rw [unwrap, pieces_cons h]
  rfl

/-- What becomes of a document that begins with an opener. -/
theorem unwrap_opener {ns head : Text} (h : SameText (opener ns) head) (s : Text) :
    unwrap ns (head ++ s) =
      if Tag.continuesName s then head ++ unwrap ns s
      else
        match splitFirst closer s with
        | none => head ++ s
        | some (content, after) => (Piece.wrapped content).unwrap ns ++ unwrap ns after := by
  rw [unwrap, pieces_opener h]
  split
  · rfl
  · cases splitFirst closer s with
    | none => exact List.append_nil _
    | some cut => rfl

/-! ## What is not changed -/

/-- A document without wrappers is not changed. -/
theorem unwrap_eq_self {ns s : Text} (h : hasWrapper ns s = false) : unwrap ns s = s := by
  induction s using opener_induction ns with
  | nil => rfl
  | character c s hc ih =>
    unfold hasWrapper at h ih
    rw [pieces_cons hc] at h
    rw [unwrap_cons hc, ih h]
  | opens head s hhead ih =>
    unfold hasWrapper at h ih
    rw [pieces_opener hhead] at h
    rw [unwrap_opener hhead]
    split at h
    · next hname => rw [if_pos hname, ih s List.suffix_rfl h]
    · next hname =>
      rw [if_neg hname]
      cases hcloser : splitFirst closer s with
      | none => rfl
      | some cut => simp [hcloser, Piece.isWrapped] at h

theorem unwrap_append_of_not_mem {u : Text} (hu : '<' ∉ u) (ns s : Text) :
    unwrap ns (u ++ s) = u ++ unwrap ns s := by
  induction u with
  | nil => rfl
  | cons c u ih =>
    obtain ⟨hc, hu⟩ := not_or.1 (mt List.mem_cons.2 hu)
    have hopens : afterAnyCase? (opener ns) (c :: (u ++ s)) = none :=
      afterAnyCase?_opener_eq_none fun h => absurd h.symm hc
    rw [List.cons_append, unwrap_cons hopens, ih hu, List.cons_append]

/-- A text without `!` has no opener. -/
theorem unwrap_of_not_mem {s : Text} (hs : '!' ∉ s) (ns : Text) : unwrap ns s = s := by
  induction s with
  | nil => rfl
  | cons c s ih =>
    obtain ⟨-, hs⟩ := not_or.1 (mt List.mem_cons.2 hs)
    have hopens : afterAnyCase? (opener ns) (c :: s) = none :=
      afterAnyCase?_opener_eq_none fun _ h => hs (List.mem_of_mem_head? h)
    rw [unwrap_cons hopens, ih hs]

/-! ## What is wrapped as a whole -/

/-- A closer behind a text in which no comment is closed is the first one. -/
theorem splitFirst_closer_append {s : Text} (h : ¬closer <:+: s) :
    splitFirst closer (s ++ closer) = some (s, []) := by
  induction s with
  | nil => decide
  | cons c s ih =>
    have hnone : after? closer (c :: (s ++ closer)) = none := by
      rw [Option.eq_none_iff_forall_ne_some]
      intro rest hrest
      have heq := eq_append_of_after? hrest
      -- No text but the closer itself is both a start and an end of it.
      match s with
      | [] => simp [closer] at heq
      | [d] => simp [closer] at heq
      | d :: e :: s =>
        obtain ⟨rfl, rfl, rfl, -⟩ : c = '-' ∧ d = '-' ∧ e = '>' ∧ _ := by simpa [closer] using heq
        exact h (List.prefix_append closer s).isInfix
    rw [List.cons_append, splitFirst, hnone, ih fun hin => h (List.infix_cons hin)]
    rfl

/-- A text that is wrapped as a whole becomes a tag around it. -/
theorem unwrap_wrapped {ns head body : Text} (hhead : SameText (opener ns) head)
    (hcloser : ¬closer <:+: body) (hname : Tag.continuesName body = false) :
    unwrap ns (head ++ body ++ closer) =
      Tag.startTag ns "vars".toList [] ++ body ++ Tag.endTag ns "vars".toList := by
  have hname : Tag.continuesName (body ++ closer) = false := by
    cases body with
    | nil => rfl
    | cons c body => exact hname
  rw [List.append_assoc, unwrap_opener hhead, if_neg (by simp [hname]),
    splitFirst_closer_append hcloser]
  simp [Piece.unwrap, varsStart, varsEnd, Tag.startTag, Tag.endTag, unwrap, pieces, piecesFrom]

/-! ## Around a tag -/

theorem unwrap_append_of_lt {ns t : Text} (hns : '<' ∉ ns) (ht : t.head? = some '<')
    (hopener : '!' ∉ t) (hcloser : splitFirst closer t = none) (s : Text) :
    unwrap ns (s ++ t) = unwrap ns s ++ t := by
  induction s using opener_induction ns with
  | nil => exact unwrap_of_not_mem hopener ns
  | character c s hc ih =>
    have hc' : afterAnyCase? (opener ns) (c :: (s ++ t)) = none := by
      rw [← List.cons_append, afterAnyCase?_opener_append hns ht, hc, Option.map_none]
    rw [unwrap_cons hc, List.cons_append, List.cons_append, unwrap_cons hc', ih]
  | opens head s hhead ih =>
    have hname : Tag.continuesName (s ++ t) = Tag.continuesName s := by
      obtain ⟨t, rfl⟩ := List.head?_eq_some_iff.1 ht
      cases s <;> rfl
    rw [List.append_assoc, unwrap_opener hhead, unwrap_opener hhead, hname,
      splitFirst_append_of_head (by decide) ht hcloser]
    split
    · rw [ih s List.suffix_rfl, List.append_assoc]
    · cases hcut : splitFirst closer s with
      | none => exact (List.append_assoc _ _ _).symm
      | some cut =>
        obtain ⟨content, after⟩ := cut
        have hafter : after <:+ s := by
          rw [eq_append_of_splitFirst hcut]
          exact List.suffix_append _ _
        simp only [Option.map_some, ih after hafter, List.append_assoc]

/-- No comment is closed by an end tag. -/
theorem splitFirst_closer_endTag {ns name : Text} (hns : '>' ∉ ns) (hname : name ≠ [])
    (hletters : ∀ c ∈ name, c.isAlpha = true) :
    splitFirst closer (Tag.endTag ns name) = none := by
  have hgt : '>' ∉ Tag.endOpener ns ++ name := by
    have : '>' ∉ name := fun hmem => absurd (hletters _ hmem) (by decide)
    simp [Tag.endOpener, hns, this]
  have hlast : (Tag.endOpener ns ++ name).getLast? ≠ some '-' := by
    intro h
    rw [List.getLast?_append_of_ne_nil _ hname] at h
    exact absurd (hletters _ (List.mem_of_getLast? h)) (by decide)
  rw [Option.eq_none_iff_forall_ne_some]
  rintro ⟨before, rest⟩ hsplit
  -- The closer would have to end with the only `>` of the tag, which a letter stands before.
  have hs : Tag.endOpener ns ++ name ++ ['>'] = (before ++ ['-', '-']) ++ '>' :: rest := by
    rw [← Tag.endTag, eq_append_of_splitFirst hsplit]
    simp [closer]
  have hcut : splitFirst ['>'] (Tag.endOpener ns ++ name ++ ['>']) =
      some (Tag.endOpener ns ++ name, []) := splitFirst_append hgt
  rw [hs] at hcut
  by_cases hearlier : '>' ∈ before ++ ['-', '-']
  · obtain ⟨u, v, huv, hu⟩ := List.eq_append_cons_of_mem hearlier
    rw [huv, List.append_assoc, List.cons_append, splitFirst_append hu] at hcut
    simp at hcut
  · rw [splitFirst_append hearlier] at hcut
    obtain ⟨heq, -⟩ := Prod.mk.inj (Option.some.inj hcut)
    apply hlast
    rw [← heq]
    simp

/-- Inside of a tag without attributes, what is unwrapped is the body. -/
theorem unwrap_tag {ns name : Text} (hns : '<' ∉ ns ∧ '>' ∉ ns ∧ '!' ∉ ns) (hname : name ≠ [])
    (hletters : ∀ c ∈ name, c.isAlpha = true) (body : Text) :
    unwrap ns (Tag.startTag ns name [] ++ body ++ Tag.endTag ns name) =
      Tag.startTag ns name [] ++ unwrap ns body ++ Tag.endTag ns name := by
  obtain ⟨hlt, hgt, hbang⟩ := hns
  have hnot : ∀ c, c.isAlpha = false → c ∉ name := by
    intro c hc hmem
    rw [hletters c hmem] at hc
    cases hc
  have hstop : '!' ∉ Tag.endTag ns name := by
    simp [Tag.endTag, Tag.endOpener, hbang, hnot]
  have hrest : '<' ∉ ns ++ ':' :: (name ++ ['>']) := by
    simp [hlt, hnot]
  have hhead : (ns ++ ':' :: (name ++ ['>']) ++ body).head? ≠ some '!' := by
    rw [List.append_assoc]
    exact head?_append_ne hbang (by simp)
  have hstart : Tag.startTag ns name [] = '<' :: (ns ++ ':' :: (name ++ ['>'])) := by
    simp [Tag.startTag, Tag.opener]
  rw [unwrap_append_of_lt hlt rfl hstop (splitFirst_closer_endTag hgt hname hletters), hstart,
    List.cons_append, unwrap_cons (afterAnyCase?_opener_eq_none fun _ => hhead),
    unwrap_append_of_not_mem hrest]
  rfl

end Comment

end EdgeInclude
