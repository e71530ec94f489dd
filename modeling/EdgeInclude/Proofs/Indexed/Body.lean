import EdgeInclude.Proofs.Indexed.StartTag

/-!
# Bodies by position

The end tag of a body is looked for from one `<` to the next: where a tag of the same name stands,
the search goes on behind it, and otherwise behind the `<`. It passes through no other characters,
but no tag of the name begins with any of them either.

A model by position of `parse::find_closing_tag`.

Results:
* `markAt_eq`: the tag of a name at a position in a body.
* `closingTag_behind`: what is found behind the first part of a text is found in the text.
* `closingTag_eq`: where a body ends, and where the tag around it does.
-/

namespace EdgeInclude

namespace Indexed

open Text Utf8

/-! ## Tags in bodies -/

/-- A tag in a body, with the position behind it. -/
inductive Found where
  | starting (next : Nat)
  | selfClosing (next : Nat)
  | ending (next : Nat)

/-- A tag that is found where `v` begins behind `u`. -/
def Found.ofMark (u v : Text) : Tag.Mark → Found
  | .starting length => .starting (byteCount (u ++ v.take length))
  | .selfClosing length => .selfClosing (byteCount (u ++ v.take length))
  | .ending length _ => .ending (byteCount (u ++ v.take length))

/-- Whether `lead` stands at a position in any letter case, with no byte of names behind it. -/
def isNameAt (bytes lead : Bytes) (i : Nat) : Access Bool := do
  let starts ← startsAnyCase (← range bytes i bytes.length) lead
  pure (starts && !isAt isNameChar bytes (i + lead.length))

/-- The end tag at a position whose name ends at `i`. -/
def endMarkAt (bytes : Bytes) (i : Nat) : Access (Option Found) := do
  let last ← runEnd isMarkupSpace bytes i
  pure (if isAt (· == '>') bytes last then some (.ending (last + 1)) else none)

/-- The start tag at a position whose name ends at `i`. -/
def startMarkAt (bytes : Bytes) (i : Nat) : Access (Option Found) := do
  match ← tagEnd bytes i with
  | none => pure none
  | some last =>
    let selfClosing ← (· == '/') <$> byteBefore bytes last
    pure (some (if selfClosing then .selfClosing (last + 1) else .starting (last + 1)))

/-- The tag at a position among those whose start tags begin with `start` and whose end tags begin
    with `stop`. -/
def markAt (bytes start stop : Bytes) (i : Nat) : Access (Option Found) := do
  if ← isNameAt bytes stop i then endMarkAt bytes (i + stop.length)
  else if ← isNameAt bytes start i then startMarkAt bytes (i + start.length)
  else pure none

variable {u v lead head rest start stop : Text} {c : Char}

theorem byteCount_eq_of_sameText (h : SameText lead head) : lead.byteCount = head.byteCount :=
  (alike_of_caseless (sameText_iff_caseless.1 h)).byteCount_eq

/-- Whether a text ends in a letter does not depend on letter case. -/
theorem isAlpha_getLast?_of_sameText (h : SameText lead head) :
    head.getLast?.any Char.isAlpha = lead.getLast?.any Char.isAlpha := by
  have hcaseless : ∀ s : Text,
      (caseless s).getLast?.any Char.isAlpha = s.getLast?.any Char.isAlpha := by
    intro s
    rw [caseless, List.getLast?_map, Option.any_map]
    simp only [isAlpha_toLower]
  rw [← hcaseless, ← sameText_iff_caseless.1 h, hcaseless]

theorem isNameAt_eq (lead u v : Text) :
    isNameAt (u ++ v).utf8 lead.utf8 u.byteCount = pure (Tag.afterName? lead v).isSome := by
  have hrange : range (u ++ v).utf8 u.byteCount (u ++ v).utf8.length = pure v.utf8 := by
    have hall := range_append u v []
    rwa [List.append_nil] at hall
  rw [isNameAt, hrange, pure_bind, startsAnyCase_eq, pure_bind, opens_utf8, Tag.afterName?]
  cases hafter : afterAnyCase? lead v with
  | none => rfl
  | some rest =>
    obtain ⟨head, rfl, hhead⟩ := afterAnyCase?_eq_some_iff.1 hafter
    have hposition : u.byteCount + lead.utf8.length = byteCount (u ++ head) := by
      rw [length_utf8, byteCount_append, byteCount_eq_of_sameText hhead]
    rw [hposition, ← List.append_assoc, isAt_isNameChar_eq, Option.filter]
    cases Tag.continuesName rest <;> rfl

theorem take_append_length (head inner rest : Text) (c : Char) :
    (head ++ (inner ++ c :: rest)).take (head.length + inner.length + 1) =
      head ++ inner ++ [c] := by
  have hsplit : head ++ (inner ++ c :: rest) = (head ++ inner ++ [c]) ++ rest := by simp
  rw [hsplit, List.take_left']
  simp [Nat.add_assoc]

theorem endMarkAt_eq (u head rest : Text) :
    endMarkAt (u ++ head ++ rest).utf8 (byteCount (u ++ head)) =
      pure ((Tag.endMark? head.length rest).map (Found.ofMark u (head ++ rest))) := by
  obtain ⟨blanks, after, hblanks, hafter⟩ : ∃ blanks after,
      rest.takeWhile isMarkupSpace = blanks ∧ rest.dropWhile isMarkupSpace = after :=
    ⟨_, _, rfl, rfl⟩
  have hrest : rest = blanks ++ after := by
    rw [← hblanks, ← hafter, List.takeWhile_append_dropWhile]
  have hisAt := (asciiClass_beq (a := '>') (by decide)).isAt_eq (u ++ head ++ blanks) after
  rw [List.append_assoc, ← hrest] at hisAt
  rw [endMarkAt, asciiClass_isMarkupSpace.runEnd_eq, pure_bind, hblanks, hisAt, Tag.endMark?,
    hblanks, hafter]
  cases after with
  | nil => rfl
  | cons c after =>
    by_cases hc : c = '>'
    · subst hc
      have hnext : byteCount (u ++ head ++ blanks) + 1 =
          byteCount (u ++ (head ++ rest).take (head.length + blanks.length + 1)) := by
        rw [hrest, take_append_length, ← byteCount_append_singleton (c := '>') (by decide)]
        simp only [List.append_assoc]
      rw [List.head?_cons, Option.any_some, if_pos (beq_self_eq_true _), hnext]
      rfl
    · rw [List.head?_cons, Option.any_some, if_neg (by simpa using hc)]
      split
      · next heq => exact absurd (List.cons.inj heq).1 hc
      · rfl

theorem closesItself_eq (s : Text) : Tag.closesItself s = s.getLast?.any (· == '/') := by
  rw [Tag.closesItself]
  cases s.getLast? <;> rfl

/-- What stands before a start tag's own text does not say whether it closes itself, for a name ends
    in a letter. -/
theorem getLast?_append_any_slash {head : Text} (hhead : head.getLast?.any Char.isAlpha = true)
    (inner : Text) : (head ++ inner).getLast?.any (· == '/') = Tag.closesItself inner := by
  rw [closesItself_eq]
  cases inner with
  | nil =>
    obtain ⟨c, hc, halpha⟩ := (Option.any_eq_true _ _).1 hhead
    have hslash : c ≠ '/' := by
      rintro rfl
      cases halpha
    simp [hc, hslash]
  | cons c inner => rw [List.getLast?_append_of_ne_nil _ (List.cons_ne_nil c inner)]

theorem startMarkAt_eq {head : Text} (hhead : head.getLast?.any Char.isAlpha = true)
    (u rest : Text) :
    startMarkAt (u ++ head ++ rest).utf8 (byteCount (u ++ head)) =
      pure ((Tag.startMark? head.length rest).map (Found.ofMark u (head ++ rest))) := by
  obtain ⟨last, hlast, halpha⟩ := (Option.any_eq_true _ _).1 hhead
  have hne : head ≠ [] := by
    rintro rfl
    cases hlast
  have hequals : (u ++ head).getLast? ≠ some '=' := by
    rw [List.getLast?_append_of_ne_nil _ hne, hlast]
    rintro ⟨⟩
    cases halpha
  rw [startMarkAt, tagEnd_eq hequals, pure_bind, Tag.startMark?]
  cases hsplit : Tag.splitStart none false rest with
  | none => rfl
  | some cut =>
    obtain ⟨inner, after⟩ := cut
    obtain ⟨rfl, -⟩ := Tag.splitStart_eq_some_iff.1 hsplit
    have hbefore := (asciiClass_beq (a := '/') (by decide)).byteBefore_eq (u := u ++ head ++ inner)
      (by simp [hne]) ('>' :: after)
    have hnext : byteCount (u ++ head ++ inner) + 1 =
        byteCount
          (u ++ (head ++ (inner ++ '>' :: after)).take (head.length + inner.length + 1)) := by
      rw [take_append_length, ← byteCount_append_singleton (c := '>') (by decide)]
      simp only [List.append_assoc]
    have hslash : (u ++ head ++ inner).getLast?.any (· == '/') = Tag.closesItself inner := by
      rw [List.append_assoc, List.getLast?_append_of_ne_nil _ (by simp [hne]),
        getLast?_append_any_slash hhead]
    rw [List.append_assoc (u ++ head), hslash] at hbefore
    simp only [Option.map_some]
    rw [hbefore, pure_bind, hnext]
    cases Tag.closesItself inner <;> rfl

/-- The tag at a position in a body is the one that stands at its character. -/
theorem markAt_eq (hstart : start.getLast?.any Char.isAlpha = true) (stop u v : Text) :
    markAt (u ++ v).utf8 start.utf8 stop.utf8 u.byteCount =
      pure ((Tag.mark? start stop v).map (Found.ofMark u v)) := by
  have hplaced : ∀ {lead head : Text}, SameText lead head →
      u.byteCount + lead.utf8.length = byteCount (u ++ head) := by
    intro lead head hhead
    rw [length_utf8, byteCount_append, byteCount_eq_of_sameText hhead]
  rw [markAt, isNameAt_eq, pure_bind, Tag.mark?]
  cases hstop : Tag.afterName? stop v with
  | some rest =>
    obtain ⟨head, rfl, hhead, -⟩ := Tag.afterName?_eq_some_iff.1 hstop
    rw [if_pos Option.isSome_some, hplaced hhead, ← List.append_assoc, endMarkAt_eq,
      hhead.length_eq]
  | none =>
    rw [if_neg (by simp), isNameAt_eq, pure_bind]
    cases hafter : Tag.afterName? start v with
    | some rest =>
      obtain ⟨head, rfl, hhead, -⟩ := Tag.afterName?_eq_some_iff.1 hafter
      rw [if_pos Option.isSome_some, hplaced hhead, ← List.append_assoc,
        startMarkAt_eq (by rwa [isAlpha_getLast?_of_sameText hhead]), hhead.length_eq]
    | none => rfl

/-! ## Ends of bodies -/

/-- The position of the end tag that belongs to a start tag, and the position behind it, looked for
    from `cursor` on in no more than `rounds` rounds; `depth` further start tags are open
    (`parse::find_closing_tag`). -/
def closingTag (bytes start stop : Bytes) :
    (rounds depth cursor : Nat) → Access (Option (Nat × Nat))
  | 0, _, _ => throw .rounds
  | rounds + 1, depth, cursor => do
    match ← search ((utf8 ['<']).isPrefixOf ·) bytes cursor with
    | none => pure none
    | some i =>
      match ← markAt bytes start stop i, depth with
      | some (.ending next), 0 => pure (some (i, next))
      | some (.ending next), depth + 1 => closingTag bytes start stop rounds depth next
      | some (.starting next), depth => closingTag bytes start stop rounds (depth + 1) next
      | some (.selfClosing next), depth => closingTag bytes start stop rounds depth next
      | none, depth => closingTag bytes start stop rounds depth (i + 1)

theorem splitBody_length_append (start stop : Text) (depth : Nat) (raw rest : Text) :
    Tag.splitBody start stop depth raw.length (raw ++ rest) =
      (Tag.splitBody start stop depth 0 rest).map fun (s, after) => (raw ++ s, after) := by
  induction raw with
  | nil => simp
  | cons c raw ih =>
    rw [List.cons_append, List.length_cons, Tag.splitBody, ih]
    cases Tag.splitBody start stop depth 0 rest <;> rfl

/-- What is behind the first part of a text is searched as if it stood alone. -/
theorem splitBody_tail {v raw rest : Text} (hv : c :: v = raw ++ rest) (hraw : raw ≠ [])
    (start stop : Text) (depth : Nat) :
    ((Tag.splitBody start stop depth (raw.length - 1) v).map fun (s, after) => (c :: s, after)) =
      (Tag.splitBody start stop depth 0 rest).map fun (s, after) => (raw ++ s, after) := by
  obtain ⟨d, raw, rfl⟩ := List.exists_cons_of_ne_nil hraw
  rw [List.cons_append] at hv
  obtain ⟨rfl, rfl⟩ := List.cons.inj hv
  rw [List.length_cons, Nat.add_sub_cancel, splitBody_length_append]
  cases Tag.splitBody start stop depth 0 rest <;> rfl

theorem exists_raw_of_marks {s : Text} {m : Tag.Mark} (h : m.Marks start stop s) :
    ∃ raw rest, s = raw ++ rest ∧ raw.length = m.length ∧ ∀ n t, m = .ending n t → t = rest := by
  cases m with
  | starting length =>
    obtain ⟨raw, inner, rest, hs, hlength, -⟩ := h
    exact ⟨raw, rest, hs, hlength, nofun⟩
  | selfClosing length =>
    obtain ⟨raw, inner, rest, hs, hlength, -⟩ := h
    exact ⟨raw, rest, hs, hlength, nofun⟩
  | ending length rest =>
    obtain ⟨raw, hs, hlength, -⟩ := h
    exact ⟨raw, rest, hs, hlength, fun n t h => (Tag.Mark.ending.inj h).2.symm⟩

/-- No tag stands at a character other than `<`. -/
theorem mark?_eq_none_of_ne (hopen : start.head? = some '<') (hclose : stop.head? = some '<')
    (hc : c ≠ '<') (v : Text) : Tag.mark? start stop (c :: v) = none := by
  have hnone : ∀ {lead : Text}, lead.head? = some '<' → Tag.afterName? lead (c :: v) = none := by
    intro lead hlead
    obtain ⟨lead, rfl⟩ := List.head?_eq_some_iff.1 hlead
    have hsame : sameLetter '<' c = false := by
      rw [← Bool.not_eq_true]
      intro hsame
      refine hc (eq_of_sameLetter (by decide) ?_)
      rw [sameLetter, beq_iff_eq] at hsame ⊢
      exact hsame.symm
    rw [Tag.afterName?, afterAnyCase?, afterPrefix?, hsame]
    rfl
  rw [Tag.mark?, hnone hclose, hnone hopen]

/-- How far a body reaches in a text, and how far the tag around it does. -/
def extent (s u : Text) (cut : Text × Text) : Nat × Nat :=
  (byteCount (u ++ cut.1), s.byteCount - cut.2.byteCount)

/-- What is found behind the first part of a text is found in the text. -/
theorem closingTag_behind {raw : Text} {rounds : Nat}
    (h : ∀ depth u, closingTag (u ++ rest).utf8 start.utf8 stop.utf8 rounds depth u.byteCount =
      pure ((Tag.splitBody start stop depth 0 rest).map (extent (u ++ rest) u)))
    (hv : c :: v = raw ++ rest) (hraw : raw ≠ []) (depth : Nat) (u : Text) :
    closingTag (u ++ c :: v).utf8 start.utf8 stop.utf8 rounds depth (byteCount (u ++ raw)) =
      pure (((Tag.splitBody start stop depth (raw.length - 1) v).map
        fun (s, after) => (c :: s, after)).map (extent (u ++ c :: v) u)) := by
  rw [splitBody_tail hv hraw, hv, ← List.append_assoc, h, Option.map_map]
  congr 2
  funext cut
  simp [extent]

/-- A character other than `<` is passed over. -/
theorem closingTag_of_ne (hc : c ≠ '<') (start stop : Bytes) (rounds depth : Nat) (u v : Text) :
    closingTag (u ++ c :: v).utf8 start stop rounds depth u.byteCount =
      closingTag (u ++ c :: v).utf8 start stop rounds depth (byteCount (u ++ [c])) := by
  have hsearch := (spots_isPrefixOf (List.cons_ne_nil '<' [])).search_cons u c v
  rw [if_neg (by simp [after?, afterPrefix?, Ne.symm hc])] at hsearch
  cases rounds with
  | zero => rfl
  | succ rounds => rw [closingTag, closingTag, hsearch]

/-- One round of the search, at a `<`. -/
theorem closingTag_of_lt (hstart : start.getLast?.any Char.isAlpha = true) (stop : Text)
    (rounds depth : Nat) (u v : Text) :
    closingTag (u ++ '<' :: v).utf8 start.utf8 stop.utf8 (rounds + 1) depth u.byteCount =
      match (Tag.mark? start stop ('<' :: v)).map (Found.ofMark u ('<' :: v)), depth with
      | some (.ending next), 0 => pure (some (u.byteCount, next))
      | some (.ending next), depth + 1 =>
        closingTag (u ++ '<' :: v).utf8 start.utf8 stop.utf8 rounds depth next
      | some (.starting next), depth =>
        closingTag (u ++ '<' :: v).utf8 start.utf8 stop.utf8 rounds (depth + 1) next
      | some (.selfClosing next), depth =>
        closingTag (u ++ '<' :: v).utf8 start.utf8 stop.utf8 rounds depth next
      | none, depth =>
        closingTag (u ++ '<' :: v).utf8 start.utf8 stop.utf8 rounds depth
          (byteCount (u ++ ['<'])) := by
  have hsearch := (spots_isPrefixOf (List.cons_ne_nil '<' [])).search_cons u '<' v
  rw [if_pos (by simp [after?, afterPrefix?])] at hsearch
  rw [closingTag, hsearch, pure_bind]
  dsimp only
  rw [markAt_eq hstart, pure_bind, byteCount_append_singleton (by decide)]

/-- A body ends at the position of the character at which it ends. -/
theorem closingTag_eq (hstart : start.getLast?.any Char.isAlpha = true)
    (hopen : start.head? = some '<') (hclose : stop.head? = some '<') {rounds : Nat} (depth : Nat)
    (u v : Text) (hrounds : v.length < rounds) :
    closingTag (u ++ v).utf8 start.utf8 stop.utf8 rounds depth u.byteCount =
      pure ((Tag.splitBody start stop depth 0 v).map (extent (u ++ v) u)) := by
  -- by the length of what is still to be searched, since a tag is passed over as a whole
  induction hn : v.length using Nat.strongRecOn generalizing u v depth rounds with
  | ind n ih =>
    obtain ⟨rounds, rfl⟩ : ∃ n, rounds = n + 1 := ⟨rounds - 1, by omega⟩
    have hshorter : ∀ (rest : Text) (rounds : Nat), rest.length < n → rest.length < rounds →
        ∀ depth u, closingTag (u ++ rest).utf8 start.utf8 stop.utf8 rounds depth u.byteCount =
          pure ((Tag.splitBody start stop depth 0 rest).map (extent (u ++ rest) u)) :=
      fun rest rounds hlt hrounds depth u => ih _ hlt depth u rest hrounds rfl
    cases v with
    | nil =>
      rw [List.append_nil, closingTag, search_nil]
      rfl
    | cons c v =>
      rw [List.length_cons] at hrounds hn
      by_cases hc : c = '<'
      · subst hc
        rw [closingTag_of_lt hstart]
        cases hm : Tag.mark? start stop ('<' :: v) with
        | none =>
          simp only [Tag.splitBody, hm, Option.map_none]
          exact closingTag_behind (hshorter v rounds (by omega) (by omega))
            List.singleton_append.symm (List.cons_ne_nil _ _) depth u
        | some m =>
          have hmarks := Tag.marks_of_mark? hm
          obtain ⟨raw, rest, hv, hlength, hending⟩ := exists_raw_of_marks hmarks
          have hpos := hmarks.length_pos
          have htotal := congrArg List.length hv
          rw [List.length_cons, List.length_append] at htotal
          have htake : ('<' :: v).take m.length = raw := by rw [hv, ← hlength, List.take_left]
          have hnext := closingTag_behind
            (hshorter rest rounds (by omega) (by omega)) hv
            (List.length_pos_iff.1 (hlength ▸ hpos))
          rw [hlength, ← htake] at hnext
          cases m with
          | starting length =>
            simp only [Tag.splitBody, hm]
            exact hnext (depth + 1) u
          | selfClosing length =>
            simp only [Tag.splitBody, hm]
            exact hnext depth u
          | ending length after =>
            cases depth with
            | succ depth =>
              simp only [Tag.splitBody, hm]
              exact hnext depth u
            | zero =>
              obtain rfl := hending _ _ rfl
              have htake : ('<' :: v).take length = raw := htake
              simp only [Tag.splitBody, hm, Option.map_some, Found.ofMark, extent, List.append_nil,
                htake]
              rw [hv, ← List.append_assoc, byteCount_sub_append]
      · rw [closingTag_of_ne hc]
        simp only [Tag.splitBody, mark?_eq_none_of_ne hopen hclose hc v]
        exact closingTag_behind (hshorter v (rounds + 1) (by omega) (by omega))
          List.singleton_append.symm (List.cons_ne_nil _ _) depth u

end Indexed

end EdgeInclude
