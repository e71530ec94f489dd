import EdgeInclude.Proofs.Indexed.Body

/-!
# Tags by position

Reading a whole tag by positions: its name, its start tag, and its body if it does not close
itself. Each part is cut out between two places that have been found, and at all of these a
character begins.

A model by position of `parse::read_tag`.

Results:
* `readSelfClosing_eq`, `readWithBody_eq`: how a tag is read whose start tag has been found.
* `readTag_eq`: a tag is read as it is character by character, and nothing goes wrong.
-/

namespace EdgeInclude

namespace Indexed

open Text Utf8

/-- Whether a slash stands before a position, behind another one. -/
def slashBefore (bytes : Bytes) (first i : Nat) : Access Bool :=
  if first < i then (· == '/') <$> byteBefore bytes i else pure false

/-- The tag at `start` that closes itself, where its name ends at `nameEnd` and its start tag does
    at `openEnd`, with the position behind it. -/
def readSelfClosing (bytes : Bytes) (name : Text) (start nameEnd openEnd : Nat) :
    Access (Option (Tag × Nat)) := do
  let raw ← part bytes start (openEnd + 1)
  let attributes ← part bytes nameEnd (openEnd - 1)
  pure (some (⟨raw, name, attributes, none⟩, openEnd + 1))

/-- So for a tag that has a body. -/
def readWithBody (ns : Text) (bytes : Bytes) (name : Text) (start nameEnd openEnd : Nat) :
    Access (Option (Tag × Nat)) := do
  match ← closingTag bytes (utf8 (Tag.opener ns ++ name)) (utf8 (Tag.endOpener ns ++ name))
      (bytes.length + 1) 0 (openEnd + 1) with
  | none => pure none
  | some (bodyEnd, stop) =>
    let raw ← part bytes start stop
    let attributes ← part bytes nameEnd openEnd
    let body ← part bytes (openEnd + 1) bodyEnd
    pure (some (⟨raw, name, attributes, some body⟩, stop))

/-- Reads the tag whose opener stands at a position (`parse::read_tag`). Returns it with the
    position behind it. -/
def readTag (ns : Text) (bytes : Bytes) (start : Nat) : Access (Option (Tag × Nat)) := do
  let nameStart := start + (utf8 (Tag.opener ns)).length
  let nameEnd ← runEnd Char.isAlpha bytes nameStart
  if nameEnd == nameStart || isAt isNameChar bytes nameEnd then pure none
  else
    let name ← part bytes nameStart nameEnd
    match ← tagEnd bytes nameEnd with
    | none => pure none
    | some openEnd =>
      if ← slashBefore bytes nameEnd openEnd then readSelfClosing bytes name start nameEnd openEnd
      else readWithBody ns bytes name start nameEnd openEnd

variable {u v raw lead name inner body rest after start stop : Text}

theorem slashBefore_eq (u inner v : Text) :
    slashBefore (u ++ inner ++ v).utf8 u.byteCount (byteCount (u ++ inner)) =
      pure (Tag.closesItself inner) := by
  rw [closesItself_eq]
  cases inner with
  | nil =>
    rw [List.append_nil, slashBefore, if_neg (Nat.lt_irrefl _)]
    rfl
  | cons c inner =>
    have hlt : u.byteCount < byteCount (u ++ c :: inner) := by
      rw [byteCount_append]
      exact Nat.lt_add_of_pos_right (byteCount_pos (List.cons_ne_nil c inner))
    rw [slashBefore, if_pos hlt, (asciiClass_beq (by decide)).byteBefore_eq (by simp),
      List.getLast?_append_of_ne_nil _ (List.cons_ne_nil c inner)]

/-- A body that ends is the first part of what it is searched in. -/
theorem exists_append_of_splitBody (h : Tag.splitBody start stop 0 0 v = some (body, rest)) :
    ∃ ending, v = body ++ ending ++ rest := by
  obtain ⟨before, p, after, hpieces, rfl, rfl, -⟩ := Tag.splitBody_eq_some_iff.1 h
  refine ⟨p.raw, ?_⟩
  rw [← Tag.text_pieces start stop v, hpieces, Piece.text_append, Piece.text_cons,
    List.append_assoc]

theorem isAlpha_getLast?_name (hname : name ≠ []) (hletters : ∀ c ∈ name, c.isAlpha = true)
    (lead : Text) : (lead ++ name).getLast?.any Char.isAlpha = true := by
  rw [List.getLast?_append_of_ne_nil _ hname, List.getLast?_eq_some_getLast hname]
  exact hletters _ (List.getLast_mem hname)

/-- The whole of a tag is cut out up to what is left over. -/
theorem part_raw (hv : v = raw ++ after) (u : Text) :
    byteCount (u ++ raw) = byteCount (u ++ v) - after.byteCount ∧
      part (u ++ v).utf8 u.byteCount (byteCount (u ++ raw)) =
        pure (v.take (v.length - after.length)) := by
  subst hv
  rw [Tag.take_sub_append]
  refine ⟨?_, part_eq (List.append_assoc _ _ _).symm rfl rfl⟩
  rw [← List.append_assoc, byteCount_sub_append]

/-- The tag that has been read at the start of `v` with the given parts, in the document
    `u ++ v`. -/
def tagOf (u v name : Text) : Text × Option Text × Text → Tag × Nat
  | (attributes, body, after) =>
    (⟨v.take (v.length - after.length), name, attributes, body⟩,
      byteCount (u ++ v) - after.byteCount)

theorem readSelfClosing_eq (hv : v = lead ++ name ++ (inner ++ '>' :: rest))
    (hself : Tag.closesItself inner = true) (u : Text) :
    readSelfClosing (u ++ v).utf8 name u.byteCount (byteCount (u ++ lead ++ name))
        (byteCount (u ++ lead ++ name ++ inner)) =
      pure (some (tagOf u v name (inner.dropLast, none, rest))) := by
  have hinner := Tag.eq_dropLast_append_of_closesItself hself
  have hnext : byteCount (u ++ lead ++ name ++ inner) + 1 =
      byteCount (u ++ (lead ++ name ++ inner ++ ['>'])) := by
    rw [← byteCount_append_singleton (c := '>') (by decide)]
    simp only [List.append_assoc]
  have hlast : byteCount (u ++ lead ++ name ++ inner) - 1 =
      byteCount (u ++ lead ++ name ++ inner.dropLast) := by
    conv_lhs => rw [hinner, ← List.append_assoc, byteCount_append_singleton (by decide)]
    exact Nat.add_sub_cancel _ _
  have hattributes : part (u ++ v).utf8 (byteCount (u ++ lead ++ name))
      (byteCount (u ++ lead ++ name ++ inner.dropLast)) = pure inner.dropLast := by
    refine part_eq (v := '/' :: '>' :: rest) ?_ rfl rfl
    rw [hv]
    conv_lhs => rw [hinner]
    simp
  have hwhole : v = lead ++ name ++ inner ++ ['>'] ++ rest := by simp [hv]
  obtain ⟨hcount, hraw⟩ := part_raw hwhole u
  rw [readSelfClosing, hnext, hraw, pure_bind, hlast, hattributes, pure_bind, hcount, tagOf]

theorem readWithBody_eq (hname : name ≠ []) (hletters : ∀ c ∈ name, c.isAlpha = true)
    (hv : v = lead ++ name ++ (inner ++ '>' :: rest)) (ns u : Text) :
    readWithBody ns (u ++ v).utf8 name u.byteCount (byteCount (u ++ lead ++ name))
        (byteCount (u ++ lead ++ name ++ inner)) =
      pure ((Tag.splitBody (Tag.opener ns ++ name) (Tag.endOpener ns ++ name) 0 0 rest).map
        fun (body, after) => tagOf u v name (inner, some body, after)) := by
  have hnext : byteCount (u ++ lead ++ name ++ inner) + 1 =
      byteCount (u ++ lead ++ name ++ inner ++ ['>']) :=
    (byteCount_append_singleton (by decide) _).symm
  have hwhole : u ++ lead ++ name ++ inner ++ ['>'] ++ rest = u ++ v := by simp [hv]
  have hlength : rest.length < (u ++ v).utf8.length + 1 := by
    have hle := length_le_byteCount (u ++ v)
    rw [← hwhole, List.length_append] at hle
    rw [length_utf8, ← hwhole]
    omega
  have hopen : (Tag.opener ns ++ name).head? = some '<' := rfl
  have hclose : (Tag.endOpener ns ++ name).head? = some '<' := rfl
  have hclosing := closingTag_eq (isAlpha_getLast?_name hname hletters (Tag.opener ns)) hopen
    hclose 0 (u ++ lead ++ name ++ inner ++ ['>']) rest hlength
  have hattributes : part (u ++ v).utf8 (byteCount (u ++ lead ++ name))
      (byteCount (u ++ lead ++ name ++ inner)) = pure inner :=
    part_eq (v := '>' :: rest) (by simp [hv]) rfl rfl
  rw [hwhole] at hclosing
  rw [readWithBody, hnext, hclosing, pure_bind]
  cases hsplit : Tag.splitBody (Tag.opener ns ++ name) (Tag.endOpener ns ++ name) 0 0 rest with
  | none => rfl
  | some cut =>
    obtain ⟨body, after⟩ := cut
    obtain ⟨ending, rfl⟩ := exists_append_of_splitBody hsplit
    have htag : v = lead ++ name ++ inner ++ ['>'] ++ (body ++ ending) ++ after := by simp [hv]
    obtain ⟨hcount, hraw⟩ := part_raw htag u
    have hbody : part (u ++ v).utf8 (byteCount (u ++ lead ++ name ++ inner ++ ['>']))
        (byteCount (u ++ lead ++ name ++ inner ++ ['>'] ++ body)) = pure body :=
      part_eq (v := ending ++ after) (by simp [hv]) rfl rfl
    simp only [Option.map_some, extent, tagOf]
    rw [← hcount, hraw, pure_bind, hattributes, pure_bind, hbody, pure_bind]

/-- A tag is read by positions as it is character by character. -/
theorem readTag_eq {ns : Text} (hopens : (afterAnyCase? (Tag.opener ns) v).isSome) (u : Text) :
    readTag ns (u ++ v).utf8 u.byteCount =
      pure ((Tag.read? ns v).map fun (t, after) => (t, byteCount (u ++ v) - after.byteCount)) := by
  obtain ⟨named, hnamed⟩ := Option.isSome_iff_exists.1 hopens
  obtain ⟨lead, rfl, hlead⟩ := afterAnyCase?_eq_some_iff.1 hnamed
  obtain ⟨name, after, hname, hafter⟩ : ∃ name after,
      named.takeWhile Char.isAlpha = name ∧ named.dropWhile Char.isAlpha = after := ⟨_, _, rfl, rfl⟩
  have hsplit : named = name ++ after := by rw [← hname, ← hafter, List.takeWhile_append_dropWhile]
  have hletters : ∀ c ∈ name, c.isAlpha = true := fun c hc => List.mem_takeWhile_imp (hname ▸ hc)
  have hstart : u.byteCount + (utf8 (Tag.opener ns)).length = byteCount (u ++ lead) := by
    rw [length_utf8, byteCount_append, byteCount_eq_of_sameText hlead]
  have hnameEnd := asciiClass_isAlpha.runEnd_eq (u ++ lead) named
  have hbounded := isAt_isNameChar_eq (u ++ lead ++ name) after
  have hempty : (byteCount (u ++ lead ++ name) == byteCount (u ++ lead)) = name.isEmpty := by
    rw [byteCount_append (u ++ lead)]
    cases name with
    | nil => simp
    | cons c name =>
      have hpos := byteCount_pos (List.cons_ne_nil c name)
      simp
      omega
  rw [List.append_assoc (u ++ lead), ← hsplit, List.append_assoc] at hbounded
  rw [hname, List.append_assoc] at hnameEnd
  rw [readTag, hstart, hnameEnd, pure_bind, hbounded, hempty, Tag.read?, hnamed]
  dsimp only
  rw [hname, hafter]
  split
  · rfl
  · next hcond =>
    have hne : name ≠ [] := by
      rintro rfl
      exact hcond rfl
    have hpart : part (u ++ (lead ++ named)).utf8 (byteCount (u ++ lead))
        (byteCount (u ++ lead ++ name)) = pure name :=
      part_eq (v := after) (by simp [hsplit]) rfl rfl
    have hequals : List.getLast? (u ++ lead ++ name) ≠ some '=' := by
      have halpha := isAlpha_getLast?_name hne hletters (u ++ lead)
      intro hlast
      rw [hlast] at halpha
      cases halpha
    have hend := tagEnd_eq hequals after
    rw [List.append_assoc (u ++ lead), ← hsplit, List.append_assoc u lead named] at hend
    rw [hpart, pure_bind, hend, pure_bind, Tag.readAfterName?]
    cases hinner : Tag.splitStart none false after with
    | none => rfl
    | some cut =>
      obtain ⟨inner, rest⟩ := cut
      obtain ⟨rfl, -⟩ := Tag.splitStart_eq_some_iff.1 hinner
      have hslash := slashBefore_eq (u ++ lead ++ name) inner ('>' :: rest)
      have hv : lead ++ named = lead ++ name ++ (inner ++ '>' :: rest) := by simp [hsplit]
      rw [show u ++ lead ++ name ++ inner ++ '>' :: rest = u ++ (lead ++ named) by simp [hv]]
        at hslash
      rw [Option.map_some]
      dsimp only
      rw [hslash, pure_bind]
      cases hself : Tag.closesItself inner with
      | true => exact readSelfClosing_eq hv hself u
      | false =>
        rw [if_neg Bool.false_ne_true, if_neg Bool.false_ne_true, readWithBody_eq hne hletters hv,
          Option.map_map, Option.map_map]
        rfl

end Indexed

end EdgeInclude
