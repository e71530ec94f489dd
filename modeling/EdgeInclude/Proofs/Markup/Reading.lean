import EdgeInclude.Proofs.Markup.Body

/-!
# Complete tags

When a tag of a namespace stands at the start of a text, said without reading
it: how the tag is written, that its start tag ends at the first `>` outside of
quoted values, and that its body ends at the first end tag after which no tag of
its name is open.

Results:
* `read?_eq_some_iff`: reading finds exactly the complete tags.
* `read?_eq_none_iff`: where it finds none, the name, the end of the start tag or
  the end tag is missing.
-/

namespace EdgeInclude

namespace Tag

/-! ## Writing -/

/-- A name, and a text that does not go on with it. -/
structure IsName (name after : Text) : Prop where
  ne_nil : name ≠ []
  letters : ∀ c ∈ name, c.isAlpha = true
  bounded : continuesName after = false

/-- A start tag written as `lead`, `name`, `inner` and a `>`. -/
structure IsStartTag (ns lead name inner : Text) : Prop where
  opens : Text.SameText (opener ns) lead
  named : IsName name (inner ++ ['>'])
  closed : openQuote inner = none
  unended : Unended inner

/-- The pieces of a text that follows the start tag of the given name. -/
def BodyPieces (ns name s : Text) (ps : List Piece) : Prop :=
  PiecesOf (opener ns ++ name) (endOpener ns ++ name) s ps

/-- A tag as it is written before a text. -/
inductive Complete (ns : Text) : Tag → Text → Prop where
  | selfClosing {lead name attributes rest : Text}
      (start : IsStartTag ns lead name (attributes ++ ['/'])) :
      Complete ns ⟨lead ++ name ++ attributes ++ ['/', '>'], name, attributes, none⟩ rest
  | withBody {lead name attributes stop rest : Text} {before after : List Piece}
      (start : IsStartTag ns lead name attributes) (notSelf : closesItself attributes = false)
      (ends : IsEnd (endOpener ns ++ name) stop)
      (cut : BodyPieces ns name (Piece.text before ++ stop ++ rest) (before ++ .ending stop :: after))
      (balanced : Piece.openAfter 1 (before ++ [.ending stop]) = 0)
      (first : Piece.Unclosed 1 before) :
      Complete ns ⟨lead ++ name ++ attributes ++ '>' :: (Piece.text before ++ stop), name,
        attributes, some (Piece.text before)⟩ rest

/-- No complete tag stands at an opener that `named` follows: the name is missing or goes on
    with a character of names, or no `>` outside of quoted values follows, or the tag does not
    close itself and no end tag leaves no tag of its name open. -/
def Incomplete (ns named : Text) : Prop :=
  let name := named.takeWhile Char.isAlpha
  let after := named.dropWhile Char.isAlpha
  name = [] ∨ continuesName after = true ∨ Unended after ∨
    ∃ inner rest ps, after = inner ++ '>' :: rest ∧ openQuote inner = none ∧ Unended inner ∧
      closesItself inner = false ∧ BodyPieces ns name rest ps ∧ Piece.Unclosed 1 ps

/-! ## Names -/

theorem isAlpha_eq_false_of_continuesName {after : Text} (h : continuesName after = false) :
    after.head?.any Char.isAlpha = false := by
  cases after with
  | nil => rfl
  | cons c cs =>
    have hc : Text.isNameChar c = false := h
    simp only [Text.isNameChar, Char.isAlphanum, Bool.or_eq_false_iff] at hc
    exact hc.1.1

/-- A name is the longest run of letters that it begins. -/
theorem IsName.span {name after : Text} (h : IsName name after) :
    (name ++ after).takeWhile Char.isAlpha = name ∧
      (name ++ after).dropWhile Char.isAlpha = after :=
  Text.span_append h.letters (isAlpha_eq_false_of_continuesName h.bounded)

theorem isName_span {named : Text} (hname : named.takeWhile Char.isAlpha ≠ [])
    (hafter : continuesName (named.dropWhile Char.isAlpha) = false) :
    IsName (named.takeWhile Char.isAlpha) (named.dropWhile Char.isAlpha) :=
  ⟨hname, fun _ hc => List.mem_takeWhile_imp hc, hafter⟩

/-! ## Reading -/

theorem bodyPieces_iff {ns name s : Text} {ps : List Piece} :
    BodyPieces ns name s ps ↔ pieces (opener ns ++ name) (endOpener ns ++ name) s = ps :=
  piecesOf_iff (apart_openers ns name)

theorem read?_of_name {ns lead name after : Text} (hlead : Text.SameText (opener ns) lead)
    (hname : IsName name after) :
    read? ns (lead ++ name ++ after) =
      (readAfterName? ns name after).map fun (attributes, body, rest) =>
        (⟨(lead ++ name ++ after).take ((lead ++ name ++ after).length - rest.length), name,
          attributes, body⟩, rest) := by
  have hopen : Text.afterAnyCase? (opener ns) (lead ++ name ++ after) = some (name ++ after) :=
    Text.afterAnyCase?_eq_some_iff.2 ⟨lead, List.append_assoc .., hlead⟩
  rw [read?, hopen]
  dsimp only
  rw [hname.span.1, hname.span.2, if_neg]
  simp [hname.ne_nil, hname.bounded]

/-- What reading a tag needs before it looks for the end of the start tag. -/
theorem name_of_read? {ns s : Text} {found : Tag × Text} (h : read? ns s = some found) :
    ∃ lead name after, s = lead ++ name ++ after ∧ Text.SameText (opener ns) lead ∧
      IsName name after := by
  unfold read? at h
  split at h
  · cases h
  · next named hnamed =>
    obtain ⟨lead, rfl, hlead⟩ := Text.afterAnyCase?_eq_some_iff.1 hnamed
    dsimp only at h
    split at h
    · cases h
    · next hname =>
      have hname : named.takeWhile Char.isAlpha ≠ [] ∧
          continuesName (named.dropWhile Char.isAlpha) = false := by simpa using hname
      refine ⟨lead, _, _, ?_, hlead, isName_span hname.1 hname.2⟩
      rw [List.append_assoc, List.takeWhile_append_dropWhile]

/-- Taking off what is left over leaves what has been read. -/
theorem take_sub_append (raw rest : Text) :
    (raw ++ rest).take ((raw ++ rest).length - rest.length) = raw := by
  rw [List.length_append, Nat.add_sub_cancel, List.take_left]

/-- A text that closes a tag itself ends in a slash. -/
theorem eq_dropLast_append_of_closesItself {s : Text} (h : closesItself s = true) :
    s = s.dropLast ++ ['/'] := by
  have hlast : s.getLast? = some '/' := by simpa [closesItself] using h
  exact (List.dropLast_append_getLast? _ hlast).symm

theorem closesItself_append_slash (s : Text) : closesItself (s ++ ['/']) = true := by
  simp [closesItself]

/-- What is read after a name makes a complete tag. -/
theorem complete_of_readAfterName? {ns lead name after attributes rest : Text}
    {body : Option Text} (hlead : Text.SameText (opener ns) lead) (hname : IsName name after)
    (h : readAfterName? ns name after = some (attributes, body, rest)) :
    ∃ raw, lead ++ name ++ after = raw ++ rest ∧
      Complete ns ⟨raw, name, attributes, body⟩ rest := by
  unfold readAfterName? at h
  split at h
  · cases h
  · next inner tail hsplit =>
    obtain ⟨rfl, hclosed, hunended⟩ := splitStart_eq_some_iff.1 hsplit
    have hbounded : continuesName (inner ++ ['>']) = false :=
      (continuesName_append_gt inner tail).symm.trans hname.bounded
    have hstart : IsStartTag ns lead name inner :=
      ⟨hlead, ⟨hname.ne_nil, hname.letters, hbounded⟩, hclosed, hunended⟩
    split at h
    · next hself =>
      obtain ⟨rfl, rfl, rfl⟩ : inner.dropLast = attributes ∧ none = body ∧ tail = rest := by
        simpa using h
      have hinner := eq_dropLast_append_of_closesItself hself
      refine ⟨lead ++ name ++ inner.dropLast ++ ['/', '>'], ?_, .selfClosing (hinner ▸ hstart)⟩
      conv_lhs => rw [hinner]
      simp
    · next hself =>
      obtain ⟨⟨b, r⟩, hbody, heq⟩ := Option.map_eq_some_iff.1 h
      obtain ⟨rfl, rfl, rfl⟩ : inner = attributes ∧ some b = body ∧ r = rest := by
        simpa using heq
      obtain ⟨before, p, ps, hps, rfl, rfl, hp, hopen, hfirst⟩ := splitBody_eq_some_iff.1 hbody
      cases p with
      | ending stop =>
        have htail : tail = Piece.text before ++ stop ++ Piece.text ps := by
          rw [← text_pieces (opener ns ++ name) (endOpener ns ++ name) tail, hps,
            Piece.text_append, Piece.text_cons, ← List.append_assoc]
          rfl
        have hcut : BodyPieces ns name tail (before ++ .ending stop :: ps) := bodyPieces_iff.2 hps
        have hends : IsEnd (endOpener ns ++ name) stop :=
          hcut.isEnd_of_mem (List.mem_append_right _ (List.mem_cons_self ..))
        rw [htail] at hcut
        refine ⟨_, ?_, .withBody hstart (by simpa using hself) hends hcut hopen hfirst⟩
        rw [htail]
        simp
      | character c => cases hp
      | starting raw => cases hp
      | selfClosing raw => cases hp

theorem IsStartTag.isName {ns lead name inner : Text} (h : IsStartTag ns lead name inner)
    (rest : Text) : IsName name (inner ++ '>' :: rest) :=
  ⟨h.named.ne_nil, h.named.letters, (continuesName_append_gt inner rest).trans h.named.bounded⟩

theorem IsStartTag.splitStart_eq {ns lead name inner : Text} (h : IsStartTag ns lead name inner)
    (rest : Text) : splitStart none false (inner ++ '>' :: rest) = some (inner, rest) :=
  splitStart_eq_some_iff.2 ⟨rfl, h.closed, h.unended⟩

/-- A complete tag is read. -/
theorem Complete.read?_eq {ns rest : Text} {t : Tag} (h : Complete ns t rest) :
    read? ns (t.raw ++ rest) = some (t, rest) := by
  cases h with
  | @selfClosing lead name attributes _ start =>
    have hs : lead ++ name ++ attributes ++ ['/', '>'] ++ rest =
        lead ++ name ++ (attributes ++ ['/'] ++ '>' :: rest) := by simp
    have hread : readAfterName? ns name (attributes ++ ['/'] ++ '>' :: rest) =
        some (attributes, none, rest) := by
      rw [readAfterName?, start.splitStart_eq]
      dsimp only
      rw [if_pos (closesItself_append_slash attributes), List.dropLast_concat]
    dsimp only
    rw [hs, read?_of_name start.opens (start.isName rest), hread, ← hs, Option.map_some]
    dsimp only
    rw [take_sub_append]
  | @withBody lead name attributes stop _ before after start notSelf ends cut balanced first =>
    have hs : lead ++ name ++ attributes ++ '>' :: (Piece.text before ++ stop) ++ rest =
        lead ++ name ++ (attributes ++ '>' :: (Piece.text before ++ stop ++ rest)) := by simp
    have hafter : rest = Piece.text after := by
      have htext := text_pieces (opener ns ++ name) (endOpener ns ++ name)
        (Piece.text before ++ stop ++ rest)
      rw [bodyPieces_iff.1 cut, Piece.text_append, Piece.text_cons, ← List.append_assoc] at htext
      exact (List.append_cancel_left htext).symm
    have hbody : splitBody (opener ns ++ name) (endOpener ns ++ name) 0 0
        (Piece.text before ++ stop ++ rest) = some (Piece.text before, rest) :=
      splitBody_eq_some_iff.2 ⟨before, .ending stop, after, bodyPieces_iff.1 cut, rfl, hafter,
        rfl, balanced, first⟩
    have hread : readAfterName? ns name (attributes ++ '>' :: (Piece.text before ++ stop ++ rest)) =
        some (attributes, some (Piece.text before), rest) := by
      rw [readAfterName?, start.splitStart_eq]
      dsimp only
      rw [if_neg (by simp [notSelf]), hbody]
      rfl
    dsimp only
    rw [hs, read?_of_name start.opens (start.isName _), hread, ← hs, Option.map_some]
    dsimp only
    rw [take_sub_append]

theorem Complete.raw_ne_nil {ns rest : Text} {t : Tag} (h : Complete ns t rest) : t.raw ≠ [] := by
  cases h <;> simp

/-- Reading finds the complete tags and nothing else. -/
theorem read?_eq_some_iff {ns s rest : Text} {t : Tag} :
    read? ns s = some (t, rest) ↔ s = t.raw ++ rest ∧ Complete ns t rest := by
  constructor
  · intro h
    obtain ⟨lead, name, after, rfl, hlead, hname⟩ := name_of_read? h
    rw [read?_of_name hlead hname, Option.map_eq_some_iff] at h
    obtain ⟨⟨attributes, body, rest'⟩, hread, heq⟩ := h
    obtain ⟨raw, hs, hcomplete⟩ := complete_of_readAfterName? hlead hname hread
    dsimp only at heq
    rw [hs, take_sub_append] at heq
    obtain ⟨rfl, rfl⟩ := Prod.mk.inj heq
    exact ⟨hs, hcomplete⟩
  · rintro ⟨rfl, h⟩
    exact h.read?_eq

/-! ## Failing to read -/

theorem readAfterName?_eq_none_iff {ns name after : Text} :
    readAfterName? ns name after = none ↔ Unended after ∨
      ∃ inner rest ps, after = inner ++ '>' :: rest ∧ openQuote inner = none ∧ Unended inner ∧
        closesItself inner = false ∧ BodyPieces ns name rest ps ∧ Piece.Unclosed 1 ps := by
  cases hsplit : splitStart none false after with
  | none =>
    have hunended : Unended after := splitStart_eq_none_iff.1 hsplit
    simp [readAfterName?, hsplit, hunended]
  | some cut =>
    obtain ⟨inner, rest⟩ := cut
    obtain ⟨hafter, hclosed, hunended⟩ := splitStart_eq_some_iff.1 hsplit
    have hended : ¬Unended after := fun h => h inner rest hafter hclosed
    simp only [readAfterName?, hsplit, hended, false_or]
    constructor
    · intro h
      split at h
      · cases h
      · next hself =>
        refine ⟨inner, rest, _, hafter, hclosed, hunended, by simpa using hself,
          bodyPieces_iff.2 rfl, ?_⟩
        exact splitBody_eq_none_iff.1 (Option.map_eq_none_iff.1 h)
    · rintro ⟨inner', rest', ps, hafter', hclosed', hunended', hself, hcut, hopen⟩
      -- the first `>` outside of quoted values stands at one place only
      have hsame := splitStart_eq_some_iff.2 ⟨hafter', hclosed', hunended'⟩
      rw [hsplit] at hsame
      obtain ⟨rfl, rfl⟩ := Prod.mk.inj (Option.some.inj hsame)
      rw [← bodyPieces_iff.1 hcut] at hopen
      rw [if_neg (by simp [hself]), splitBody_eq_none_iff.2 hopen]
      rfl

/-- Reading fails where no opener stands, and at the openers of incomplete tags. -/
theorem read?_eq_none_iff {ns s : Text} :
    read? ns s = none ↔
      ∀ lead named, s = lead ++ named → Text.SameText (opener ns) lead → Incomplete ns named := by
  constructor
  · rintro h lead named rfl hlead
    by_cases hname : named.takeWhile Char.isAlpha = []
    · exact .inl hname
    · cases hbounded : continuesName (named.dropWhile Char.isAlpha) with
      | true => exact .inr (.inl hbounded)
      | false =>
        have hsplit : lead ++ named =
            lead ++ named.takeWhile Char.isAlpha ++ named.dropWhile Char.isAlpha := by
          rw [List.append_assoc, List.takeWhile_append_dropWhile]
        rw [hsplit, read?_of_name hlead (isName_span hname hbounded), Option.map_eq_none_iff] at h
        exact .inr (.inr (readAfterName?_eq_none_iff.1 h))
  · intro h
    cases hread : read? ns s with
    | none => rfl
    | some found =>
      obtain ⟨lead, name, after, rfl, hlead, hname⟩ := name_of_read? hread
      have hincomplete := h lead (name ++ after) (List.append_assoc ..) hlead
      unfold Incomplete at hincomplete
      dsimp only at hincomplete
      rw [hname.span.1, hname.span.2] at hincomplete
      rcases hincomplete with hnil | hbounded | hrest
      · exact absurd hnil hname.ne_nil
      · rw [hname.bounded] at hbounded
        cases hbounded
      · rw [read?_of_name hlead hname, readAfterName?_eq_none_iff.2 hrest] at hread
        cases hread

end Tag

end EdgeInclude
