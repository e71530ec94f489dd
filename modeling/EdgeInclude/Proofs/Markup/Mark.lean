import EdgeInclude.Proofs.Markup.StartTag
import Mathlib.Data.List.TakeWhile

/-!
# Tags in a body

The start and end tags of one name, said by how they are written. In the body of
a tag, the tags of its own name are found where they stand and nowhere else; an
opener of a start tag is never one of an end tag, so what is found does not
depend on which of the two is looked for first.

Results:
* `mark?_eq_some_iff`: a tag is found exactly where it stands.
* `apart_openers`: no text begins like a start tag and like an end tag.
-/

namespace EdgeInclude

namespace Tag

/-! ## Written tags -/

/-- An end tag that begins with `stop` as far as its name goes. -/
def IsEnd (stop raw : Text) : Prop :=
  ∃ lead blanks, raw = lead ++ blanks ++ ['>'] ∧ Text.SameText stop lead ∧
    ∀ c ∈ blanks, Text.isMarkupSpace c = true

/-- A start tag that begins with `start` as far as its name goes, and `inner` after it. -/
def IsStart (start inner raw : Text) : Prop :=
  ∃ lead, raw = lead ++ inner ++ ['>'] ∧ Text.SameText start lead ∧
    continuesName (inner ++ ['>']) = false ∧ openQuote inner = none ∧ Unended inner

theorem IsEnd.length_pos {stop raw : Text} (h : IsEnd stop raw) : 0 < raw.length := by
  obtain ⟨lead, blanks, rfl, -⟩ := h
  rw [List.length_append, List.length_singleton]
  omega

theorem IsStart.length_pos {start inner raw : Text} (h : IsStart start inner raw) :
    0 < raw.length := by
  obtain ⟨lead, rfl, -⟩ := h
  rw [List.length_append, List.length_singleton]
  omega

/-- Whether a name goes on is settled before the end of a start tag. -/
theorem continuesName_append_gt (inner rest : Text) :
    continuesName (inner ++ '>' :: rest) = continuesName (inner ++ ['>']) := by
  cases inner <;> rfl

/-- White space ends a name, and so does a `>`. -/
theorem continuesName_blanks {blanks rest : Text}
    (h : ∀ c ∈ blanks, Text.isMarkupSpace c = true) :
    continuesName (blanks ++ '>' :: rest) = false := by
  cases blanks with
  | nil => rfl
  | cons c cs =>
    have hc : c = ' ' ∨ c = '\t' ∨ c = '\n' ∨ c = '\x0c' ∨ c = '\r' := by
      simpa [Text.isMarkupSpace, or_assoc] using h c (List.mem_cons_self ..)
    rcases hc with rfl | rfl | rfl | rfl | rfl <;> rfl

/-! ## Openers -/

/-- No text begins with both `start` and `stop` up to letter case. -/
def Apart (start stop : Text) : Prop :=
  ∀ s, Text.afterAnyCase? start s ≠ none → Text.afterAnyCase? stop s = none

/-- A text that begins with `w`, also after a character that `d` stands for, repeats `d`. -/
theorem sameLetter_of_shifted {d : Char} {w s : Text} (hw : Text.afterAnyCase? w s ≠ none)
    (hdw : Text.afterAnyCase? (d :: w) s ≠ none) : ∀ c ∈ w, Text.sameLetter c d = true := by
  induction w generalizing d s with
  | nil => simp
  | cons x w ih =>
    cases s with
    | nil => simp [Text.afterAnyCase?, Text.afterPrefix?] at hw
    | cons y s =>
      obtain ⟨hxy, hw⟩ := Text.afterAnyCase?_cons_ne_none.1 hw
      obtain ⟨hdy, hdw⟩ := Text.afterAnyCase?_cons_ne_none.1 hdw
      have hxd : Text.sameLetter x d = true := by
        simp only [Text.sameLetter, beq_iff_eq] at hxy hdy ⊢
        rw [hxy, hdy]
      intro c hc
      rcases List.mem_cons.1 hc with rfl | hc
      · exact hxd
      · have h1 := ih hw hdw c hc
        simp only [Text.sameLetter, beq_iff_eq] at h1 hxd ⊢
        rw [h1, hxd]

/-- What start tags of a name begin with is never what its end tags begin with. -/
theorem apart_openers (ns name : Text) : Apart (opener ns ++ name) (endOpener ns ++ name) := by
  intro s hstart
  by_contra hstop
  cases s with
  | nil => simp [opener, Text.afterAnyCase?, Text.afterPrefix?] at hstart
  | cons c cs =>
    obtain ⟨-, hname⟩ := Text.afterAnyCase?_cons_ne_none.1 hstart
    obtain ⟨-, hslash⟩ := Text.afterAnyCase?_cons_ne_none.1 hstop
    have hcolon := sameLetter_of_shifted hname hslash ':' (by simp)
    exact absurd hcolon (by decide)

/-! ## Marks -/

/-- The number of characters of a tag in a body. -/
def Mark.length : Mark → Nat
  | starting length => length
  | selfClosing length => length
  | ending length _ => length

/-- What a mark says about the text that it is found at. -/
def Mark.Marks (start stop s : Text) : Mark → Prop
  | starting length => ∃ raw inner rest, s = raw ++ rest ∧ raw.length = length ∧
      IsStart start inner raw ∧ closesItself inner = false
  | selfClosing length => ∃ raw inner rest, s = raw ++ rest ∧ raw.length = length ∧
      IsStart start inner raw ∧ closesItself inner = true
  | ending length rest => ∃ raw, s = raw ++ rest ∧ raw.length = length ∧ IsEnd stop raw

theorem afterName?_eq_some_iff {lead s rest : Text} :
    afterName? lead s = some rest ↔
      ∃ head, s = head ++ rest ∧ Text.SameText lead head ∧ continuesName rest = false := by
  rw [afterName?, Option.filter_eq_some_iff, Text.afterAnyCase?_eq_some_iff]
  constructor
  · rintro ⟨⟨head, hs, hsame⟩, hname⟩
    exact ⟨head, hs, hsame, by simpa using hname⟩
  · rintro ⟨head, hs, hsame, hname⟩
    exact ⟨⟨head, hs, hsame⟩, by simpa using hname⟩

theorem endMark?_eq_some_iff {length : Nat} {s : Text} {m : Mark} :
    endMark? length s = some m ↔
      ∃ blanks rest, s = blanks ++ '>' :: rest ∧ (∀ c ∈ blanks, Text.isMarkupSpace c = true) ∧
        m = .ending (length + blanks.length + 1) rest := by
  constructor
  · intro h
    unfold endMark? at h
    split at h
    · next rest hdrop =>
      refine ⟨s.takeWhile Text.isMarkupSpace, rest, ?_, fun c hc => List.mem_takeWhile_imp hc,
        (Option.some.inj h).symm⟩
      rw [← hdrop, List.takeWhile_append_dropWhile]
    · cases h
  · rintro ⟨blanks, rest, rfl, hblanks, rfl⟩
    have hstop : (('>' :: rest).head?.any Text.isMarkupSpace) = false := rfl
    obtain ⟨htake, hdrop⟩ := Text.span_append hblanks hstop
    rw [endMark?, hdrop, htake]
    rfl

theorem startMark?_eq_some_iff {length : Nat} {s : Text} {m : Mark} :
    startMark? length s = some m ↔
      ∃ inner rest, s = inner ++ '>' :: rest ∧ openQuote inner = none ∧ Unended inner ∧
        m = if closesItself inner then .selfClosing (length + inner.length + 1)
          else .starting (length + inner.length + 1) := by
  constructor
  · intro h
    unfold startMark? at h
    split at h
    · next inner rest hsplit =>
      obtain ⟨hs, hclosed, hunended⟩ := splitStart_eq_some_iff.1 hsplit
      exact ⟨inner, rest, hs, hclosed, hunended, (Option.some.inj h).symm⟩
    · cases h
  · rintro ⟨inner, rest, rfl, hclosed, hunended, rfl⟩
    rw [startMark?, splitStart_eq_some_iff.2 ⟨rfl, hclosed, hunended⟩]

/-- A tag is found in a body only where it stands. -/
theorem marks_of_mark? {start stop s : Text} {m : Mark} (h : mark? start stop s = some m) :
    m.Marks start stop s := by
  unfold mark? at h
  split at h
  · next rest hstop =>
    obtain ⟨lead, rfl, hlead, -⟩ := afterName?_eq_some_iff.1 hstop
    obtain ⟨blanks, rest, rfl, hblanks, rfl⟩ := endMark?_eq_some_iff.1 h
    refine ⟨lead ++ blanks ++ ['>'], by simp, ?_, lead, blanks, rfl, hlead, hblanks⟩
    simp only [List.length_append, List.length_singleton, hlead.length_eq]
  · split at h
    · next rest hstart =>
      obtain ⟨lead, rfl, hlead, hname⟩ := afterName?_eq_some_iff.1 hstart
      obtain ⟨inner, rest, rfl, hclosed, hunended, rfl⟩ := startMark?_eq_some_iff.1 h
      rw [continuesName_append_gt] at hname
      have hwritten : IsStart start inner (lead ++ inner ++ ['>']) :=
        ⟨lead, rfl, hlead, hname, hclosed, hunended⟩
      have hlength : (lead ++ inner ++ ['>']).length = start.length + inner.length + 1 := by
        simp only [List.length_append, List.length_singleton, hlead.length_eq]
      split
      · next hself => exact ⟨_, inner, rest, by simp, hlength, hwritten, hself⟩
      · next hself => exact ⟨_, inner, rest, by simp, hlength, hwritten, by simpa using hself⟩
    · cases h

theorem mark?_of_isEnd {start stop raw : Text} (h : IsEnd stop raw) (rest : Text) :
    mark? start stop (raw ++ rest) = some (.ending raw.length rest) := by
  obtain ⟨lead, blanks, rfl, hlead, hblanks⟩ := h
  have hs : lead ++ blanks ++ ['>'] ++ rest = lead ++ (blanks ++ '>' :: rest) := by simp
  have hstop : afterName? stop (lead ++ (blanks ++ '>' :: rest)) = some (blanks ++ '>' :: rest) :=
    afterName?_eq_some_iff.2 ⟨lead, rfl, hlead, continuesName_blanks hblanks⟩
  rw [hs, mark?, hstop]
  refine endMark?_eq_some_iff.2 ⟨blanks, rest, rfl, hblanks, ?_⟩
  simp only [List.length_append, List.length_singleton, hlead.length_eq]

theorem mark?_of_isStart {start stop inner raw : Text} (hapart : Apart start stop)
    (h : IsStart start inner raw) (rest : Text) :
    mark? start stop (raw ++ rest) =
      some (if closesItself inner then .selfClosing raw.length else .starting raw.length) := by
  obtain ⟨lead, rfl, hlead, hname, hclosed, hunended⟩ := h
  have hs : lead ++ inner ++ ['>'] ++ rest = lead ++ (inner ++ '>' :: rest) := by simp
  have hafter : Text.afterAnyCase? start (lead ++ (inner ++ '>' :: rest)) =
      some (inner ++ '>' :: rest) := Text.afterAnyCase?_eq_some_iff.2 ⟨lead, rfl, hlead⟩
  have hstop : afterName? stop (lead ++ (inner ++ '>' :: rest)) = none := by
    rw [afterName?, hapart _ (by rw [hafter]; exact Option.some_ne_none _)]
    rfl
  have hstart : afterName? start (lead ++ (inner ++ '>' :: rest)) =
      some (inner ++ '>' :: rest) :=
    afterName?_eq_some_iff.2 ⟨lead, rfl, hlead, (continuesName_append_gt ..).trans hname⟩
  rw [hs, mark?, hstop, hstart]
  refine startMark?_eq_some_iff.2 ⟨inner, rest, rfl, hclosed, hunended, ?_⟩
  simp only [List.length_append, List.length_singleton, hlead.length_eq]

/-- A tag is found in a body exactly where it stands. -/
theorem mark?_eq_some_iff {start stop s : Text} {m : Mark} (hapart : Apart start stop) :
    mark? start stop s = some m ↔ m.Marks start stop s := by
  refine ⟨marks_of_mark?, fun h => ?_⟩
  cases m with
  | starting length =>
    obtain ⟨raw, inner, rest, rfl, rfl, hwritten, hself⟩ := h
    rw [mark?_of_isStart hapart hwritten, if_neg (by simp [hself])]
  | selfClosing length =>
    obtain ⟨raw, inner, rest, rfl, rfl, hwritten, hself⟩ := h
    rw [mark?_of_isStart hapart hwritten, if_pos hself]
  | ending length rest =>
    obtain ⟨raw, rfl, rfl, hwritten⟩ := h
    exact mark?_of_isEnd hwritten rest

/-- A tag in a body has at least one character. -/
theorem Mark.Marks.length_pos {start stop s : Text} {m : Mark} (h : m.Marks start stop s) :
    0 < m.length := by
  cases m with
  | starting length =>
    obtain ⟨raw, inner, rest, -, rfl, hstart, -⟩ := h
    exact hstart.length_pos
  | selfClosing length =>
    obtain ⟨raw, inner, rest, -, rfl, hstart, -⟩ := h
    exact hstart.length_pos
  | ending length rest =>
    obtain ⟨raw, -, rfl, hend⟩ := h
    exact hend.length_pos

end Tag

end EdgeInclude
