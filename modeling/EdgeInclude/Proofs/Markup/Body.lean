import EdgeInclude.Proofs.Markup.Mark

/-!
# Bodies

The body of a tag seen as the tag sees it: cut, from left to right, into tags of
the same name and single characters outside of them. A start tag is one piece up
to its own end, so nothing in its quoted values counts. The body ends at the
first end tag after which as many end tags as start tags have been read.

Results:
* `piecesOf_iff`: a text can be cut into pieces in one way only, the one that
  the search for the end of a body follows.
* `splitBody_eq_closing?`: the depth that the search counts is the number of
  tags that the pieces leave open.
* `splitBody_eq_some_iff`, `splitBody_eq_none_iff`: where a body ends, and when
  it does not end at all.
-/

namespace EdgeInclude

/-! ## Pieces -/

/-- A part of a body: a tag of the name of the tag whose body it is, or a character outside of
    such tags. -/
inductive Piece where
  | character (c : Char)
  | starting (raw : Text)
  | selfClosing (raw : Text)
  | ending (raw : Text)

namespace Piece

/-- A piece as it is written. -/
def raw : Piece → Text
  | character c => [c]
  | starting raw => raw
  | selfClosing raw => raw
  | ending raw => raw

/-- By how many a piece raises the number of open tags. -/
def change : Piece → Int
  | character _ => 0
  | starting _ => 1
  | selfClosing _ => 0
  | ending _ => -1

/-- The piece that a mark stands for at the start of a text. -/
def ofMark (s : Text) : Tag.Mark → Piece
  | .starting length => starting (s.take length)
  | .selfClosing length => selfClosing (s.take length)
  | .ending length _ => ending (s.take length)

theorem raw_ofMark (s : Text) (m : Tag.Mark) : (ofMark s m).raw = s.take m.length := by
  cases m <;> rfl

/-- Pieces as they are written. -/
def text (ps : List Piece) : Text := ps.flatMap raw

/-- Whether a piece is an end tag. -/
def isEnding : Piece → Bool
  | ending _ => true
  | _ => false

/-- The number of tags that are open after pieces, where `n` are open before them. -/
def openAfter (n : Int) : List Piece → Int
  | [] => n
  | p :: ps => openAfter (n + p.change) ps

theorem text_cons (p : Piece) (ps : List Piece) : text (p :: ps) = p.raw ++ text ps := rfl

/-- No end tag among pieces leaves no tag open, where `n` are open before them. -/
def Unclosed (n : Int) (ps : List Piece) : Prop :=
  ∀ u q v, ps = u ++ q :: v → q.isEnding → openAfter n (u ++ [q]) ≠ 0

theorem openAfter_cons (n : Int) (p : Piece) (ps : List Piece) :
    openAfter n (p :: ps) = openAfter (n + p.change) ps := rfl

theorem text_append (ps qs : List Piece) : text (ps ++ qs) = text ps ++ text qs :=
  List.flatMap_append

end Piece

namespace Tag

/-- Cuts a text into pieces; its first `skip` characters belong to a tag already read. -/
def piecesFrom (start stop : Text) : (skip : Nat) → Text → List Piece
  | _, [] => []
  | skip + 1, _ :: cs => piecesFrom start stop skip cs
  | 0, c :: cs =>
    match mark? start stop (c :: cs) with
    | some m => Piece.ofMark (c :: cs) m :: piecesFrom start stop (m.length - 1) cs
    | none => .character c :: piecesFrom start stop 0 cs

/-- The pieces of a text that follows a start tag, where start tags of the same name begin with
    `start` and end tags with `stop`. -/
def pieces (start stop s : Text) : List Piece := piecesFrom start stop 0 s

theorem text_piecesFrom (start stop : Text) (skip : Nat) (s : Text) :
    Piece.text (piecesFrom start stop skip s) = s.drop skip := by
  induction s generalizing skip with
  | nil => simp [piecesFrom, Piece.text]
  | cons c cs ih =>
    cases skip with
    | succ skip => rw [piecesFrom, ih, List.drop_succ_cons]
    | zero =>
      rw [piecesFrom]
      split
      · next m hm =>
        have hpos := (marks_of_mark? hm).length_pos
        obtain ⟨n, hn⟩ : ∃ n, m.length = n + 1 := ⟨m.length - 1, by omega⟩
        rw [Piece.text_cons, ih, Piece.raw_ofMark, hn, Nat.add_sub_cancel, List.take_succ_cons,
          List.cons_append, List.take_append_drop, List.drop_zero]
      · rw [Piece.text_cons, ih, List.drop_zero]
        rfl

/-- Nothing is lost or added when a text is cut into pieces. -/
theorem text_pieces (start stop s : Text) : Piece.text (pieces start stop s) = s :=
  text_piecesFrom start stop 0 s

/-- The pieces of a text: a tag where one stands, and a character where none does. -/
inductive PiecesOf (start stop : Text) : Text → List Piece → Prop where
  | done : PiecesOf start stop [] []
  | starting {inner raw s : Text} {ps : List Piece} (h : IsStart start inner raw)
      (hself : closesItself inner = false) (rest : PiecesOf start stop s ps) :
      PiecesOf start stop (raw ++ s) (.starting raw :: ps)
  | selfClosing {inner raw s : Text} {ps : List Piece} (h : IsStart start inner raw)
      (hself : closesItself inner = true) (rest : PiecesOf start stop s ps) :
      PiecesOf start stop (raw ++ s) (.selfClosing raw :: ps)
  | ending {raw s : Text} {ps : List Piece} (h : IsEnd stop raw)
      (rest : PiecesOf start stop s ps) : PiecesOf start stop (raw ++ s) (.ending raw :: ps)
  | character {c : Char} {s : Text} {ps : List Piece}
      (hstart : ∀ inner raw, IsStart start inner raw → ¬raw <+: c :: s)
      (hend : ∀ raw, IsEnd stop raw → ¬raw <+: c :: s) (rest : PiecesOf start stop s ps) :
      PiecesOf start stop (c :: s) (.character c :: ps)

theorem piecesFrom_length_append (start stop u v : Text) :
    piecesFrom start stop u.length (u ++ v) = pieces start stop v := by
  induction u with
  | nil => rfl
  | cons c cs ih => exact ih

/-- A tag is the first piece of a text that it begins. -/
theorem pieces_of_mark? {start stop raw s : Text} {m : Mark}
    (hm : mark? start stop (raw ++ s) = some m) (hlength : raw.length = m.length) :
    pieces start stop (raw ++ s) = Piece.ofMark (raw ++ s) m :: pieces start stop s := by
  have hpos := (marks_of_mark? hm).length_pos
  cases raw with
  | nil => rw [← hlength] at hpos; cases hpos
  | cons c cs =>
    rw [List.cons_append] at hm ⊢
    rw [pieces, piecesFrom, hm]
    dsimp only
    rw [← hlength, List.length_cons, Nat.add_sub_cancel, piecesFrom_length_append]

theorem pieces_eq_of_piecesOf {start stop s : Text} {ps : List Piece} (hapart : Apart start stop)
    (h : PiecesOf start stop s ps) : pieces start stop s = ps := by
  induction h with
  | done => rfl
  | @starting inner raw s ps h hself _ ih =>
    have hm := mark?_of_isStart hapart h s
    rw [if_neg (by simp [hself])] at hm
    rw [pieces_of_mark? hm rfl, ih, Piece.ofMark, List.take_left]
  | @selfClosing inner raw s ps h hself _ ih =>
    have hm := mark?_of_isStart hapart h s
    rw [if_pos hself] at hm
    rw [pieces_of_mark? hm rfl, ih, Piece.ofMark, List.take_left]
  | @ending raw s ps h _ ih =>
    rw [pieces_of_mark? (mark?_of_isEnd h s) rfl, ih, Piece.ofMark, List.take_left]
  | @character c s ps hstart hend _ ih =>
    have hm : mark? start stop (c :: s) = none := by
      cases hm : mark? start stop (c :: s) with
      | none => rfl
      | some m =>
        cases m with
        | starting length =>
          obtain ⟨raw, inner, rest, hs, -, h, -⟩ := marks_of_mark? hm
          exact absurd ⟨rest, hs.symm⟩ (hstart inner raw h)
        | selfClosing length =>
          obtain ⟨raw, inner, rest, hs, -, h, -⟩ := marks_of_mark? hm
          exact absurd ⟨rest, hs.symm⟩ (hstart inner raw h)
        | ending length rest =>
          obtain ⟨raw, hs, -, h⟩ := marks_of_mark? hm
          exact absurd ⟨rest, hs.symm⟩ (hend raw h)
    rw [pieces, piecesFrom, hm]
    exact congrArg _ ih

theorem piecesOf_pieces {start stop : Text} (hapart : Apart start stop) (s : Text) :
    PiecesOf start stop s (pieces start stop s) := by
  induction hn : s.length using Nat.strongRecOn generalizing s with
  | ind n ih =>
    cases s with
    | nil => exact .done
    | cons c cs =>
      -- a tag is followed by a shorter text
      have hshort : ∀ {raw rest : Text} {m : Mark}, mark? start stop (c :: cs) = some m →
          c :: cs = raw ++ rest → raw.length = m.length →
            PiecesOf start stop rest (pieces start stop rest) := by
        intro raw rest m hm hs hlength
        have hpos := (marks_of_mark? hm).length_pos
        refine ih rest.length ?_ rest rfl
        rw [← hn, hs, List.length_append]
        omega
      cases hm : mark? start stop (c :: cs) with
      | none =>
        rw [pieces, piecesFrom, hm]
        refine .character ?_ ?_ (ih cs.length (by rw [← hn]; exact Nat.lt_succ_self _) cs rfl)
        · rintro inner raw h ⟨rest, hs⟩
          rw [← hs, mark?_of_isStart hapart h] at hm
          cases hm
        · rintro raw h ⟨rest, hs⟩
          rw [← hs, mark?_of_isEnd h] at hm
          cases hm
      | some m =>
        cases m with
        | starting length =>
          obtain ⟨raw, inner, rest, hs, hlength, h, hself⟩ := marks_of_mark? hm
          have hrest := hshort hm hs hlength
          rw [hs] at hm ⊢
          rw [pieces_of_mark? hm hlength, Piece.ofMark, ← hlength, List.take_left]
          exact .starting h hself hrest
        | selfClosing length =>
          obtain ⟨raw, inner, rest, hs, hlength, h, hself⟩ := marks_of_mark? hm
          have hrest := hshort hm hs hlength
          rw [hs] at hm ⊢
          rw [pieces_of_mark? hm hlength, Piece.ofMark, ← hlength, List.take_left]
          exact .selfClosing h hself hrest
        | ending length rest =>
          obtain ⟨raw, hs, hlength, h⟩ := marks_of_mark? hm
          have hrest := hshort hm hs hlength
          rw [hs] at hm ⊢
          rw [pieces_of_mark? hm hlength, Piece.ofMark, ← hlength, List.take_left]
          exact .ending h hrest

/-- A text can be cut into pieces in one way only. -/
theorem piecesOf_iff {start stop s : Text} {ps : List Piece} (hapart : Apart start stop) :
    PiecesOf start stop s ps ↔ pieces start stop s = ps := by
  refine ⟨pieces_eq_of_piecesOf hapart, ?_⟩
  rintro rfl
  exact piecesOf_pieces hapart s

theorem PiecesOf.isEnd_of_mem {start stop s raw : Text} {ps : List Piece}
    (h : PiecesOf start stop s ps) (hraw : .ending raw ∈ ps) : IsEnd stop raw := by
  induction h with
  | done => cases hraw
  | ending h _ ih =>
    rcases List.mem_cons.1 hraw with heq | hraw
    · rw [Piece.ending.injEq] at heq
      rwa [heq]
    · exact ih hraw
  | starting _ _ _ ih => exact ih ((List.mem_cons.1 hraw).resolve_left (by simp))
  | selfClosing _ _ _ ih => exact ih ((List.mem_cons.1 hraw).resolve_left (by simp))
  | character _ _ _ ih => exact ih ((List.mem_cons.1 hraw).resolve_left (by simp))

/-! ## The end of a body -/

/-- Cuts pieces at the first end tag that leaves no tag open, where `n` tags are open before
    them. -/
def closing? : (n : Int) → List Piece → Option (List Piece × List Piece)
  | _, [] => none
  | n, p :: ps =>
    if p.isEnding ∧ n + p.change = 0 then some ([], ps)
    else (closing? (n + p.change) ps).map fun (before, after) => (p :: before, after)

/-- A tag in a body that is put before both sides of a cut. -/
theorem map_text_ofMark {c : Char} {cs : Text} {m : Mark} (hpos : 0 < m.length)
    (cut : Option (List Piece × List Piece)) :
    ((cut.map fun (before, after) =>
        (cs.take (m.length - 1) ++ Piece.text before, Piece.text after)).map
      fun (s, rest) => (c :: s, rest)) =
      (cut.map fun (before, after) => (Piece.ofMark (c :: cs) m :: before, after)).map
        fun (before, after) => (Piece.text before, Piece.text after) := by
  obtain ⟨n, hn⟩ : ∃ n, m.length = n + 1 := ⟨m.length - 1, by omega⟩
  cases cut with
  | none => rfl
  | some cut => simp [Piece.text_cons, Piece.raw_ofMark, hn]

/-- Searching for the end of a body by depth is searching its pieces for the end tag that
    leaves no tag open. -/
theorem splitBody_eq_closing? (start stop : Text) (depth skip : Nat) (s : Text) :
    splitBody start stop depth skip s =
      (closing? (depth + 1) (piecesFrom start stop skip s)).map fun (before, after) =>
        (s.take skip ++ Piece.text before, Piece.text after) := by
  induction s generalizing depth skip with
  | nil => simp [splitBody, piecesFrom, closing?]
  | cons c cs ih =>
    cases skip with
    | succ skip =>
      rw [splitBody, piecesFrom, ih]
      cases closing? (depth + 1) (piecesFrom start stop skip cs) <;> rfl
    | zero =>
      simp only [List.take_zero, List.nil_append]
      cases hm : mark? start stop (c :: cs) with
      | none =>
        simp only [splitBody, piecesFrom, hm, ih, closing?, Piece.change, Int.add_zero]
        rw [if_neg (by simp [Piece.isEnding])]
        cases closing? (depth + 1) (piecesFrom start stop 0 cs) <;> rfl
      | some m =>
        have hmarks := marks_of_mark? hm
        have hpos := hmarks.length_pos
        cases m with
        | starting length =>
          have hdepth : ((depth + 1 : Nat) : Int) + 1 = (depth : Int) + 1 + 1 := by omega
          simp only [splitBody, piecesFrom, hm, ih, hdepth]
          rw [Piece.ofMark, closing?, if_neg (by simp [Piece.isEnding])]
          exact map_text_ofMark (m := .starting length) hpos _
        | selfClosing length =>
          simp only [splitBody, piecesFrom, hm, ih]
          rw [Piece.ofMark, closing?, if_neg (by simp [Piece.isEnding]), Piece.change, Int.add_zero]
          exact map_text_ofMark (m := .selfClosing length) hpos _
        | ending length rest =>
          cases depth with
          | zero =>
            obtain ⟨raw, hraw, rfl, -⟩ := hmarks
            have hrest : cs.drop (raw.length - 1) = rest := by
              obtain ⟨n, hn⟩ : ∃ n, raw.length = n + 1 :=
                ⟨raw.length - 1, (Nat.sub_add_cancel hpos).symm⟩
              have hdrop : (c :: cs).drop raw.length = rest := by rw [hraw, List.drop_left]
              rw [← hdrop, hn, Nat.add_sub_cancel, List.drop_succ_cons]
            simp only [splitBody, piecesFrom, hm]
            rw [Piece.ofMark, closing?, if_pos ⟨rfl, by simp [Piece.change]⟩, Option.map_some]
            rw [Mark.length, text_piecesFrom, hrest]
            rfl
          | succ depth =>
            have hdepth : ((depth + 1 : Nat) : Int) + 1 + -1 = (depth : Int) + 1 := by omega
            simp only [splitBody, piecesFrom, hm, ih]
            rw [Piece.ofMark, closing?, if_neg (by simp [Piece.change]; omega), Piece.change, hdepth]
            exact map_text_ofMark (m := .ending length rest) hpos _

/-- Pieces are cut at an end tag that leaves no tag open and has none before it that does. -/
theorem closing?_eq_some_iff {n : Int} {ps before after : List Piece} :
    closing? n ps = some (before, after) ↔
      ∃ p, ps = before ++ p :: after ∧ p.isEnding ∧ Piece.openAfter n (before ++ [p]) = 0 ∧
        Piece.Unclosed n before := by
  induction ps generalizing n before with
  | nil => simp [closing?]
  | cons p ps ih =>
    rw [closing?]
    split_ifs with h
    · constructor
      · intro heq
        obtain ⟨rfl, rfl⟩ := Prod.mk.inj (Option.some.inj heq)
        exact ⟨p, rfl, h.1, by simpa [Piece.openAfter] using h.2, fun u q v hu => by simp at hu⟩
      · rintro ⟨q, hps, hq, hopen, hfirst⟩
        cases before with
        | nil => obtain ⟨-, rfl⟩ := List.cons.inj hps; rfl
        | cons r before =>
          obtain ⟨rfl, -⟩ := List.cons.inj hps
          exact absurd (by simpa [Piece.openAfter] using h.2) (hfirst [] p before rfl h.1)
    · simp only [Option.map_eq_some_iff, Prod.exists, Prod.mk.injEq]
      constructor
      · rintro ⟨before, after, hcut, rfl, rfl⟩
        obtain ⟨q, rfl, hq, hopen, hfirst⟩ := ih.1 hcut
        refine ⟨q, rfl, hq, by rwa [List.cons_append, Piece.openAfter_cons], fun u r v hu hr => ?_⟩
        cases u with
        | nil =>
          obtain ⟨rfl, -⟩ := List.cons.inj hu
          intro hzero
          exact h ⟨hr, by simpa [Piece.openAfter] using hzero⟩
        | cons t u =>
          obtain ⟨rfl, rfl⟩ := List.cons.inj hu
          rw [List.cons_append, Piece.openAfter_cons]
          exact hfirst u r v rfl hr
      · rintro ⟨q, hps, hq, hopen, hfirst⟩
        cases before with
        | nil =>
          obtain ⟨rfl, rfl⟩ := List.cons.inj hps
          exact absurd ⟨hq, by simpa [Piece.openAfter] using hopen⟩ h
        | cons r before =>
          obtain ⟨rfl, rfl⟩ := List.cons.inj hps
          rw [List.cons_append, Piece.openAfter_cons] at hopen
          refine ⟨before, after, ih.2 ⟨q, rfl, hq, hopen, fun u t v hu ht => ?_⟩, rfl, rfl⟩
          rw [← Piece.openAfter_cons, ← List.cons_append]
          exact hfirst (p :: u) t v (by rw [hu]; rfl) ht

/-- Pieces that cannot be cut have no end tag that leaves no tag open. -/
theorem closing?_eq_none_iff {n : Int} {ps : List Piece} :
    closing? n ps = none ↔ Piece.Unclosed n ps := by
  induction ps generalizing n with
  | nil => simp [closing?, Piece.Unclosed]
  | cons p ps ih =>
    rw [closing?]
    split_ifs with h
    · simp only [false_iff]
      intro hnone
      exact hnone [] p ps rfl h.1 (by simpa [Piece.openAfter] using h.2)
    · rw [Option.map_eq_none_iff, ih]
      constructor
      · intro hps u q v hu hq
        cases u with
        | nil =>
          obtain ⟨rfl, -⟩ := List.cons.inj hu
          intro hzero
          exact h ⟨hq, by simpa [Piece.openAfter] using hzero⟩
        | cons t u =>
          obtain ⟨rfl, rfl⟩ := List.cons.inj hu
          rw [List.cons_append, Piece.openAfter_cons]
          exact hps u q v rfl hq
      · intro hps u q v hu hq
        rw [← Piece.openAfter_cons, ← List.cons_append]
        exact hps (p :: u) q v (by rw [hu]; rfl) hq

/-- A body ends at the first end tag after which no tag is open. -/
theorem splitBody_eq_some_iff {start stop s body rest : Text} :
    splitBody start stop 0 0 s = some (body, rest) ↔
      ∃ before p after, pieces start stop s = before ++ p :: after ∧ body = Piece.text before ∧
        rest = Piece.text after ∧ p.isEnding ∧ Piece.openAfter 1 (before ++ [p]) = 0 ∧
          Piece.Unclosed 1 before := by
  rw [splitBody_eq_closing?, Option.map_eq_some_iff]
  simp only [List.take_zero, List.nil_append, Prod.exists, Prod.mk.injEq, Int.natCast_zero,
    Int.zero_add]
  constructor
  · rintro ⟨before, after, hcut, rfl, rfl⟩
    obtain ⟨p, hps, hp, hopen, hfirst⟩ := closing?_eq_some_iff.1 hcut
    exact ⟨before, p, after, hps, rfl, rfl, hp, hopen, hfirst⟩
  · rintro ⟨before, p, after, hps, rfl, rfl, hp, hopen, hfirst⟩
    exact ⟨before, after, closing?_eq_some_iff.2 ⟨p, hps, hp, hopen, hfirst⟩, rfl, rfl⟩

/-- A body without an end has no end tag after which no tag is open. -/
theorem splitBody_eq_none_iff {start stop s : Text} :
    splitBody start stop 0 0 s = none ↔ Piece.Unclosed 1 (pieces start stop s) := by
  rw [splitBody_eq_closing?, Option.map_eq_none_iff]
  exact closing?_eq_none_iff

end Tag

end EdgeInclude
