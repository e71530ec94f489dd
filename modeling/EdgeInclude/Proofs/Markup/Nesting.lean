import EdgeInclude.Proofs.Markup.Scanning
import EdgeInclude.Proofs.Text.Character
import Mathlib.Data.List.Infix

/-!
# Nested tags

Tags of one name inside of one another. A start tag, a body in which the tags of
its name are well nested, and an end tag are read as one tag with exactly this
body, whatever the letter case of the tags in the body, the values of their
attributes and the depth of their nesting.

Results:
* `ClosedValues.openQuoteFrom_eq`, `ClosedValues.unendedFrom`: a start tag that is
  written with closed values ends at its own `>`.
* `WellNested.pieces`: a well nested body is cut into pieces that close all the
  tags they open, and none that is open before them.
* `scan_wellNested`: a document that begins with such a tag is cut behind it.
-/

namespace EdgeInclude

namespace Text

/-! ## Letter case -/

theorem SameText.refl (s : Text) : SameText s s := by
  induction s with
  | nil => exact .nil
  | cons c cs ih => exact .cons (by simp [sameLetter]) ih

theorem sameText_iff {s t : Text} : SameText s t ↔ afterAnyCase? s t = some [] := by
  rw [afterAnyCase?_eq_some_iff]
  constructor
  · exact fun h => ⟨t, (List.append_nil t).symm, h⟩
  · rintro ⟨head, rfl, h⟩
    rwa [List.append_nil]

instance (s t : Text) : Decidable (SameText s t) := decidable_of_iff' _ sameText_iff

theorem afterAnyCase?_eq_none_iff {lead s : Text} :
    afterAnyCase? lead s = none ↔ ∀ head, SameText lead head → ¬head <+: s := by
  rw [Option.eq_none_iff_forall_ne_some]
  simp only [ne_eq, afterAnyCase?_eq_some_iff]
  constructor
  · rintro h head hsame ⟨rest, rfl⟩
    exact h rest ⟨head, rfl, hsame⟩
  · rintro h rest ⟨head, rfl, hsame⟩
    exact h head hsame (List.prefix_append _ _)

/-- A text that holds a `<` is so in any letter case. -/
theorem SameText.lt_mem {s t : Text} (h : SameText s t) (ht : '<' ∈ t) : '<' ∈ s := by
  induction h with
  | nil => cases ht
  | @cons c d cs ds hcd _ ih =>
    rcases List.mem_cons.1 ht with rfl | ht
    · rw [eq_of_sameLetter (by decide) hcd]
      exact List.mem_cons_self
    · exact List.mem_cons_of_mem _ (ih ht)

end Text

namespace Tag

/-! ## Attributes with closed values -/

/-- A text in which every quote that directly follows an equals sign begins a value that is
    closed by the next quote of its kind, and in which every `>` is part of such a value.
    `afterEquals` says whether the text itself follows an equals sign. -/
inductive ClosedValues : (afterEquals : Bool) → Text → Prop where
  | done (afterEquals : Bool) : ClosedValues afterEquals []
  | character {afterEquals : Bool} {c : Char} {s : Text} (hgt : c ≠ '>')
      (hquote : ¬(afterEquals = true ∧ (c = '"' ∨ c = '\''))) (rest : ClosedValues (c == '=') s) :
      ClosedValues afterEquals (c :: s)
  | value {q : Char} {v s : Text} (hq : q = '"' ∨ q = '\'') (hv : q ∉ v)
      (rest : ClosedValues false s) : ClosedValues true (q :: (v ++ q :: s))

/-- What may stand between the name and the end of a start tag: nothing, or white space and
    attributes with closed values, and no slash at the end. -/
structure IsAttributeText (a : Text) : Prop where
  spaced : a.head?.all Text.isBlank = true
  noSlash : a.getLast? ≠ some '/'
  values : ClosedValues false a

theorem openQuoteFrom_cons (state : Option Char × Bool) (c : Char) (s : Text) :
    openQuoteFrom state (c :: s) = openQuoteFrom (quoteStep state c) s := rfl

/-- The first character is part of a quoted value, or it is no `>`. -/
theorem unendedFrom_cons {state : Option Char × Bool} {c : Char} {s : Text}
    (hc : state.1 = none → c ≠ '>') (hs : UnendedFrom (quoteStep state c) s) :
    UnendedFrom state (c :: s) := by
  intro u v hu
  cases u with
  | nil =>
    obtain ⟨rfl, -⟩ := List.cons.inj hu
    exact fun hclosed => hc hclosed rfl
  | cons d u =>
    obtain ⟨rfl, rfl⟩ := List.cons.inj hu
    exact hs u v rfl

theorem quoteStep_character {afterEquals : Bool} {c : Char}
    (hquote : ¬(afterEquals = true ∧ (c = '"' ∨ c = '\''))) :
    quoteStep (none, afterEquals) c = (none, c == '=') := by
  rw [quoteStep, if_neg]
  simpa using hquote

theorem quoteStep_opening {q : Char} (hq : q = '"' ∨ q = '\'') :
    quoteStep (none, true) q = (some q, false) := by
  rcases hq with rfl | rfl <;> rfl

theorem quoteStep_closing {q : Char} (hq : q = '"' ∨ q = '\'') (afterEquals : Bool) :
    quoteStep (some q, afterEquals) q = (none, false) := by
  rcases hq with rfl | rfl <;> rfl

theorem quoteStep_inside {q c : Char} (hc : c ≠ q) (afterEquals : Bool) :
    quoteStep (some q, afterEquals) c = (some q, c == '=') := by
  rw [quoteStep, if_neg hc]

/-- A quoted value is left at the first quote of its kind. -/
theorem openQuoteFrom_value {q : Char} {v s : Text} (hq : q = '"' ∨ q = '\'') (hv : q ∉ v)
    (afterEquals : Bool) :
    openQuoteFrom (some q, afterEquals) (v ++ q :: s) = openQuoteFrom (none, false) s := by
  induction v generalizing afterEquals with
  | nil => rw [List.nil_append, openQuoteFrom_cons, quoteStep_closing hq]
  | cons c v ih =>
    obtain ⟨hc, hv⟩ := not_or.1 (mt List.mem_cons.2 hv)
    rw [List.cons_append, openQuoteFrom_cons, quoteStep_inside (Ne.symm hc), ih hv]

theorem unendedFrom_value {q : Char} {v s : Text} (hq : q = '"' ∨ q = '\'') (hv : q ∉ v)
    (hs : UnendedFrom (none, false) s) (afterEquals : Bool) :
    UnendedFrom (some q, afterEquals) (v ++ q :: s) := by
  induction v generalizing afterEquals with
  | nil => exact unendedFrom_cons (by simp) (by rwa [quoteStep_closing hq])
  | cons c v ih =>
    obtain ⟨hc, hv⟩ := not_or.1 (mt List.mem_cons.2 hv)
    refine unendedFrom_cons (by simp) ?_
    rw [quoteStep_inside (Ne.symm hc)]
    exact ih hv _

theorem ClosedValues.openQuoteFrom_eq {afterEquals : Bool} {s : Text}
    (h : ClosedValues afterEquals s) : openQuoteFrom (none, afterEquals) s = none := by
  induction h with
  | done => rfl
  | character _ hquote _ ih => rw [openQuoteFrom_cons, quoteStep_character hquote, ih]
  | value hq hv _ ih => rw [openQuoteFrom_cons, quoteStep_opening hq, openQuoteFrom_value hq hv, ih]

theorem ClosedValues.unendedFrom {afterEquals : Bool} {s : Text}
    (h : ClosedValues afterEquals s) : UnendedFrom (none, afterEquals) s := by
  induction h with
  | done => exact fun u v hu => by simp at hu
  | character hgt hquote _ ih =>
    exact unendedFrom_cons (fun _ => hgt) (by rwa [quoteStep_character hquote])
  | value hq hv _ ih =>
    refine unendedFrom_cons (fun _ => by rcases hq with rfl | rfl <;> decide) ?_
    rw [quoteStep_opening hq]
    exact unendedFrom_value hq hv ih false

/-- A slash behind attributes is no part of their values. -/
theorem ClosedValues.append_slash {afterEquals : Bool} {s : Text} (h : ClosedValues afterEquals s) :
    ClosedValues afterEquals (s ++ ['/']) := by
  induction h with
  | done => exact .character (by decide) (by simp) (.done _)
  | character hgt hquote _ ih => exact .character hgt hquote ih
  | @value q v s hq hv _ ih =>
    rw [List.cons_append, List.append_assoc, List.cons_append]
    exact .value hq hv ih

/-- Attributes are set off from the name before them. -/
theorem IsAttributeText.continuesName_eq {a : Text} (h : IsAttributeText a) {c : Char}
    (hc : Text.isNameChar c = false) (rest : Text) : continuesName (a ++ c :: rest) = false := by
  cases a with
  | nil => exact hc
  | cons d a => exact Text.isNameChar_eq_false_of_isBlank (by simpa using h.spaced)

/-! ## Well nested bodies -/

/-- The start tag of a name, with the given text for its attributes. -/
def startTag (ns name a : Text) : Text := opener ns ++ name ++ a ++ ['>']

/-- The end tag of a name. -/
def endTag (ns name : Text) : Text := endOpener ns ++ name ++ ['>']

/-- What a start tag or an end tag of a name begins with, in any letter case. -/
def IsOpener (ns name lead : Text) : Prop :=
  Text.SameText (opener ns ++ name) lead ∨ Text.SameText (endOpener ns ++ name) lead

/-- A text that holds nothing that a tag of the name begins with. -/
def Free (ns name s : Text) : Prop := ∀ lead, IsOpener ns name lead → ¬lead <:+: s

theorem free_iff {ns name s : Text} :
    Free ns name s ↔ ∀ u ∈ s.tails, Text.afterAnyCase? (opener ns ++ name) u = none ∧
      Text.afterAnyCase? (endOpener ns ++ name) u = none := by
  simp only [Text.afterAnyCase?_eq_none_iff, List.mem_tails]
  constructor
  · exact fun h u hu => ⟨fun lead hlead hin => h lead (.inl hlead) (hin.isInfix.trans hu.isInfix),
      fun lead hlead hin => h lead (.inr hlead) (hin.isInfix.trans hu.isInfix)⟩
  · rintro h lead hlead ⟨before, after, rfl⟩
    have hsuffix : lead ++ after <:+ before ++ lead ++ after := ⟨before, by simp⟩
    rcases hlead with hlead | hlead
    · exact (h _ hsuffix).1 lead hlead (List.prefix_append _ _)
    · exact (h _ hsuffix).2 lead hlead (List.prefix_append _ _)

instance (ns name s : Text) : Decidable (Free ns name s) := decidable_of_iff' _ free_iff

/-- A text in which the tags of a name are well nested: texts without such tags, tags that
    close themselves, and pairs of a start and an end tag around well nested texts. -/
inductive WellNested (ns name : Text) : Text → Prop where
  | text {s : Text} (free : Free ns name s) : WellNested ns name s
  | selfClosing {s lead a rest : Text} (free : Free ns name s)
      (opens : Text.SameText (opener ns ++ name) lead) (attributes : IsAttributeText a)
      (after : WellNested ns name rest) :
      WellNested ns name (s ++ (lead ++ a ++ ['/', '>']) ++ rest)
  | pair {s lead a body stop rest : Text} (free : Free ns name s)
      (opens : Text.SameText (opener ns ++ name) lead) (attributes : IsAttributeText a)
      (inside : WellNested ns name body) (ends : IsEnd (endOpener ns ++ name) stop)
      (after : WellNested ns name rest) :
      WellNested ns name (s ++ (lead ++ a ++ ['>']) ++ body ++ stop ++ rest)

theorem IsAttributeText.isStart {start lead a : Text} (h : IsAttributeText a)
    (opens : Text.SameText start lead) : IsStart start a (lead ++ a ++ ['>']) :=
  ⟨lead, rfl, opens, h.continuesName_eq rfl [], h.values.openQuoteFrom_eq, h.values.unendedFrom⟩

theorem IsAttributeText.isStart_selfClosing {start lead a : Text} (h : IsAttributeText a)
    (opens : Text.SameText start lead) : IsStart start (a ++ ['/']) (lead ++ a ++ ['/', '>']) := by
  have hname : continuesName (a ++ ['/'] ++ ['>']) = false := by
    rw [List.append_assoc]
    exact h.continuesName_eq rfl ['>']
  have hvalues := h.values.append_slash
  exact ⟨lead, by simp, opens, hname, hvalues.openQuoteFrom_eq, hvalues.unendedFrom⟩

theorem IsAttributeText.closesItself_eq {a : Text} (h : IsAttributeText a) :
    closesItself a = false := by
  simpa [closesItself] using h.noSlash

/-! ## Texts without tags -/

/-- An opener has a `<` at its start and nowhere else. -/
theorem IsOpener.lt_not_mem_tail {ns name lead : Text} (h : IsOpener ns name lead)
    (hns : '<' ∉ ns) (hname : ∀ c ∈ name, c.isAlpha = true) : '<' ∉ lead.tail := by
  have hname : '<' ∉ name := fun hmem => absurd (hname _ hmem) (by decide)
  intro hmem
  rcases h with h | h <;> cases h with
  | cons _ h => simpa [hns, hname] using Text.SameText.lt_mem h hmem

/-- No opener begins in a text without tags, even if a tag follows the text. -/
theorem Free.not_prefix {ns name s u lead rest : Text} (h : Free ns name s) (hu : u <:+ s)
    (hne : u ≠ []) (hrest : rest.head? = some '<') (hlead : IsOpener ns name lead)
    (hns : '<' ∉ ns) (hname : ∀ c ∈ name, c.isAlpha = true) : ¬lead <+: u ++ rest := by
  intro hprefix
  rcases List.prefix_or_prefix_of_prefix hprefix (List.prefix_append u rest) with hin | hover
  · exact h lead hlead (hin.isInfix.trans hu.isInfix)
  · obtain ⟨w, rfl⟩ := hover
    have hw : w <+: rest := (List.prefix_append_right_inj u).1 hprefix
    cases w with
    | nil => exact h u (by simpa using hlead) hu.isInfix
    | cons c w =>
      -- The opener goes on in what follows, which begins with the `<` of another tag.
      obtain ⟨v, rfl⟩ := hw
      obtain rfl : c = '<' := by simpa using hrest
      refine hlead.lt_not_mem_tail hns hname ?_
      obtain ⟨d, u, rfl⟩ := List.exists_cons_of_ne_nil hne
      simp

/-- A text without tags is cut into its characters. -/
theorem Free.piecesOf {ns name s rest : Text} {ps : List Piece} (h : Free ns name s)
    (hrest : rest.head? = some '<') (hns : '<' ∉ ns) (hname : ∀ c ∈ name, c.isAlpha = true)
    (hps : BodyPieces ns name rest ps) :
    BodyPieces ns name (s ++ rest) (s.map .character ++ ps) := by
  have hsuffix : ∀ u, u <:+ s → BodyPieces ns name (u ++ rest) (u.map .character ++ ps) := by
    intro u
    induction u with
    | nil => exact fun _ => hps
    | cons c u ih =>
      intro hu
      have hnone : ∀ lead, IsOpener ns name lead → ¬lead <+: c :: u ++ rest := fun lead hlead =>
        h.not_prefix hu (by simp) hrest hlead hns hname
      refine .character ?_ ?_ (ih ((List.suffix_cons c u).trans hu))
      · rintro inner raw ⟨lead, rfl, hlead, -⟩ hraw
        exact hnone lead (.inl hlead)
          ((List.append_assoc lead inner _ ▸ List.prefix_append lead _).trans hraw)
      · rintro raw ⟨lead, blanks, rfl, hlead, -⟩ hraw
        exact hnone lead (.inr hlead)
          ((List.append_assoc lead blanks _ ▸ List.prefix_append lead _).trans hraw)
  exact hsuffix s (List.suffix_refl s)

end Tag

/-! ## Balanced pieces -/

namespace Piece

theorem openAfter_append (n : Int) (ps qs : List Piece) :
    openAfter n (ps ++ qs) = openAfter (openAfter n ps) qs := by
  induction ps generalizing n with
  | nil => rfl
  | cons p ps ih => rw [List.cons_append, openAfter_cons, openAfter_cons, ih]

theorem unclosed_cons {n : Int} {p : Piece} {ps : List Piece} :
    Unclosed n (p :: ps) ↔
      ¬(p.isEnding = true ∧ n + p.change = 0) ∧ Unclosed (n + p.change) ps := by
  rw [← Tag.closing?_eq_none_iff, ← Tag.closing?_eq_none_iff, Tag.closing?]
  split_ifs with h <;> simp [h]

theorem Unclosed.append {n : Int} {ps qs : List Piece} (hps : Unclosed n ps)
    (hqs : Unclosed (openAfter n ps) qs) : Unclosed n (ps ++ qs) := by
  induction ps generalizing n with
  | nil => exact hqs
  | cons p ps ih =>
    obtain ⟨hp, hps⟩ := unclosed_cons.1 hps
    exact unclosed_cons.2 ⟨hp, ih hps hqs⟩

/-- Pieces that close all the tags that they open, and none that is open before them. -/
structure Balanced (ps : List Piece) : Prop where
  openAfter_eq : ∀ n, openAfter n ps = n
  unclosed : ∀ n, 1 ≤ n → Unclosed n ps

theorem Balanced.append {ps qs : List Piece} (hps : Balanced ps) (hqs : Balanced qs) :
    Balanced (ps ++ qs) where
  openAfter_eq n := by rw [openAfter_append, hps.openAfter_eq, hqs.openAfter_eq]
  unclosed n hn := (hps.unclosed n hn).append (by
    rw [hps.openAfter_eq]
    exact hqs.unclosed n hn)

theorem unclosed_nil (n : Int) : Unclosed n [] := fun u q v hu => by simp at hu

theorem balanced_nil : Balanced [] := ⟨fun _ => rfl, fun n _ => unclosed_nil n⟩

/-- A piece that is no start and no end tag changes nothing. -/
theorem Balanced.cons {p : Piece} {ps : List Piece} (hchange : p.change = 0)
    (hps : Balanced ps) : Balanced (p :: ps) where
  openAfter_eq n := by rw [openAfter_cons, hchange, Int.add_zero, hps.openAfter_eq]
  unclosed n hn := by
    rw [unclosed_cons, hchange, Int.add_zero]
    exact ⟨fun h => by omega, hps.unclosed n hn⟩

theorem balanced_characters (s : Text) : Balanced (s.map .character) := by
  induction s with
  | nil => exact balanced_nil
  | cons c s ih => exact ih.cons rfl

/-- A start tag and its end tag around balanced pieces. -/
theorem Balanced.pair {ps : List Piece} (hps : Balanced ps) (start stop : Text) :
    Balanced (.starting start :: (ps ++ [.ending stop])) where
  openAfter_eq n := by
    rw [openAfter_cons, openAfter_append, hps.openAfter_eq]
    exact Int.add_neg_cancel_right n 1
  unclosed n hn := by
    have hinside : Unclosed (n + 1) ps := hps.unclosed _ (by omega)
    refine unclosed_cons.2 ⟨by simp [isEnding], hinside.append ?_⟩
    rw [hps.openAfter_eq, unclosed_cons]
    exact ⟨fun h => by simp [change] at h; omega, unclosed_nil _⟩

theorem text_characters (s : Text) : text (s.map .character) = s := by
  induction s with
  | nil => rfl
  | cons c s ih => exact congrArg (c :: ·) ih

end Piece

namespace Tag

/-! ## Pieces of well nested bodies -/

theorem IsOpener.head?_eq {ns name lead : Text} (h : IsOpener ns name lead) (rest : Text) :
    (lead ++ rest).head? = some '<' := by
  rcases h with h | h
  · obtain ⟨lead, rfl, -⟩ := Text.SameText.exists_cons (by decide) h
    rfl
  · obtain ⟨lead, rfl, -⟩ := Text.SameText.exists_cons (by decide) h
    rfl

/-- A well nested text is cut into balanced pieces, whatever tag follows it. -/
theorem WellNested.pieces {ns name s : Text} (h : WellNested ns name s) (hns : '<' ∉ ns)
    (hname : ∀ c ∈ name, c.isAlpha = true) :
    ∃ ps, Piece.text ps = s ∧ Piece.Balanced ps ∧
      ∀ rest qs, rest.head? = some '<' → BodyPieces ns name rest qs →
        BodyPieces ns name (s ++ rest) (ps ++ qs) := by
  induction h with
  | @text s free =>
    exact ⟨s.map .character, Piece.text_characters s, Piece.balanced_characters s,
      fun rest qs hrest hqs => free.piecesOf hrest hns hname hqs⟩
  | @selfClosing s lead a after free opens attributes _ ih =>
    obtain ⟨ps, rfl, hbalanced, hpieces⟩ := ih
    refine ⟨s.map .character ++ .selfClosing (lead ++ a ++ ['/', '>']) :: ps, ?_, ?_, ?_⟩
    · rw [Piece.text_append, Piece.text_characters, Piece.text_cons, ← List.append_assoc]
      rfl
    · exact (Piece.balanced_characters s).append (hbalanced.cons rfl)
    · intro rest qs hrest hqs
      have htag := PiecesOf.selfClosing (attributes.isStart_selfClosing opens)
        (closesItself_append_slash a) (hpieces rest qs hrest hqs)
      have hlt := IsOpener.head?_eq (.inl opens) (a ++ ['/', '>'] ++ (Piece.text ps ++ rest))
      simp only [List.append_assoc] at htag hlt ⊢
      exact free.piecesOf hlt hns hname htag
  | @pair s lead a body stop after free opens attributes _ ends _ ihbody ihafter =>
    obtain ⟨inner, rfl, hinner, hinside⟩ := ihbody
    obtain ⟨ps, rfl, hbalanced, hpieces⟩ := ihafter
    refine ⟨s.map .character ++ (.starting (lead ++ a ++ ['>']) :: (inner ++ [.ending stop])) ++ ps,
      ?_, ?_, ?_⟩
    · simp only [Piece.text_append, Piece.text_characters, Piece.text_cons, List.append_assoc]
      simp [Piece.raw, Piece.text]
    · exact ((Piece.balanced_characters s).append (hinner.pair _ _)).append hbalanced
    · intro rest qs hrest hqs
      have hstop : (stop ++ (Piece.text ps ++ rest)).head? = some '<' := by
        obtain ⟨lead, blanks, rfl, hlead, -⟩ := ends
        rw [List.append_assoc, List.append_assoc]
        exact IsOpener.head?_eq (.inr hlead) _
      have hend := hinside _ _ hstop (.ending ends (hpieces rest qs hrest hqs))
      have htag := PiecesOf.starting (attributes.isStart opens) attributes.closesItself_eq hend
      have hlt := IsOpener.head?_eq (.inl opens)
        (a ++ ['>'] ++ (Piece.text inner ++ (stop ++ (Piece.text ps ++ rest))))
      simp only [List.append_assoc, List.cons_append, List.nil_append] at htag hlt ⊢
      exact free.piecesOf hlt hns hname htag

/-- A tag around a well nested body is complete before any text. -/
theorem WellNested.complete {ns name a body : Text} (hbody : WellNested ns name body)
    (hns : '<' ∉ ns) (hname : name ≠ []) (hletters : ∀ c ∈ name, c.isAlpha = true)
    (ha : IsAttributeText a) (rest : Text) :
    Complete ns ⟨startTag ns name a ++ body ++ endTag ns name, name, a, some body⟩ rest := by
  obtain ⟨ps, rfl, hbalanced, hpieces⟩ := hbody.pieces hns hletters
  have hstart : IsStartTag ns (opener ns) name a :=
    ⟨Text.SameText.refl _, ⟨hname, hletters, ha.continuesName_eq rfl []⟩,
      ha.values.openQuoteFrom_eq, ha.values.unendedFrom⟩
  have hend : IsEnd (endOpener ns ++ name) (endTag ns name) :=
    ⟨endOpener ns ++ name, [], by simp [endTag], Text.SameText.refl _, by simp⟩
  have hcut := hpieces (endTag ns name ++ rest) _ rfl (.ending hend (bodyPieces_iff.2 rfl))
  have hopen : Piece.openAfter 1 (ps ++ [.ending (endTag ns name)]) = 0 := by
    rw [Piece.openAfter_append, hbalanced.openAfter_eq]
    rfl
  have hcomplete := Complete.withBody hstart ha.closesItself_eq hend
    (by rwa [List.append_assoc]) hopen (hbalanced.unclosed 1 (Int.le_refl 1))
  have hraw : startTag ns name a ++ Piece.text ps ++ endTag ns name =
      opener ns ++ name ++ a ++ '>' :: (Piece.text ps ++ endTag ns name) := by
    simp [startTag]
  rw [hraw]
  exact hcomplete

end Tag

namespace Markup

/-! ## Cutting behind a tag -/

theorem scanFrom_length_append (ns u v : Text) : scanFrom ns u.length (u ++ v) = scan ns v := by
  induction u with
  | nil => rfl
  | cons c u ih => exact ih

/-- A document that begins with a complete tag is cut behind it. -/
theorem scan_of_complete {ns rest : Text} {t : Tag} (h : Tag.Complete ns t rest) :
    scan ns (t.raw ++ rest) = (scan ns rest).consTag t := by
  have hread := h.read?_eq
  obtain ⟨c, raw, hraw⟩ := List.exists_cons_of_ne_nil h.raw_ne_nil
  rw [hraw, List.cons_append] at hread ⊢
  rw [scan, scanFrom, hread]
  dsimp only
  rw [List.length_append, Nat.add_sub_cancel, scanFrom_length_append]

/-- A start tag, a body in which the tags of its name are well nested, and the end tag are one
    tag with this body, and what follows is cut as if it stood alone. -/
theorem scan_wellNested {ns name a body : Text} (hns : '<' ∉ ns) (hname : name ≠ [])
    (hletters : ∀ c ∈ name, c.isAlpha = true) (ha : Tag.IsAttributeText a)
    (hbody : Tag.WellNested ns name body) (tail : Text) :
    let written := Tag.startTag ns name a ++ body ++ Tag.endTag ns name
    (scan ns (written ++ tail)).fragments =
      .text [] :: .tag ⟨written, name, a, some body⟩ :: (scan ns tail).fragments := by
  intro written
  have h := scan_of_complete (hbody.complete hns hname hletters ha tail)
  rw [h, fragments_consTag]

/-- A pair of tags and a tag that closes itself, in other letter cases and with a `>` in a
    value, inside of a tag of the same name. -/
theorem scan_wellNested_pair :
    let a := " x=\"a>b\"".toList
    let body := "<ESI:Try y='>'>1<esi:TRY /></esi:tRy >2".toList
    let written := Tag.startTag "esi".toList "try".toList a ++ body ++
      Tag.endTag "esi".toList "try".toList
    (scan "esi".toList (written ++ "</esi:try>".toList)).fragments =
      [.text [], .tag ⟨written, "try".toList, a, some body⟩, .text "</esi:try>".toList] := by
  have ha : Tag.IsAttributeText " x=\"a>b\"".toList := by
    refine ⟨by decide, by decide, ?_⟩
    refine .character (by decide) (by decide) (.character (by decide) (by decide)
      (.character (by decide) (by decide) ?_))
    exact .value (v := ['a', '>', 'b']) (.inl rfl) (by decide) (.done _)
  have hb : Tag.IsAttributeText " y='>'".toList := by
    refine ⟨by decide, by decide, ?_⟩
    refine .character (by decide) (by decide) (.character (by decide) (by decide)
      (.character (by decide) (by decide) ?_))
    exact .value (v := ['>']) (.inr rfl) (by decide) (.done _)
  have hc : Tag.IsAttributeText " ".toList :=
    ⟨by decide, by decide, .character (by decide) (by decide) (.done _)⟩
  have houter : Text.SameText (Tag.opener "esi".toList ++ "try".toList) "<ESI:Try".toList := by
    decide
  have hinner : Text.SameText (Tag.opener "esi".toList ++ "try".toList) "<esi:TRY".toList := by
    decide
  have hend : Tag.IsEnd (Tag.endOpener "esi".toList ++ "try".toList) "</esi:tRy >".toList :=
    ⟨"</esi:tRy".toList, [' '], rfl, by decide, List.forall_mem_singleton.2 rfl⟩
  have hinside : Tag.WellNested "esi".toList "try".toList "1<esi:TRY />".toList :=
    .selfClosing (s := ['1']) (by decide) hinner hc (.text (s := []) (by decide))
  have hbody : Tag.WellNested "esi".toList "try".toList
      "<ESI:Try y='>'>1<esi:TRY /></esi:tRy >2".toList :=
    .pair (s := []) (by decide) houter hb hinside hend (.text (s := ['2']) (by decide))
  have hletters : ∀ c ∈ "try".toList, c.isAlpha = true := List.all_eq_true.1 (by decide)
  exact scan_wellNested (by decide) (by decide) hletters ha hbody "</esi:try>".toList

end Markup

end EdgeInclude
