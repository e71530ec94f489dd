import EdgeInclude.Proofs.Markup.Scanning
import EdgeInclude.Proofs.Text.Utf8

/-!
# Letter case

Scanning looks at the letters of a document only to compare them with the letters of a namespace
or a name, and then without regard to their case. So writing a document and a namespace in small
letters and scanning can be done in either order. What is found in two documents that differ in
letter case only is found at the same places.

Results:
* `byteCount_caseless`: a text in small letters has as many bytes.
* `splitStart_caseless`, `mark?_caseless`, `splitBody_caseless`, `read?_caseless`: no step of
  reading a tag depends on letter case.
* `scan_caseless`: scanning does not either.
* `scan_sameText`: what is found in documents that differ in letter case only.
-/

namespace EdgeInclude

namespace Text

/-! ## Small letters -/

/-- A text with its ASCII letters in lower case. -/
def caseless (s : Text) : Text := s.map Char.toLower

variable {c d : Char} {lead s t : Text}

@[simp] theorem caseless_nil : caseless [] = [] := rfl

@[simp] theorem caseless_cons (c : Char) (s : Text) :
    caseless (c :: s) = c.toLower :: caseless s := rfl

@[simp] theorem caseless_append (s t : Text) : caseless (s ++ t) = caseless s ++ caseless t :=
  List.map_append

@[simp] theorem isEmpty_caseless (s : Text) : (caseless s).isEmpty = s.isEmpty :=
  List.isEmpty_map

@[simp] theorem length_caseless (s : Text) : (caseless s).length = s.length := List.length_map _

/-- Only letters change in lower case, and only into letters. -/
theorem toLower_cases (c : Char) :
    c.toLower = c ∨ c.toNat < 0x80 ∧ c.isAlpha = true ∧ c.toLower.isAlpha = true := by
  by_cases h : 65 ≤ c.toNat ∧ c.toNat ≤ 90
  · right
    rw [isAlpha_iff, isAlpha_iff, toNat_toLower, if_pos h]
    omega
  · left
    apply Char.toNat_inj.1
    rw [toNat_toLower, if_neg h]

theorem toLower_toLower (c : Char) : c.toLower.toLower = c.toLower := by
  apply Char.toNat_inj.1
  rw [toNat_toLower c.toLower, if_neg]
  rw [toNat_toLower]
  split <;> omega

/-- A class of characters that holds all letters or none does not depend on letter case. -/
theorem toLower_congr {p : Char → Bool} {b : Bool} (h : ∀ c, c.isAlpha = true → p c = b)
    (c : Char) : p c.toLower = p c := by
  obtain heq | ⟨-, hc, hlower⟩ := toLower_cases c
  · rw [heq]
  · rw [h _ hc, h _ hlower]

theorem isAlpha_toLower (c : Char) : c.toLower.isAlpha = c.isAlpha :=
  toLower_congr (fun _ hc => hc) c

theorem isNameChar_toLower (c : Char) : isNameChar c.toLower = isNameChar c := by
  refine toLower_congr (b := true) (fun d hd => ?_) c
  rw [isNameChar, Char.isAlphanum, hd]
  rfl

theorem isMarkupSpace_toLower (c : Char) : isMarkupSpace c.toLower = isMarkupSpace c := by
  refine toLower_congr (b := false) (fun d hd => ?_) c
  rw [← Bool.not_eq_true]
  intro hspace
  have hblank := isBlank_of_isMarkupSpace hspace
  rw [isBlank_eq_false_of_isAlpha hd] at hblank
  cases hblank

/-- Letter case does not turn a letter into anything else. -/
theorem toLower_eq_iff (hd : d.isAlpha = false) : c.toLower = d ↔ c = d := by
  constructor
  · rintro rfl
    rw [isAlpha_toLower] at hd
    obtain heq | ⟨-, hc, -⟩ := toLower_cases c
    · exact heq.symm
    · rw [hd] at hc
      cases hc
  · rintro rfl
    obtain heq | ⟨-, hc, -⟩ := toLower_cases c
    · exact heq
    · rw [hd] at hc
      cases hc

theorem takeWhile_caseless {p : Char → Bool} (h : ∀ c, p c.toLower = p c) (s : Text) :
    (caseless s).takeWhile p = caseless (s.takeWhile p) := by
  have hp : p ∘ Char.toLower = p := funext h
  rw [caseless, List.takeWhile_map, hp, caseless]

theorem dropWhile_caseless {p : Char → Bool} (h : ∀ c, p c.toLower = p c) (s : Text) :
    (caseless s).dropWhile p = caseless (s.dropWhile p) := by
  have hp : p ∘ Char.toLower = p := funext h
  rw [caseless, List.dropWhile_map, hp, caseless]

theorem sameText_iff_caseless : SameText s t ↔ caseless s = caseless t := by
  rw [SameText, caseless, caseless, ← List.forall₂_eq_eq_eq, List.forall₂_map_left_iff,
    List.forall₂_map_right_iff]
  simp [sameLetter]

theorem afterAnyCase?_caseless (lead s : Text) :
    afterAnyCase? (caseless lead) (caseless s) = (afterAnyCase? lead s).map caseless := by
  induction lead generalizing s with
  | nil => rfl
  | cons p ps ih =>
    cases s with
    | nil => rfl
    | cons c cs =>
      have hsame : sameLetter p.toLower c.toLower = sameLetter p c := by
        rw [sameLetter, toLower_toLower, toLower_toLower, sameLetter]
      rw [caseless_cons, caseless_cons, afterAnyCase?, afterPrefix?, hsame, afterAnyCase?,
        afterPrefix?]
      split
      · exact ih cs
      · rfl

/-- A text in lower case has as many bytes. -/
theorem byteCount_caseless (s : Text) : (caseless s).byteCount = s.byteCount := by
  have hchar : ∀ c : Char,
      (String.utf8EncodeChar c.toLower).length = (String.utf8EncodeChar c).length := by
    intro c
    obtain heq | ⟨hascii, hc, -⟩ := toLower_cases c
    · rw [heq]
    · have hlower : c.toLower.toNat ≤ 0x7F := by
        rw [isAlpha_iff] at hc
        rw [toNat_toLower]
        split <;> omega
      rw [Utf8.utf8EncodeChar_eq, Utf8.utf8EncodeChar_eq, if_pos hlower, if_pos (by omega)]
      rfl
  unfold byteCount
  induction s with
  | nil => rfl
  | cons c s ih =>
    rw [caseless_cons, utf8_cons, utf8_cons, List.length_append, List.length_append, hchar, ih]

/-- Texts that are the same up to the case of ASCII letters, and so of the same length in
    characters and in bytes. -/
structure Alike (s t : Text) : Prop where
  same : SameText s t
  length_eq : s.length = t.length
  byteCount_eq : s.byteCount = t.byteCount

theorem alike_of_caseless (h : caseless s = caseless t) : Alike s t where
  same := sameText_iff_caseless.2 h
  length_eq := (sameText_iff_caseless.2 h).length_eq
  byteCount_eq := by rw [← byteCount_caseless s, h, byteCount_caseless]

end Text

open Text

/-! ## Reading tags -/

namespace Tag

variable {ns name start stop s : Text}

theorem opener_caseless (ns : Text) : opener (caseless ns) = caseless (opener ns) := by
  simp [opener]

theorem endOpener_caseless (ns : Text) : endOpener (caseless ns) = caseless (endOpener ns) := by
  simp [endOpener]

theorem continuesName_caseless (s : Text) : continuesName (caseless s) = continuesName s := by
  cases s with
  | nil => rfl
  | cons c cs => exact isNameChar_toLower c

theorem closesItself_caseless (s : Text) : closesItself (caseless s) = closesItself s := by
  rw [closesItself, closesItself, caseless, List.getLast?_map]
  cases s.getLast? with
  | none => rfl
  | some c => simp [toLower_eq_iff]

/-- Whether the quote of the value that is open, if one is, is no letter. -/
def PlainQuote (quote : Option Char) : Prop := ∀ q ∈ quote, q.isAlpha = false

theorem plainQuote_none : PlainQuote none := fun _ h => by cases h

theorem ne_of_isAlpha {c d : Char} (hc : c.isAlpha = true) (hd : d.isAlpha = false) : c ≠ d := by
  rintro rfl
  rw [hc] at hd
  cases hd

theorem plainQuote_quoteStep {quote : Option Char} (h : PlainQuote quote) (afterEquals : Bool)
    (c : Char) : PlainQuote (quoteStep (quote, afterEquals) c).1 := by
  intro q hq
  cases quote with
  | some opened =>
    simp only [quoteStep, Option.mem_def, Option.ite_none_left_eq_some, Option.some.injEq] at hq
    exact h q (congrArg some hq.2)
  | none =>
    simp only [quoteStep, Bool.and_eq_true, Bool.or_eq_true, beq_iff_eq, Option.mem_def,
      Option.ite_none_right_eq_some, Option.some.injEq] at hq
    obtain ⟨⟨-, rfl | rfl⟩, rfl⟩ := hq <;> rfl

/-- A letter neither begins a quoted value nor ends one. -/
theorem quoteStep_of_isAlpha {quote : Option Char} (h : PlainQuote quote) (afterEquals : Bool)
    {c : Char} (hc : c.isAlpha = true) : quoteStep (quote, afterEquals) c = (quote, false) := by
  have hequals : (c == '=') = false := beq_eq_false_iff_ne.2 (ne_of_isAlpha hc rfl)
  cases quote with
  | some q =>
    rw [quoteStep, hequals, if_neg (ne_of_isAlpha hc (h q rfl))]
  | none =>
    have hdouble : (c == '"') = false := beq_eq_false_iff_ne.2 (ne_of_isAlpha hc rfl)
    have hsingle : (c == '\'') = false := beq_eq_false_iff_ne.2 (ne_of_isAlpha hc rfl)
    rw [quoteStep, hequals, hdouble, hsingle, Bool.or_self, Bool.and_false]
    rfl

theorem quoteStep_toLower {quote : Option Char} (h : PlainQuote quote) (afterEquals : Bool)
    (c : Char) :
    quoteStep (quote, afterEquals) c.toLower = quoteStep (quote, afterEquals) c := by
  obtain heq | ⟨-, hc, hlower⟩ := toLower_cases c
  · rw [heq]
  · rw [quoteStep_of_isAlpha h _ hc, quoteStep_of_isAlpha h _ hlower]

theorem splitStart_caseless {quote : Option Char} (h : PlainQuote quote) (afterEquals : Bool)
    (s : Text) :
    splitStart quote afterEquals (caseless s) =
      (splitStart quote afterEquals s).map (Prod.map caseless caseless) := by
  induction s generalizing quote afterEquals with
  | nil => simp [splitStart]
  | cons c cs ih =>
    have hgt : c.toLower = '>' ↔ c = '>' := toLower_eq_iff rfl
    rw [caseless_cons, splitStart_cons, splitStart_cons, quoteStep_toLower h]
    by_cases hends : quote = none ∧ c = '>'
    · rw [if_pos hends, if_pos ⟨hends.1, hgt.2 hends.2⟩]
      rfl
    · rw [if_neg hends, if_neg fun h => hends ⟨h.1, hgt.1 h.2⟩]
      dsimp only
      rw [ih (plainQuote_quoteStep h afterEquals c), Option.map_map, Option.map_map]
      rfl

/-! ## Reading bodies -/

/-- A mark with what follows it in lower case. -/
def Mark.lowered : Mark → Mark
  | starting length => starting length
  | selfClosing length => selfClosing length
  | ending length rest => ending length (Text.caseless rest)

theorem afterName?_caseless (lead s : Text) :
    afterName? (caseless lead) (caseless s) = (afterName? lead s).map caseless := by
  have hcontinues : (fun rest => !continuesName rest) ∘ caseless = fun rest => !continuesName rest :=
    funext fun rest => congrArg _ (continuesName_caseless rest)
  rw [afterName?, afterAnyCase?_caseless, Option.filter_map, hcontinues, afterName?]

theorem endMark?_caseless (length : Nat) (s : Text) :
    endMark? length (caseless s) = (endMark? length s).map Mark.lowered := by
  rw [endMark?, endMark?, dropWhile_caseless isMarkupSpace_toLower,
    takeWhile_caseless isMarkupSpace_toLower, length_caseless]
  cases s.dropWhile Text.isMarkupSpace with
  | nil => rfl
  | cons c cs =>
    by_cases hgt : c = '>'
    · subst hgt
      rfl
    · have hlower : c.toLower ≠ '>' := fun h => hgt ((toLower_eq_iff rfl).1 h)
      simp [hgt, hlower]

theorem startMark?_caseless (length : Nat) (s : Text) :
    startMark? length (caseless s) = (startMark? length s).map Mark.lowered := by
  rw [startMark?, startMark?, splitStart_caseless plainQuote_none]
  cases splitStart none false s with
  | none => rfl
  | some cut =>
    obtain ⟨inner, rest⟩ := cut
    simp only [Option.map_some, Prod.map_apply, closesItself_caseless, length_caseless]
    split <;> rfl

theorem mark?_caseless (start stop s : Text) :
    mark? (caseless start) (caseless stop) (caseless s) =
      (mark? start stop s).map Mark.lowered := by
  rw [mark?, mark?, afterName?_caseless, afterName?_caseless, length_caseless, length_caseless]
  cases afterName? stop s with
  | some rest => exact endMark?_caseless _ rest
  | none =>
    cases afterName? start s with
    | some rest => exact startMark?_caseless _ rest
    | none => rfl

theorem splitBody_caseless (start stop : Text) (depth skip : Nat) (s : Text) :
    splitBody (caseless start) (caseless stop) depth skip (caseless s) =
      (splitBody start stop depth skip s).map (Prod.map caseless caseless) := by
  induction s generalizing depth skip with
  | nil => simp [splitBody]
  | cons c cs ih =>
    -- Whatever stands here, both scans go on at the same depth and skip as many characters.
    have hcons : ∀ depth skip,
        (splitBody (caseless start) (caseless stop) depth skip (caseless cs)).map
            (fun cut => (c.toLower :: cut.1, cut.2)) =
          ((splitBody start stop depth skip cs).map fun cut => (c :: cut.1, cut.2)).map
            (Prod.map caseless caseless) := by
      intro depth skip
      rw [ih, Option.map_map, Option.map_map]
      rfl
    cases skip with
    | succ skip => exact hcons depth skip
    | zero =>
      have hmark := mark?_caseless start stop (c :: cs)
      rw [caseless_cons] at hmark ⊢
      unfold splitBody
      rw [hmark]
      cases mark? start stop (c :: cs) with
      | none => exact hcons depth 0
      | some m =>
        cases m with
        | starting length => exact hcons (depth + 1) (length - 1)
        | selfClosing length => exact hcons depth (length - 1)
        | ending length rest =>
          cases depth with
          | zero => rfl
          | succ depth => exact hcons depth (length - 1)

/-! ## Whole tags -/

/-- A tag in lower case. -/
def lowered (t : Tag) : Tag :=
  ⟨caseless t.raw, caseless t.name, caseless t.attributes, t.body.map caseless⟩

theorem readAfterName?_caseless (ns name s : Text) :
    readAfterName? (caseless ns) (caseless name) (caseless s) =
      (readAfterName? ns name s).map fun (attributes, body, rest) =>
        (caseless attributes, body.map caseless, caseless rest) := by
  rw [readAfterName?, readAfterName?, splitStart_caseless plainQuote_none]
  cases splitStart none false s with
  | none => rfl
  | some cut =>
    obtain ⟨inner, rest⟩ := cut
    simp only [Option.map_some, Prod.map_apply, closesItself_caseless]
    split
    · simp [caseless, List.map_dropLast]
    · rw [opener_caseless, endOpener_caseless, ← caseless_append, ← caseless_append,
        splitBody_caseless, Option.map_map, Option.map_map]
      rfl

/-- Reading a tag does not depend on letter case. -/
theorem read?_caseless (ns s : Text) :
    read? (caseless ns) (caseless s) =
      (read? ns s).map fun (t, rest) => (t.lowered, caseless rest) := by
  rw [read?, read?, opener_caseless, afterAnyCase?_caseless]
  cases afterAnyCase? (opener ns) s with
  | none => rfl
  | some named =>
    simp only [Option.map_some, takeWhile_caseless isAlpha_toLower,
      dropWhile_caseless isAlpha_toLower, continuesName_caseless, isEmpty_caseless]
    split
    · rfl
    · rw [readAfterName?_caseless, Option.map_map, Option.map_map]
      congr 1
      funext found
      obtain ⟨attributes, body, rest⟩ := found
      simp [lowered, caseless, List.map_take]

/-- Tags that are the same up to the case of ASCII letters, in each of their parts. -/
structure Alike (t t' : Tag) : Prop where
  raw : Text.Alike t.raw t'.raw
  name : Text.Alike t.name t'.name
  attributes : Text.Alike t.attributes t'.attributes
  body : Option.Rel Text.Alike t.body t'.body

theorem alike_of_lowered {t t' : Tag} (h : t.lowered = t'.lowered) : Alike t t' where
  raw := alike_of_caseless (congrArg raw h)
  name := alike_of_caseless (congrArg name h)
  attributes := alike_of_caseless (congrArg attributes h)
  body := by
    have hbody : t.body.map caseless = t'.body.map caseless := congrArg body h
    cases hb : t.body with
    | none =>
      cases hb' : t'.body with
      | none => exact .none
      | some b' => simp [hb, hb'] at hbody
    | some b =>
      cases hb' : t'.body with
      | none => simp [hb, hb'] at hbody
      | some b' =>
        rw [hb, hb'] at hbody
        exact .some (alike_of_caseless (Option.some.inj hbody))

end Tag

/-! ## Scanning -/

namespace Fragment

/-- A fragment in lower case. -/
def lowered : Fragment → Fragment
  | text s => text (caseless s)
  | tag t => tag t.lowered

/-- Fragments of the same kind that are the same up to the case of ASCII letters. -/
inductive Alike : Fragment → Fragment → Prop where
  | text {s s' : Text} (h : Text.Alike s s') : Alike (.text s) (.text s')
  | tag {t t' : Tag} (h : Tag.Alike t t') : Alike (.tag t) (.tag t')

/-- The number of bytes before the fragment with the given index. -/
def offset (fs : List Fragment) (index : Nat) : Nat := (written (fs.take index)).byteCount

theorem alike_of_lowered {f f' : Fragment} (h : f.lowered = f'.lowered) : Alike f f' := by
  cases f with
  | text s =>
    cases f' with
    | text s' => exact .text (alike_of_caseless (Fragment.text.inj h))
    | tag t' => cases h
  | tag t =>
    cases f' with
    | text s' => cases h
    | tag t' => exact .tag (Tag.alike_of_lowered (Fragment.tag.inj h))

theorem written_lowered (fs : List Fragment) :
    written (fs.map lowered) = caseless (written fs) := by
  induction fs with
  | nil => rfl
  | cons f fs ih =>
    rw [List.map_cons, written_cons, written_cons, ih, caseless_append]
    cases f <;> rfl

theorem offset_lowered (fs : List Fragment) (index : Nat) :
    offset (fs.map lowered) index = offset fs index := by
  rw [offset, ← List.map_take, written_lowered, byteCount_caseless, offset]

end Fragment

namespace Markup

/-- A cut document in lower case. -/
def lowered (m : Markup) : Markup :=
  ⟨caseless m.lead, m.tags.map fun (t, after) => (t.lowered, caseless after)⟩

theorem fragments_lowered (m : Markup) : m.lowered.fragments = m.fragments.map Fragment.lowered := by
  rw [fragments, lowered, List.flatMap_map, fragments, List.map_cons, List.map_flatMap]
  rfl

theorem scanFrom_caseless (ns : Text) (skip : Nat) (s : Text) :
    scanFrom (caseless ns) skip (caseless s) = (scanFrom ns skip s).lowered := by
  induction s generalizing skip with
  | nil => simp [scanFrom, lowered]
  | cons c cs ih =>
    cases skip with
    | succ skip => exact ih skip
    | zero =>
      have hread := Tag.read?_caseless ns (c :: cs)
      rw [caseless_cons] at hread ⊢
      rw [scanFrom, scanFrom, hread]
      cases Tag.read? ns (c :: cs) with
      | none =>
        dsimp only [Option.map_none]
        rw [ih]
        rfl
      | some found =>
        dsimp only [Option.map_some]
        rw [length_caseless, length_caseless, ih]
        rfl

/-- Scanning does not depend on letter case. -/
theorem scan_caseless (ns s : Text) : scan (caseless ns) (caseless s) = (scan ns s).lowered :=
  scanFrom_caseless ns 0 s

/-- In two documents that are the same up to the case of ASCII letters, and for two namespaces
    that are, scanning finds as many fragments, and each of them is the same up to letter case as
    the one with its index and begins at the same place. So are the name, the attributes and the
    body of a tag, which are of the same lengths, and neither tag has a body or both have. -/
theorem scan_sameText {ns ns' s s' : Text} (hns : SameText ns ns') (hs : SameText s s') :
    let fs := (scan ns s).fragments
    let fs' := (scan ns' s').fragments
    List.Forall₂ Fragment.Alike fs fs' ∧
      ∀ index, Fragment.offset fs index = Fragment.offset fs' index := by
  intro fs fs'
  have hlowered : fs.map Fragment.lowered = fs'.map Fragment.lowered := by
    rw [← fragments_lowered, ← fragments_lowered, ← scan_caseless, ← scan_caseless,
      sameText_iff_caseless.1 hns, sameText_iff_caseless.1 hs]
  constructor
  · rw [← List.forall₂_eq_eq_eq, List.forall₂_map_left_iff, List.forall₂_map_right_iff] at hlowered
    exact hlowered.imp fun _ _ h => Fragment.alike_of_lowered h
  · intro index
    rw [← Fragment.offset_lowered, hlowered, Fragment.offset_lowered]

/-- Start and end tags in different letter case, around a tag of the same name, in a document
    with a character outside of ASCII. -/
theorem scan_sameText_nested :
    let ns := "esi".toList
    let ns' := "Esi".toList
    let s := "é<esi:try a=\"X>\"><esi:TRY/></ESI:try >b".toList
    let s' := "é<ESI:Try A=\"x>\"><Esi:try/></esi:TRY >B".toList
    SameText ns ns' ∧ SameText s s' ∧ (scan ns s).fragments.length = 3 ∧
      List.Forall₂ Fragment.Alike (scan ns s).fragments (scan ns' s').fragments ∧
      ∀ index, Fragment.offset (scan ns s).fragments index =
        Fragment.offset (scan ns' s').fragments index := by
  intro ns ns' s s'
  have hns : SameText ns ns' := sameText_iff_caseless.2 (by decide)
  have hs : SameText s s' := sameText_iff_caseless.2 (by decide)
  exact ⟨hns, hs, by decide, scan_sameText hns hs⟩

end Markup

end EdgeInclude
