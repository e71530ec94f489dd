import EdgeInclude.Markup.Fragment
import EdgeInclude.Proofs.Markup.Reading

/-!
# Cutting a document

A document is cut at its outermost tags: leftmost first, and each as a whole.
The cut loses nothing and adds nothing, and no tag that could be read is left in
the texts between the tags.

Results:
* `cut_scan`: scanning takes a character off the document where no tag can be
  read, and a tag where one can.
* `scan_complete`: fragments alternate, say the document, and hold every tag
  that can be read, leftmost first.
-/

namespace EdgeInclude

/-! ## Fragments as they are written -/

namespace Fragment

/-- A fragment as it is written. -/
def raw : Fragment → Text
  | text s => s
  | tag t => t.raw

/-- Fragments as they are written. -/
def written (fs : List Fragment) : Text := fs.flatMap raw

/-- Texts and tags in turn, with a text at either end. -/
inductive Alternating : List Fragment → Prop where
  | text (s : Text) : Alternating [.text s]
  | cons (s : Text) (t : Tag) {fs : List Fragment} (h : Alternating fs) :
      Alternating (.text s :: .tag t :: fs)

theorem written_cons (f : Fragment) (fs : List Fragment) :
    written (f :: fs) = f.raw ++ written fs := rfl

end Fragment

namespace Markup

@[simp] theorem fragments_consChar (c : Char) (m : Markup) :
    (m.consChar c).fragments = .text (c :: m.lead) :: m.fragments.tail := rfl

@[simp] theorem fragments_consTag (t : Tag) (m : Markup) :
    (m.consTag t).fragments = .text [] :: .tag t :: m.fragments := rfl

theorem fragments_eq_cons (m : Markup) : m.fragments = .text m.lead :: m.fragments.tail := rfl

theorem alternating_fragments (m : Markup) : Fragment.Alternating m.fragments := by
  obtain ⟨lead, tags⟩ := m
  induction tags generalizing lead with
  | nil => exact .text lead
  | cons p tags ih => exact .cons lead p.1 (ih p.2)

theorem length_fragments (m : Markup) : m.fragments.length = 2 * m.tags.length + 1 := by
  obtain ⟨lead, tags⟩ := m
  induction tags generalizing lead with
  | nil => rfl
  | cons p tags ih =>
    have hcons : (⟨lead, p :: tags⟩ : Markup).fragments =
        .text lead :: .tag p.1 :: (⟨p.2, tags⟩ : Markup).fragments := rfl
    rw [hcons, List.length_cons, List.length_cons, ih, List.length_cons]
    dsimp only
    omega

/-! ## Scanning, step by step -/

/-- A document cut at its tags, leftmost first: where no tag can be read, a character belongs
    to the text, and where one can, it is taken as a whole. -/
inductive Cut (ns : Text) : Markup → Text → Prop where
  | done : Cut ns ⟨[], []⟩ []
  | character {c : Char} {cs : Text} {m : Markup} (h : Tag.read? ns (c :: cs) = none)
      (rest : Cut ns m cs) : Cut ns (m.consChar c) (c :: cs)
  | tag {s after : Text} {t : Tag} {m : Markup} (h : Tag.read? ns s = some (t, after))
      (rest : Cut ns m after) : Cut ns (m.consTag t) s

theorem cut_scanFrom (ns : Text) (skip : Nat) (s : Text) :
    Cut ns (scanFrom ns skip s) (s.drop skip) := by
  induction s generalizing skip with
  | nil => simpa [scanFrom] using Cut.done
  | cons c cs ih =>
    cases skip with
    | succ skip => exact ih skip
    | zero =>
      rw [scanFrom, List.drop_zero]
      split
      · next t after h =>
        refine .tag h ?_
        -- the tag takes at least the first character
        obtain ⟨hs, hcomplete⟩ := Tag.read?_eq_some_iff.1 h
        have hdrop : cs.drop (cs.length - after.length) = after := by
          obtain ⟨d, ds, hraw⟩ : ∃ d ds, t.raw = d :: ds := by
            cases hr : t.raw with
            | nil => exact absurd hr hcomplete.raw_ne_nil
            | cons d ds => exact ⟨d, ds, rfl⟩
          rw [hraw, List.cons_append] at hs
          obtain ⟨-, rfl⟩ := List.cons.inj hs
          rw [List.length_append, Nat.add_sub_cancel, List.drop_left]
        simpa [hdrop] using ih (cs.length - after.length)
      · next h => exact .character h (by simpa using ih 0)

/-- Scanning cuts a document leftmost first. -/
theorem cut_scan (ns s : Text) : Cut ns (scan ns s) s := cut_scanFrom ns 0 s

namespace Cut

variable {ns s : Text} {m : Markup}

/-- A cut document says what the document says. -/
theorem written_eq (h : Cut ns m s) : Fragment.written m.fragments = s := by
  induction h with
  | done => rfl
  | character _ _ ih =>
    rw [fragments_eq_cons, Fragment.written_cons] at ih
    rw [fragments_consChar, Fragment.written_cons, ← ih]
    rfl
  | tag h _ ih =>
    obtain ⟨rfl, -⟩ := Tag.read?_eq_some_iff.1 h
    rw [fragments_consTag, Fragment.written_cons, Fragment.written_cons, ih]
    rfl

/-- The tags of a cut document are complete. -/
theorem complete (h : Cut ns m s) {before after : List Fragment} {t : Tag}
    (ht : m.fragments = before ++ .tag t :: after) :
    Tag.Complete ns t (Fragment.written after) := by
  induction h generalizing before with
  | done => cases before <;> simp [fragments] at ht
  | @character c cs m _ _ ih =>
    rw [fragments_consChar] at ht
    cases before with
    | nil => simp at ht
    | cons f before =>
      obtain ⟨-, htail⟩ := List.cons.inj ht
      have hm : m.fragments = (.text m.lead :: before) ++ .tag t :: after := by
        rw [fragments_eq_cons, htail]
        rfl
      exact ih hm
  | @tag s rest t' m h hrest ih =>
    rw [fragments_consTag] at ht
    match before with
    | [] => simp at ht
    | [f] =>
      obtain ⟨-, ht⟩ := List.cons.inj ht
      obtain ⟨htag, rfl⟩ := List.cons.inj ht
      rw [Fragment.tag.injEq] at htag
      rw [← htag, hrest.written_eq]
      exact (Tag.read?_eq_some_iff.1 h).2
    | f :: g :: before =>
      obtain ⟨-, ht⟩ := List.cons.inj ht
      obtain ⟨-, ht⟩ := List.cons.inj ht
      exact ih ht

/-- No tag can be read inside the texts of a cut document. -/
theorem read?_eq_none (h : Cut ns m s) {before after : List Fragment} {u v : Text}
    (ht : m.fragments = before ++ .text (u ++ v) :: after) (hv : v ≠ []) :
    Tag.read? ns (v ++ Fragment.written after) = none := by
  induction h generalizing before u with
  | done =>
    cases before with
    | nil =>
      simp only [fragments, List.flatMap_nil, List.nil_append, List.cons.injEq,
        Fragment.text.injEq] at ht
      exact absurd (List.append_eq_nil_iff.1 ht.1.symm).2 hv
    | cons f before => simp [fragments] at ht
  | @character c cs m h hrest ih =>
    rw [fragments_consChar] at ht
    cases before with
    | nil =>
      obtain ⟨htext, rfl⟩ := List.cons.inj ht
      rw [Fragment.text.injEq] at htext
      cases u with
      | nil =>
        have hcs := hrest.written_eq
        rw [fragments_eq_cons, Fragment.written_cons] at hcs
        rw [← List.nil_append v, ← htext, List.cons_append]
        exact hcs ▸ h
      | cons d u =>
        obtain ⟨-, hlead⟩ := List.cons.inj htext
        have hm : m.fragments = [] ++ .text (u ++ v) :: m.fragments.tail := by
          rw [fragments_eq_cons, hlead]
          rfl
        exact ih hm
    | cons f before =>
      obtain ⟨-, htail⟩ := List.cons.inj ht
      have hm : m.fragments = (.text m.lead :: before) ++ .text (u ++ v) :: after := by
        rw [fragments_eq_cons, htail]
        rfl
      exact ih hm
  | @tag s rest t' m _ _ ih =>
    rw [fragments_consTag] at ht
    match before with
    | [] =>
      obtain ⟨htext, -⟩ := List.cons.inj ht
      rw [Fragment.text.injEq] at htext
      exact absurd (List.append_eq_nil_iff.1 htext.symm).2 hv
    | [f] => simp at ht
    | f :: g :: before =>
      obtain ⟨-, ht⟩ := List.cons.inj ht
      obtain ⟨-, ht⟩ := List.cons.inj ht
      exact ih ht

end Cut

/-! ## The cut of a document -/

/-- Scanning yields texts and tags in turn which together say the document. Every tag is
    complete where it stands, and inside the texts there is no opener of a complete tag. -/
theorem scan_complete (ns s : Text) :
    let fs := (scan ns s).fragments
    Fragment.Alternating fs ∧ fs.length = 2 * (scan ns s).tags.length + 1 ∧
      Fragment.written fs = s ∧
      (∀ before t after, fs = before ++ .tag t :: after →
        Tag.Complete ns t (Fragment.written after)) ∧
      ∀ before u v after, fs = before ++ .text (u ++ v) :: after → v ≠ [] →
        ∀ lead named, v ++ Fragment.written after = lead ++ named →
          Text.SameText (Tag.opener ns) lead → Tag.Incomplete ns named := by
  have hcut := cut_scan ns s
  refine ⟨alternating_fragments _, length_fragments _, hcut.written_eq, ?_, ?_⟩
  · intro before t after ht
    exact hcut.complete ht
  · intro before u v after ht hv lead named hnamed hlead
    exact Tag.read?_eq_none_iff.1 (hcut.read?_eq_none ht hv) lead named hnamed hlead

/-- A tag inside of another one of its name, and an end tag in capitals. -/
example : (scan "esi".toList "a<ESI:vars>x<esi:vars/></esi:VARS >b".toList).fragments =
    [.text ['a'],
      .tag ⟨"<ESI:vars>x<esi:vars/></esi:VARS >".toList, "vars".toList, [],
        some "x<esi:vars/>".toList⟩,
      .text ['b']] := by
  decide

end Markup

end EdgeInclude
