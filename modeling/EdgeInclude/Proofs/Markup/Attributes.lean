import EdgeInclude.Markup.Attribute
import EdgeInclude.Proofs.Text.Character
import EdgeInclude.Proofs.Text.Parts
import Mathlib.Data.List.Chain

/-!
# Attributes as they are written

Reading attributes undoes writing them: each is read with the key and the value that it is written
with, whatever stands behind it. A key that is written several times has the value that is written
last.

Reading goes on behind the last character that has been looked at. That is the quote that closes
a quoted value, the last character of a bare value, or the white space behind a key without a
value. None of it begins a key, so attributes can be taken one by one.

Results:
* `readFrom_attribute`: an attribute is read as it is written.
* `entries_of_written`: so are all attributes of a tag.
* `find?_eq_some_iff`: the last occurrence of a key counts.
* `find?_of_written`: what is found for a key.
-/

namespace EdgeInclude

/-! ## How attributes are written -/

/-- What an attribute is written with behind its key. -/
inductive AttributeForm where
  | alone
  | bare (value : Text)
  | quoted (quote : Char) (value : Text)

namespace AttributeForm

/-- What stands behind the key. -/
def text : AttributeForm → Text
  | alone => []
  | bare value => '=' :: value
  | quoted quote value => '=' :: quote :: (value ++ [quote])

/-- The value, if there is one. -/
def value : AttributeForm → Option Text
  | alone => none
  | bare value => some value
  | quoted _ value => some value

/-- Whether a value can be written in a form. -/
def Valid : AttributeForm → Prop
  | alone => True
  | bare value =>
    value ≠ [] ∧ (∀ c ∈ value, !Text.isMarkupSpace c) ∧
      value.head? ≠ some '"' ∧ value.head? ≠ some '\''
  | quoted quote value =>
    (quote = '"' ∨ quote = '\'') ∧
      -- Behind the quote that opens the value, quotes of its kind directly follow backslashes.
      ((quote :: value).IsChain fun c d => d = quote → c = '\\') ∧
      -- The quote that closes the value does not follow a backslash.
      value.getLast? ≠ some '\\'

end AttributeForm

/-- An attribute that can be written. -/
structure WrittenAttribute where
  key : Text
  form : AttributeForm
  named : key.head?.any Text.isNameChar = true
  solid : ∀ c ∈ key, Attributes.isKeyPart c = true
  valid : form.Valid

namespace WrittenAttribute

/-- An attribute as it is written. -/
def text (a : WrittenAttribute) : Text := a.key ++ a.form.text

/-- The key and the value of an attribute. -/
def entry (a : WrittenAttribute) : Text × Option Text := (a.key, a.form.value)

end WrittenAttribute

namespace Attributes

/-- Whether a text is that of some attributes: they stand in it in order, with white space
    between each two, and with nothing but white space around them. -/
inductive Written : List WrittenAttribute → Text → Prop where
  | done {gap : Text} (hgap : ∀ c ∈ gap, Text.isMarkupSpace c = true) : Written [] gap
  | next {gap rest : Text} {a : WrittenAttribute} {as : List WrittenAttribute}
      (hgap : ∀ c ∈ gap, Text.isMarkupSpace c = true)
      (apart : rest.head?.all Text.isMarkupSpace = true)
      (hrest : Written as rest) : Written (a :: as) (gap ++ a.text ++ rest)

/-! ## Reading values -/

variable {quote previous : Char} {value s rest : Text}

/-- A value is read up to the first quote of its kind that does not follow a backslash. -/
theorem splitAtQuote_append
    (hescaped : (previous :: value).IsChain fun c d => d = quote → c = '\\')
    (hclosed : (previous :: value).getLast? ≠ some '\\') (rest : Text) :
    splitAtQuote quote previous (value ++ quote :: rest) = some (value, rest) := by
  induction value generalizing previous with
  | nil =>
    have hprevious : previous ≠ '\\' := by simpa using hclosed
    rw [List.nil_append, splitAtQuote, if_pos ⟨rfl, hprevious⟩]
  | cons c cs ih =>
    obtain ⟨hc, hcs⟩ := List.isChain_cons_cons.1 hescaped
    have hnot : ¬(c = quote ∧ previous ≠ '\\') := fun h => h.2 (hc h.1)
    rw [List.cons_append, splitAtQuote, if_neg hnot, ih hcs (by simpa using hclosed)]
    rfl

/-- So it is for a value whose opening quote has been read. -/
theorem readQuoted_append (hquote : quote ≠ '\\')
    (hescaped : (quote :: value).IsChain fun c d => d = quote → c = '\\')
    (hclosed : value.getLast? ≠ some '\\') (rest : Text) :
    readQuoted quote (value ++ quote :: rest) = some (value, rest) := by
  cases value with
  | nil => rw [List.nil_append, readQuoted, if_pos rfl]
  | cons c cs =>
    obtain ⟨hc, hcs⟩ := List.isChain_cons_cons.1 hescaped
    have hnot : c ≠ quote := fun h => hquote (hc h)
    rw [List.cons_append, readQuoted, if_neg hnot, splitAtQuote_append hcs hclosed]
    rfl

theorem readFrom_eq_drop (skip : Nat) (s : Text) : readFrom skip s = readFrom 0 (s.drop skip) := by
  induction s generalizing skip with
  | nil => rw [List.drop_nil, readFrom, readFrom]
  | cons c cs ih =>
    cases skip with
    | zero => rfl
    | succ skip => exact ih skip

/-- What stands before a key is passed over. -/
theorem readFrom_cons_of_not {c : Char} (hc : Text.isNameChar c = false) (cs : Text) :
    readFrom 0 (c :: cs) = readFrom 0 cs := by
  rw [readFrom, if_neg (by simp [hc])]

theorem isNameChar_eq_false_of_isMarkupSpace {c : Char} (h : Text.isMarkupSpace c = true) :
    Text.isNameChar c = false :=
  Text.isNameChar_eq_false_of_isBlank (Text.isBlank_of_isMarkupSpace h)

theorem readFrom_append_of_space (h : ∀ c ∈ s, Text.isMarkupSpace c = true) (rest : Text) :
    readFrom 0 (s ++ rest) = readFrom 0 rest := by
  induction s with
  | nil => rfl
  | cons c s ih =>
    obtain ⟨hc, hs⟩ := List.forall_mem_cons.1 h
    rw [List.cons_append, readFrom_cons_of_not (isNameChar_eq_false_of_isMarkupSpace hc), ih hs]

theorem isKeyPart_of_isNameChar {c : Char} (h : Text.isNameChar c = true) :
    isKeyPart c = true := by
  have hspace : Text.isMarkupSpace c = false := by
    rw [← Bool.not_eq_true]
    intro hspace
    rw [isNameChar_eq_false_of_isMarkupSpace hspace] at h
    cases h
  have hequals : c ≠ '=' := by
    rintro rfl
    cases h
  simp [isKeyPart, hspace, hequals]

/-! ## Reading attributes -/

/-- A value is read as it is written. Reading goes on where it ends, or behind the white space that
    follows a key without a value. -/
theorem readAfterKey_append {form : AttributeForm} (hvalid : form.Valid)
    (apart : rest.head?.all Text.isMarkupSpace = true) :
    ∃ later, readAfterKey (form.text ++ rest) = (form.value, later) ∧ later <:+ rest ∧
      readFrom 0 later = readFrom 0 rest := by
  cases form with
  | alone =>
    cases rest with
    | nil => exact ⟨[], rfl, List.suffix_refl [], rfl⟩
    | cons c cs =>
      have hc : Text.isMarkupSpace c = true := apart
      have hequals : c ≠ '=' := by
        rintro rfl
        cases hc
      have hread : readAfterKey (c :: cs) = (none, cs) := by
        rw [readAfterKey.eq_2]
        rintro d ds rfl
        exact absurd rfl hequals
      exact ⟨cs, hread, List.suffix_cons c cs,
        (readFrom_cons_of_not (isNameChar_eq_false_of_isMarkupSpace hc) cs).symm⟩
  | bare value =>
    obtain ⟨hne, hsolid, hdouble, hsingle⟩ := hvalid
    obtain ⟨c, cs, rfl⟩ := List.exists_cons_of_ne_nil hne
    have hquote : ¬(c = '"' ∨ c = '\'') := by simpa using And.intro hdouble hsingle
    have hstop : rest.head?.any (!Text.isMarkupSpace ·) = false := by
      cases rest with
      | nil => rfl
      | cons d ds => simpa using apart
    obtain ⟨htake, hdrop⟩ := Text.span_append (p := (!Text.isMarkupSpace ·))
      hsolid hstop
    refine ⟨rest, ?_, List.suffix_refl rest, rfl⟩
    rw [AttributeForm.text, List.cons_append, List.cons_append, readAfterKey,
      if_neg (by simpa using hsolid c List.mem_cons_self), readValue, if_neg hquote, readBare,
      ← List.cons_append, htake, hdrop]
    rfl
  | quoted quote value =>
    obtain ⟨hquote, hescaped, hclosed⟩ := hvalid
    have hbackslash : quote ≠ '\\' := by rcases hquote with rfl | rfl <;> decide
    have hspace : Text.isMarkupSpace quote = false := by rcases hquote with rfl | rfl <;> decide
    have hwritten : (AttributeForm.quoted quote value).text ++ rest =
        '=' :: quote :: (value ++ quote :: rest) := by
      simp [AttributeForm.text]
    refine ⟨rest, ?_, List.suffix_refl rest, rfl⟩
    rw [hwritten, readAfterKey, if_neg (by simp [hspace]), readValue, if_pos hquote,
      readQuoted_append hbackslash hescaped hclosed]
    rfl

/-- A key ends where its attribute goes on, or with the attribute. -/
theorem head?_text_append (form : AttributeForm)
    (apart : rest.head?.all Text.isMarkupSpace = true) :
    (form.text ++ rest).head?.any isKeyPart = false := by
  cases form with
  | alone =>
    cases rest with
    | nil => rfl
    | cons c cs =>
      have hc : Text.isMarkupSpace c = true := apart
      simp [AttributeForm.text, isKeyPart, hc]
  | bare value => rfl
  | quoted quote value => rfl

/-- An attribute is read as it is written, if white space or nothing follows. -/
theorem readFrom_attribute (a : WrittenAttribute)
    (apart : rest.head?.all Text.isMarkupSpace = true) :
    readFrom 0 (a.text ++ rest) = a.entry :: readFrom 0 rest := by
  obtain ⟨later, hafter, hsuffix, hlater⟩ := readAfterKey_append a.valid apart
  obtain ⟨skipped, rfl⟩ := hsuffix
  obtain ⟨htake, hdrop⟩ := Text.span_append a.solid (head?_text_append a.form apart)
  have hnamed := a.named
  cases hkey : a.key with
  | nil =>
    rw [hkey] at hnamed
    cases hnamed
  | cons c cs =>
    rw [hkey] at hnamed htake hdrop
    have hc : Text.isNameChar c = true := hnamed
    have hrest : cs ++ (a.form.text ++ (skipped ++ later)) =
        (cs ++ a.form.text ++ skipped) ++ later := by simp
    rw [List.cons_append] at htake hdrop
    rw [WrittenAttribute.text, hkey, List.append_assoc, List.cons_append, readFrom, if_pos hc]
    dsimp only
    rw [htake, hdrop, hafter, readFrom_eq_drop, hrest]
    dsimp only
    rw [Text.drop_sub_append, hlater, WrittenAttribute.entry, hkey]

/-- Attributes are read as they are written. -/
theorem entries_of_written {as : List WrittenAttribute} (h : Written as s) :
    (ofText s).entries = as.map WrittenAttribute.entry := by
  show readFrom 0 s = _
  induction h with
  | @done gap hgap =>
    have hread := readFrom_append_of_space hgap []
    rwa [List.append_nil] at hread
  | next hgap apart _ ih =>
    rw [List.append_assoc, readFrom_append_of_space hgap, readFrom_attribute _ apart, ih,
      List.map_cons]

/-! ## Looking up -/

/-- The last occurrence of a key counts. -/
theorem find?_eq_some_iff {attributes : Attributes} {key : Text} {value : Option Text} :
    attributes.find? key = some value ↔
      ∃ before after, attributes.entries = before ++ (key, value) :: after ∧
        ∀ entry ∈ after, entry.1 ≠ key := by
  rw [find?, List.lookup_eq_some_iff]
  constructor
  · rintro ⟨after, before, hentries, hafter⟩
    refine ⟨before.reverse, after.reverse, ?_, ?_⟩
    · rw [← List.reverse_reverse attributes.entries, hentries]
      simp
    · intro entry hmem
      exact Ne.symm (bne_iff_ne.1 (hafter entry (List.mem_reverse.1 hmem)))
  · rintro ⟨before, after, hentries, hafter⟩
    refine ⟨after.reverse, before.reverse, by simp [hentries], ?_⟩
    intro entry hmem
    exact bne_iff_ne.2 (Ne.symm (hafter entry (List.mem_reverse.1 hmem)))

theorem contains_iff {attributes : Attributes} {key : Text} :
    attributes.contains key = true ↔ ∃ entry ∈ attributes.entries, entry.1 = key := by
  simp only [contains, find?, List.lookup_isSome_iff, List.mem_reverse, beq_iff_eq, @eq_comm _ key]

/-- For every list of attributes, with keys alone, bare values and quoted values in any order, and
    every text in which they are written one after another with white space between them:

    * The attributes are read in their order, each with the key and the value that it is written
      with.
    * A key is found exactly if one of them has it.
    * What is found for it is the value of the last attribute that has it, which may be none. -/
theorem find?_of_written {as : List WrittenAttribute} {s : Text} (h : Written as s) :
    (ofText s).entries = as.map WrittenAttribute.entry ∧
      (∀ key, (ofText s).contains key = true ↔ ∃ a ∈ as, a.key = key) ∧
      ∀ key value, (ofText s).find? key = some value ↔
        ∃ before a after, as = before ++ a :: after ∧ a.key = key ∧ a.form.value = value ∧
          ∀ b ∈ after, b.key ≠ key := by
  have hentries := entries_of_written h
  refine ⟨hentries, fun key => ?_, fun key value => ?_⟩
  · rw [contains_iff, hentries]
    simp [WrittenAttribute.entry]
  · rw [find?_eq_some_iff, hentries]
    constructor
    · rintro ⟨before, after, hsplit, hafter⟩
      obtain ⟨as₁, as₂, rfl, rfl, has⟩ := List.map_eq_append_iff.1 hsplit
      obtain ⟨a, as₃, rfl, ha, rfl⟩ := List.map_eq_cons_iff.1 has
      obtain ⟨hkey, hvalue⟩ := Prod.mk.inj ha
      exact ⟨as₁, a, as₃, rfl, hkey, hvalue, fun b hb => hafter _ (List.mem_map_of_mem hb)⟩
    · rintro ⟨before, a, after, rfl, rfl, rfl, hafter⟩
      refine ⟨before.map WrittenAttribute.entry, after.map WrittenAttribute.entry, by
        simp [WrittenAttribute.entry], ?_⟩
      intro entry hmem
      obtain ⟨b, hb, rfl⟩ := List.mem_map.1 hmem
      exact hafter b hb

/-- A key with an escaped quote in its value, a key with an equals sign and a quote in its value,
    and both of them again: the one alone, the other with a quoted value. -/
theorem find?_of_written_repeated :
    let a : WrittenAttribute := ⟨['a'], .quoted '"' "x\\\"y".toList, rfl, List.all_eq_true.1 rfl,
      .inl rfl, by decide, by decide⟩
    let b : WrittenAttribute := ⟨['b'], .bare "c='d".toList, rfl, List.all_eq_true.1 rfl, by decide,
      List.all_eq_true.1 (by decide), by decide, by decide⟩
    let c : WrittenAttribute := ⟨['a'], .alone, rfl, List.all_eq_true.1 rfl, trivial⟩
    let d : WrittenAttribute := ⟨['b'], .quoted '\'' ['"'], rfl, List.all_eq_true.1 rfl, .inr rfl,
      by decide, by decide⟩
    let text := "a=\"x\\\"y\" b=c='d  a\tb='\"' ".toList
    Written [a, b, c, d] text ∧ (ofText text).find? ['a'] = some none ∧
      (ofText text).find? ['b'] = some (some ['"']) ∧ (ofText text).contains ['c'] = false := by
  intro a b c d text
  have hspace : ∀ gap : Text, gap.all Text.isMarkupSpace = true →
      ∀ e ∈ gap, Text.isMarkupSpace e = true := fun _ => List.all_eq_true.1
  have hwritten : Written [a, b, c, d] text :=
    .next (hspace [] rfl) rfl <| .next (hspace [' '] rfl) rfl <|
      .next (hspace [' ', ' '] rfl) rfl <| .next (hspace ['\t'] rfl) rfl <| .done (hspace [' '] rfl)
  obtain ⟨-, hcontains, hfind⟩ := find?_of_written hwritten
  refine ⟨hwritten, ?_, ?_, ?_⟩
  · exact (hfind _ _).2 ⟨[a, b], c, [d], rfl, rfl, rfl, by decide⟩
  · exact (hfind _ _).2 ⟨[a, b, c], d, [], rfl, rfl, rfl, nofun⟩
  · rw [← Bool.not_eq_true, hcontains]
    decide

end Attributes

end EdgeInclude
