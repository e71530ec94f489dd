import EdgeInclude.Proofs.Markup.Attributes
import EdgeInclude.Proofs.Markup.Nesting

/-!
# Quoted values

Where a quoted value ends is decided twice. Reading attributes ends it at the first quote of its
kind that does not follow a backslash. Looking for the end of a start tag ends it at the first
quote of its kind, also after a backslash. The two agree on values without quotes of their own
kind, and then no `>` in a value ends the tag. Behind an escaped quote they need not agree: a
`>` there can end the tag inside of the value, and a quote there can begin another value.

Results:
* `entries_text`: attributes are read as they are written.
* `scan_quoted`: when a tag with quoted values is cut as one tag.
* `scan_escaped_quote`: a `>` behind an escaped quote that ends the tag.
-/

namespace EdgeInclude

/-! ## Attributes as they are written -/

/-- An attribute with a quoted value. -/
structure QuotedAttribute where
  key : Text
  quote : Char
  value : Text
  key_ne_nil : key ≠ []
  named : ∀ c ∈ key, Text.isNameChar c = true
  isQuote : quote = '"' ∨ quote = '\''
  /-- Behind the quote that opens the value, quotes of its kind directly follow backslashes. -/
  escaped : (quote :: value).IsChain fun c d => d = quote → c = '\\'
  /-- The quote that closes the value does not follow a backslash. -/
  closed : value.getLast? ≠ some '\\'

namespace QuotedAttribute

/-- An attribute as it is written. -/
def written (a : QuotedAttribute) : Text := a.key ++ '=' :: a.quote :: (a.value ++ [a.quote])

/-- Attributes as they are written behind the name of a tag: a space, and the attributes with
    single spaces between them. -/
def text (as : List QuotedAttribute) : Text := ' ' :: Text.joinWith [' '] (as.map written)

/-- The key and the value of an attribute. -/
def entry (a : QuotedAttribute) : Text × Option Text := (a.key, some a.value)

theorem joinWith_cons (a : QuotedAttribute) (as : List QuotedAttribute) :
    Text.joinWith [' '] ((a :: as).map written) =
      a.written ++ as.flatMap fun b => ' ' :: b.written := by
  induction as generalizing a with
  | nil => simp [Text.joinWith]
  | cons b as ih =>
    have hjoin : Text.joinWith [' '] ((a :: b :: as).map written) =
        a.written ++ ' ' :: Text.joinWith [' '] ((b :: as).map written) := by
      simp [Text.joinWith]
    rw [hjoin, ih, List.flatMap_cons, List.cons_append]

/-- Every attribute stands behind a space. -/
theorem text_cons (a : QuotedAttribute) (as : List QuotedAttribute) :
    text (a :: as) = (a :: as).flatMap fun b => ' ' :: b.written := by
  rw [text, joinWith_cons, List.flatMap_cons, List.cons_append]

/-- A value without quotes of its kind has none that does not follow a backslash. -/
theorem isChain_of_not_mem {quote previous : Char} {value : Text}
    (h : quote ∉ value) : (previous :: value).IsChain fun c d => d = quote → c = '\\' := by
  induction value generalizing previous with
  | nil => exact .singleton previous
  | cons c cs ih =>
    obtain ⟨hc, hcs⟩ := not_or.1 (mt List.mem_cons.2 h)
    exact .cons_cons (fun hquote => absurd hquote.symm hc) (ih hcs)

end QuotedAttribute

/-! ## Reading attributes -/

namespace QuotedAttribute

/-- An attribute with a quoted value among all that can be written. -/
def toWritten (a : QuotedAttribute) : WrittenAttribute where
  key := a.key
  form := .quoted a.quote a.value
  named := by
    obtain ⟨c, cs, hkey⟩ := List.exists_cons_of_ne_nil a.key_ne_nil
    rw [hkey]
    exact a.named c (hkey ▸ List.mem_cons_self)
  solid := fun c hc => Attributes.isKeyPart_of_isNameChar (a.named c hc)
  valid := ⟨a.isQuote, a.escaped, a.closed⟩

end QuotedAttribute

namespace Attributes

theorem written_text (as : List QuotedAttribute) :
    Written (as.map QuotedAttribute.toWritten) (QuotedAttribute.text as) := by
  have hspace : ∀ c ∈ [' '], Text.isMarkupSpace c = true := List.forall_mem_singleton.2 rfl
  have hwritten : ∀ as : List QuotedAttribute,
      Written (as.map QuotedAttribute.toWritten) (as.flatMap fun a => ' ' :: a.written) := by
    intro as
    induction as with
    | nil => exact .done (by simp)
    | cons a as ih =>
      rw [List.flatMap_cons]
      refine @Written.next [' '] _ a.toWritten _ hspace ?_ ih
      cases as <;> rfl
  cases as with
  | nil => exact .done hspace
  | cons a as => rw [QuotedAttribute.text_cons]; exact hwritten (a :: as)

/-- Attributes are read as they are written. -/
theorem entries_text (as : List QuotedAttribute) :
    (ofText (QuotedAttribute.text as)).entries = as.map QuotedAttribute.entry := by
  rw [entries_of_written (written_text as), List.map_map]
  rfl

end Attributes

/-! ## The end of the start tag -/

namespace Tag

/-- Characters that neither end a tag nor begin a value. -/
theorem ClosedValues.append_left {u s : Text} (hu : ∀ c ∈ u, c ∉ ['>', '"', '\'', '='])
    (h : ClosedValues false s) : ClosedValues false (u ++ s) := by
  induction u with
  | nil => exact h
  | cons c u ih =>
    obtain ⟨hc, hu⟩ := List.forall_mem_cons.1 hu
    simp only [List.mem_cons, List.not_mem_nil, or_false, not_or] at hc
    have hequals : (c == '=') = false := by simpa using hc.2.2.2
    exact .character hc.1 (by simp) (hequals ▸ ih hu)

/-- A value without quotes of its own kind is closed by the quote behind it. -/
theorem closedValues_written {a : QuotedAttribute} (ha : a.quote ∉ a.value) {s : Text}
    (h : ClosedValues false s) : ClosedValues false (' ' :: a.written ++ s) := by
  have hkey : ∀ c ∈ a.key, c ∉ ['>', '"', '\'', '='] := by
    intro c hc hmem
    have hname := a.named c hc
    simp only [List.mem_cons, List.not_mem_nil, or_false] at hmem
    obtain rfl | rfl | rfl | rfl := hmem <;> cases hname
  have hvalue : ClosedValues false ('=' :: a.quote :: (a.value ++ a.quote :: s)) :=
    .character (by decide) (by simp) (.value a.isQuote ha h)
  have hwritten : ' ' :: a.written ++ s =
      ' ' :: (a.key ++ '=' :: a.quote :: (a.value ++ a.quote :: s)) := by
    simp [QuotedAttribute.written]
  rw [hwritten]
  exact .character (by decide) (by simp) (.append_left hkey hvalue)

theorem closedValues_text {as : List QuotedAttribute} (h : ∀ a ∈ as, a.quote ∉ a.value) :
    ClosedValues false (QuotedAttribute.text as) := by
  have hall : ∀ as : List QuotedAttribute, (∀ a ∈ as, a.quote ∉ a.value) →
      ClosedValues false (as.flatMap fun a => ' ' :: a.written) := by
    intro as h
    induction as with
    | nil => exact .done false
    | cons a as ih =>
      obtain ⟨ha, has⟩ := List.forall_mem_cons.1 h
      rw [List.flatMap_cons]
      exact closedValues_written ha (ih has)
  cases as with
  | nil => exact .character (by decide) (by simp) (.done _)
  | cons a as => rw [QuotedAttribute.text_cons]; exact hall (a :: as) h

end Tag

namespace Markup

/-- A tag that closes itself is cut as it is written exactly if no value is open at its slash and
    every `>` before that is part of a value. -/
theorem scan_selfClosing_iff {ns name attributes : Text} (hname : name ≠ [])
    (hletters : ∀ c ∈ name, c.isAlpha = true)
    (hbounded : Tag.continuesName attributes = false ∧ attributes ≠ []) (tail : Text) :
    let written := Tag.opener ns ++ name ++ attributes ++ ['/', '>']
    (scan ns (written ++ tail)).fragments =
        .text [] :: .tag ⟨written, name, attributes, none⟩ :: (scan ns tail).fragments ↔
      Tag.openQuote (attributes ++ ['/']) = none ∧ Tag.Unended (attributes ++ ['/']) := by
  intro written
  constructor
  · intro h
    have htag : (scan ns (written ++ tail)).fragments =
        [.text []] ++ .tag ⟨written, name, attributes, none⟩ :: (scan ns tail).fragments := h
    have hcomplete := (cut_scan ns (written ++ tail)).complete htag
    generalize hraw : written = raw at hcomplete
    cases hcomplete with
    | selfClosing start => exact ⟨start.closed, start.unended⟩
  · rintro ⟨hclosed, hunended⟩
    have hcontinues : Tag.continuesName (attributes ++ ['/'] ++ ['>']) = false := by
      obtain ⟨c, cs, rfl⟩ := List.exists_cons_of_ne_nil hbounded.2
      exact hbounded.1
    have hstart : Tag.IsStartTag ns (Tag.opener ns) name (attributes ++ ['/']) :=
      ⟨Text.SameText.refl _, ⟨hname, hletters, hcontinues⟩, hclosed, hunended⟩
    have hcomplete : Tag.Complete ns ⟨written, name, attributes, none⟩ tail := .selfClosing hstart
    rw [show written ++ tail = (⟨written, name, attributes, none⟩ : Tag).raw ++ tail from rfl,
      scan_of_complete hcomplete, fragments_consTag]

/-- For every namespace, every name, every list of attributes with quoted values, and every text
    that follows:

    * The attributes are read with the keys and the values that they are written with, so a `>`
      in a value is part of the value.
    * A tag with these attributes that closes itself is cut as one tag, with this text for its
      attributes, exactly if no quoted value is open at its slash and every `>` before that is
      part of a quoted value, where a value ends at the first quote of its kind, also after a
      backslash.
    * So it is if no value holds a quote of its own kind. Then a `>` in a value never ends the
      tag. -/
theorem scan_quoted {ns name : Text} (hname : name ≠ [])
    (hletters : ∀ c ∈ name, c.isAlpha = true) (as : List QuotedAttribute) (tail : Text) :
    let attributes := QuotedAttribute.text as
    let written := Tag.opener ns ++ name ++ attributes ++ ['/', '>']
    let IsOneTag := (scan ns (written ++ tail)).fragments =
      .text [] :: .tag ⟨written, name, attributes, none⟩ :: (scan ns tail).fragments
    (Attributes.ofText attributes).entries = as.map QuotedAttribute.entry ∧
      (IsOneTag ↔
        Tag.openQuote (attributes ++ ['/']) = none ∧ Tag.Unended (attributes ++ ['/'])) ∧
      ((∀ a ∈ as, a.quote ∉ a.value) → IsOneTag) := by
  intro attributes written IsOneTag
  have hiff : IsOneTag ↔ _ := scan_selfClosing_iff hname hletters ⟨rfl, by simp [attributes,
    QuotedAttribute.text]⟩ tail
  refine ⟨Attributes.entries_text as, hiff, fun hvalues => hiff.2 ?_⟩
  have hclosed := (Tag.closedValues_text hvalues).append_slash
  exact ⟨hclosed.openQuoteFrom_eq, hclosed.unendedFrom⟩

/-- A slash, a `>`, an equals sign, a backslash and the other quote in values. -/
theorem scan_quoted_pair :
    let src : QuotedAttribute := ⟨"src".toList, '"', "/a>b='".toList, by decide,
      List.all_eq_true.1 (by decide), by decide, by decide, by decide⟩
    let alt : QuotedAttribute := ⟨"alt".toList, '\'', ">\\\"".toList, by decide,
      List.all_eq_true.1 (by decide), by decide, by decide, by decide⟩
    let attributes := " src=\"/a>b='\" alt='>\\\"'".toList
    QuotedAttribute.text [src, alt] = attributes ∧
      (Attributes.ofText attributes).entries =
        [("src".toList, some "/a>b='".toList), ("alt".toList, some ">\\\"".toList)] ∧
      (scan "esi".toList ("<esi:include".toList ++ attributes ++ "/>x".toList)).fragments =
        [.text [], .tag ⟨"<esi:include".toList ++ attributes ++ "/>".toList, "include".toList,
          attributes, none⟩, .text "x".toList] := by
  intro src alt attributes
  have hletters : ∀ c ∈ "include".toList, c.isAlpha = true := List.all_eq_true.1 (by decide)
  have hname : "include".toList ≠ [] := by decide
  obtain ⟨hentries, -, htag⟩ := @scan_quoted "esi".toList _ hname hletters [src, alt] "x".toList
  exact ⟨rfl, hentries, htag (by decide)⟩

/-- A value whose quote is escaped is read as one value, but the `>` behind that quote ends the
    tag, and since no end tag follows, what is written is text. -/
theorem scan_escaped_quote :
    let src : QuotedAttribute := ⟨"src".toList, '"', "a\\\">b".toList, by decide,
      List.all_eq_true.1 (by decide), by decide, by decide, by decide⟩
    let attributes := QuotedAttribute.text [src]
    let written := "<esi:include".toList ++ attributes ++ "/>".toList
    (Attributes.ofText attributes).entries = [("src".toList, some "a\\\">b".toList)] ∧
      (scan "esi".toList written).fragments = [.text written] ∧
      (scan "esi".toList written).fragments ≠
        .text [] :: .tag ⟨written, "include".toList, attributes, none⟩ ::
          (scan "esi".toList []).fragments := by
  decide +kernel

end Markup

end EdgeInclude
