import EdgeInclude.Expression.Token
import EdgeInclude.Proofs.Text.Parts
import Mathlib.Data.List.Infix

/-!
# Literals as they are written

The texts that references and strings are read from. References stand between
parentheses and end at the first closing one. Strings stand between quotes, with a
backslash before each quote and backslash, or between three quotes.

Results:
* `readReference?_eq_some_iff`: what is read as a reference.
* `readRawString_eq_ok_iff`: a string between three quotes ends at the first three in a
  row.
* `readString_of_isString`, `isString_of_readString`: what is read as a string.
-/

namespace EdgeInclude

theorem map_eq_ok_iff {ε α β : Type} {f : α → β} {x : Except ε α} {b : β} :
    x.map f = .ok b ↔ ∃ a, x = .ok a ∧ f a = b := by
  cases x <;> simp [Except.map]

/-! ## References -/

namespace Reference

/-- A key between braces. -/
def braced (key : Text) : Text := '\x7b' :: key ++ ['\x7d']

/-- Whether a text can be a key: it is not empty and holds letters, numbers and underscores
    only. -/
def IsKey (key : Text) : Prop := key ≠ [] ∧ ∀ c ∈ key, isKeyChar c = true

/-- Whether a text is that of a reference, between its parentheses. The name of a reference
    without a key must not look like one with a key. -/
def IsWritten (ref : Reference) (s : Text) : Prop :=
  ')' ∉ ref.name ∧
    match ref.key with
    | none => s = ref.name ∧ ∀ name key, IsKey key → s ≠ name ++ braced key
    | some key => IsKey key ∧ s = ref.name ++ braced key

theorem not_mem_braced {key : Text} (h : IsKey key) : ')' ∉ braced key := by
  have hkey : ')' ∉ key := fun hmem => absurd (h.2 _ hmem) (by decide)
  simp [braced, hkey]

theorem ofText_braced {name key : Text} (h : IsKey key) :
    ofText (name ++ braced key) = ⟨name, some key⟩ := by
  have hopen : '\x7b' ∉ key ++ ['\x7d'] := by
    have hkey : '\x7b' ∉ key := fun hmem => absurd (h.2 _ hmem) (by decide)
    simp [hkey]
  have hcut : Text.splitLast '\x7b' (name ++ braced key) = some (name, key ++ ['\x7d']) :=
    Text.splitLast_append hopen
  have hkey : Text.beforeSuffix? ['\x7d'] (key ++ ['\x7d']) = some key :=
    Text.beforeSuffix?_eq_some_iff.2 rfl
  have hchars : (!key.isEmpty && key.all isKeyChar) = true := by
    rw [Bool.and_eq_true, List.all_eq_true]
    exact ⟨by simpa using h.1, h.2⟩
  simp only [ofText, hcut, hkey, hchars, if_true]

theorem ofText_eq_self {s : Text} (h : ∀ name key, IsKey key → s ≠ name ++ braced key) :
    ofText s = ⟨s, none⟩ := by
  unfold ofText
  split
  · rfl
  · next name rest hcut =>
    split
    · rfl
    · next key hkey =>
      split
      · next hchars =>
        rw [Bool.and_eq_true, List.all_eq_true] at hchars
        obtain ⟨-, hnone⟩ | ⟨name', rest', hs, -, hcut'⟩ := Text.splitLast_cases '\x7b' s
        · rw [hcut] at hnone
          cases hnone
        · obtain ⟨rfl, rfl⟩ := Prod.mk.inj (Option.some.inj (hcut.symm.trans hcut'))
          rw [Text.beforeSuffix?_eq_some_iff.1 hkey] at hs
          exact absurd hs (h name key ⟨by simpa using hchars.1, hchars.2⟩)
      · rfl

/-- A reference is read from the texts that it is written as. -/
theorem isWritten_iff {ref : Reference} {s : Text} :
    ref.IsWritten s ↔ ')' ∉ s ∧ ofText s = ref := by
  obtain ⟨name, key⟩ := ref
  constructor
  · rintro ⟨hname, hs⟩
    cases key with
    | none =>
      obtain ⟨rfl, hkey⟩ := hs
      exact ⟨hname, ofText_eq_self hkey⟩
    | some key =>
      obtain ⟨hkey, rfl⟩ := hs
      exact ⟨by simp [hname, not_mem_braced hkey], ofText_braced hkey⟩
  · rintro ⟨hs, href⟩
    by_cases hkeyed : ∃ name key, IsKey key ∧ s = name ++ braced key
    · obtain ⟨name', key', hkey, rfl⟩ := hkeyed
      rw [ofText_braced hkey] at href
      cases href
      exact ⟨fun h => hs (List.mem_append_left _ h), hkey, rfl⟩
    · have hnot : ∀ name key, IsKey key → s ≠ name ++ braced key :=
        fun name key hkey hs => hkeyed ⟨name, key, hkey, hs⟩
      rw [ofText_eq_self hnot] at href
      cases href
      exact ⟨hs, rfl, hnot⟩

end Reference

theorem readReference?_eq_some_iff {s rest : Text} {ref : Reference} :
    readReference? s = some (ref, rest) ↔
      ∃ inner, s = inner ++ ')' :: rest ∧ ref.IsWritten inner := by
  simp only [readReference?, Option.map_eq_some_iff, Prod.exists, Text.splitFirst_singleton_iff,
    Prod.mk.injEq, Reference.isWritten_iff]
  constructor
  · rintro ⟨inner, rest, ⟨rfl, hinner⟩, rfl, rfl⟩
    exact ⟨inner, rfl, hinner, rfl⟩
  · rintro ⟨inner, rfl, hinner, rfl⟩
    exact ⟨inner, rest, ⟨rfl, hinner⟩, rfl, rfl⟩

/-! ## Strings -/

/-- What a raw string begins and ends with. -/
def rawQuotes : Text := ['\'', '\'', '\'']

/-- Whether a string can be written between three quotes as it is. -/
def IsRaw (s : Text) : Prop := ¬rawQuotes <:+: s ∧ s.getLast? ≠ some '\''

theorem isRaw_nil : IsRaw [] := ⟨by decide, by decide⟩

/-- The first three quotes in a row are those after the string. -/
theorem isRaw_cons_iff {c : Char} {s : Text} :
    IsRaw (c :: s) ↔ IsRaw s ∧ ¬rawQuotes <+: c :: s ++ rawQuotes := by
  unfold IsRaw
  rw [List.infix_cons_iff]
  -- Three characters tell whether quotes begin here; the last of them may be those after.
  match s with
  | [] => simp [rawQuotes, List.cons_prefix_cons, @eq_comm _ '\'']
  | [d] => simp [rawQuotes, List.cons_prefix_cons, @eq_comm _ '\'']; tauto
  | d :: e :: s => simp [rawQuotes, List.cons_prefix_cons]; tauto

theorem readRawString_cons {c : Char} {cs : Text} (h : ¬rawQuotes <+: c :: cs) :
    readRawString (c :: cs) = (readRawString cs).map fun (s, rest) => (c :: s, rest) := by
  rw [readRawString]
  rintro cs' rfl rfl
  exact h ⟨cs', rfl⟩

/-- A raw string ends at the first three quotes in a row. -/
theorem readRawString_eq_ok_iff {t s rest : Text} :
    readRawString t = .ok (s, rest) ↔ t = s ++ rawQuotes ++ rest ∧ IsRaw s := by
  induction t generalizing s with
  | nil => simp [readRawString, rawQuotes]
  | cons c cs ih =>
    by_cases hquotes : rawQuotes <+: c :: cs
    · obtain ⟨after, hafter⟩ := hquotes
      rw [← hafter]
      have hread : readRawString (rawQuotes ++ after) = .ok ([], after) := rfl
      rw [hread]
      cases s with
      | nil => simp [isRaw_nil]
      | cons d s =>
        simp only [Except.ok.injEq, Prod.mk.injEq, List.nil_eq, reduceCtorEq, false_and, false_iff,
          not_and]
        intro heq hraw
        have hprefix : rawQuotes <+: d :: s ++ rawQuotes :=
          List.prefix_of_prefix_length_le (heq ▸ List.prefix_append rawQuotes after)
            (List.prefix_append _ rest) (by simp; omega)
        exact (isRaw_cons_iff.1 hraw).2 hprefix
    · rw [readRawString_cons hquotes, map_eq_ok_iff]
      constructor
      · rintro ⟨⟨s', rest'⟩, hread, hs⟩
        obtain ⟨rfl, rfl⟩ := Prod.mk.inj hs
        obtain ⟨rfl, hraw⟩ := ih.1 hread
        exact ⟨rfl, isRaw_cons_iff.2 ⟨hraw, fun h => hquotes (h.trans (List.prefix_append _ _))⟩⟩
      · rintro ⟨ht, hraw⟩
        cases s with
        | nil => exact absurd ⟨rest, ht.symm⟩ hquotes
        | cons d s =>
          obtain ⟨rfl, rfl⟩ := List.cons.inj ht
          exact ⟨(s, rest), ih.2 ⟨rfl, (isRaw_cons_iff.1 hraw).1⟩, rfl⟩

/-- A string with backslashes before some of its characters, and before all of its quotes and
    backslashes. -/
inductive Escaped : Text → Text → Prop where
  | nil : Escaped [] []
  | character {c : Char} {s t : Text} (hquote : c ≠ '\'') (hbackslash : c ≠ '\\')
      (rest : Escaped s t) : Escaped (c :: s) (c :: t)
  | escape {c : Char} {s t : Text} (rest : Escaped s t) : Escaped (c :: s) ('\\' :: c :: t)

/-- A string with backslashes only where they are needed. -/
def escape (s : Text) : Text := s.flatMap fun c => if c = '\'' ∨ c = '\\' then ['\\', c] else [c]

theorem escaped_escape (s : Text) : Escaped s (escape s) := by
  induction s with
  | nil => exact .nil
  | cons c s ih =>
    rw [escape, List.flatMap_cons]
    split
    · exact .escape ih
    · next h =>
      rw [not_or] at h
      exact .character h.1 h.2 ih

theorem readPlainString_of_escaped {s t : Text} (h : Escaped s t) (rest : Text) :
    readPlainString (t ++ '\'' :: rest) = .ok (s, rest) := by
  induction h with
  | nil => rfl
  | @character c s t hquote hbackslash _ ih =>
    rw [List.cons_append, readPlainString, ih]
    · rfl
    · rintro rfl
      exact absurd rfl hquote
    · rintro rfl
      exact absurd rfl hbackslash
    · rintro d ds rfl
      exact absurd rfl hbackslash
  | escape _ ih =>
    rw [List.cons_append, List.cons_append, readPlainString, ih]
    rfl

theorem escaped_of_readPlainString {t s rest : Text} (h : readPlainString t = .ok (s, rest)) :
    ∃ t', t = t' ++ '\'' :: rest ∧ Escaped s t' := by
  induction t using readPlainString.induct generalizing s with
  | case1 => cases h
  | case2 cs =>
    cases h
    exact ⟨[], rfl, .nil⟩
  | case3 => cases h
  | case4 c cs ih =>
    rw [readPlainString, map_eq_ok_iff] at h
    obtain ⟨⟨s', rest'⟩, hread, hs⟩ := h
    obtain ⟨rfl, rfl⟩ := Prod.mk.inj hs
    obtain ⟨t', rfl, hescaped⟩ := ih hread
    exact ⟨_, rfl, .escape hescaped⟩
  | case5 c cs hquote hend hbackslash ih =>
    rw [readPlainString.eq_5 c cs hquote hend hbackslash, map_eq_ok_iff] at h
    obtain ⟨⟨s', rest'⟩, hread, hs⟩ := h
    obtain ⟨rfl, rfl⟩ := Prod.mk.inj hs
    obtain ⟨t', rfl, hescaped⟩ := ih hread
    have hc : c ≠ '\\' := by
      rintro rfl
      cases hcs : t' ++ '\'' :: rest' with
      | nil => exact hend rfl hcs
      | cons d ds => exact hbackslash d ds rfl hcs
    exact ⟨c :: t', rfl, .character hquote hc hescaped⟩

/-- Whether a text is a string as it is written: with backslashes, or between three quotes. -/
def IsString (s w : Text) : Prop :=
  (∃ t, Escaped s t ∧ w = '\'' :: t ++ ['\'']) ∨ IsRaw s ∧ w = rawQuotes ++ s ++ rawQuotes

/-- Whether a text is a string as it is written, with no backslash that is not needed. -/
def IsPlainString (s w : Text) : Prop :=
  w = '\'' :: escape s ++ ['\''] ∨ IsRaw s ∧ w = rawQuotes ++ s ++ rawQuotes

theorem IsPlainString.isString {s w : Text} (h : IsPlainString s w) : IsString s w :=
  h.imp_left fun hw => ⟨escape s, escaped_escape s, hw⟩

/-- A string is read up to its end if no further quote follows. -/
theorem readString_of_isString {s w rest : Text} (h : IsString s w)
    (hrest : rest.head? ≠ some '\'') :
    ∃ t, w = '\'' :: t ∧ readString (t ++ rest) = .ok (s, rest) := by
  obtain ⟨t, hescaped, rfl⟩ | ⟨hraw, rfl⟩ := h
  · refine ⟨t ++ ['\''], rfl, ?_⟩
    have hread := readPlainString_of_escaped hescaped rest
    rw [List.append_assoc, List.singleton_append]
    cases hescaped with
    | nil =>
      rw [List.nil_append, readString.eq_2]
      rintro cs rfl
      exact hrest rfl
    | character hquote _ _ =>
      rwa [List.cons_append, readString.eq_3]
      · exact fun cs hcs => hquote (List.cons.inj hcs).1
      · exact fun cs hcs => hquote (List.cons.inj hcs).1
    | escape _ =>
      rwa [List.cons_append, readString.eq_3]
      · exact fun cs hcs => absurd (List.cons.inj hcs).1 (by decide)
      · exact fun cs hcs => absurd (List.cons.inj hcs).1 (by decide)
  · refine ⟨'\'' :: '\'' :: s ++ rawQuotes, rfl, ?_⟩
    exact readRawString_eq_ok_iff.2 ⟨rfl, hraw⟩

theorem isString_of_readString {t s rest : Text} (h : readString t = .ok (s, rest)) :
    ∃ w, '\'' :: t = w ++ rest ∧ IsString s w := by
  unfold readString at h
  split at h
  · next cs =>
    obtain ⟨rfl, hraw⟩ := readRawString_eq_ok_iff.1 h
    exact ⟨rawQuotes ++ s ++ rawQuotes, by simp [rawQuotes], .inr ⟨hraw, rfl⟩⟩
  · next cs _ =>
    cases h
    exact ⟨['\'', '\''], rfl, .inl ⟨[], .nil, rfl⟩⟩
  · obtain ⟨t', rfl, hescaped⟩ := escaped_of_readPlainString h
    exact ⟨'\'' :: t' ++ ['\''], by simp, .inl ⟨t', hescaped, rfl⟩⟩

end EdgeInclude
