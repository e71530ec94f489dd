import EdgeInclude.Entity.Reference
import EdgeInclude.Proofs.Text.Parts

/-!
# Escaped values

A text stands in the value of an attribute with references in place of the five characters that
mean something in markup. Then neither a quote nor an angle bracket is left in it, and reading
the references gives the text back.

Results:
* `mem_escapeValue`, `getLast?_escapeValue`: what is in an escaped text.
* `unescapeUrl_escapeValue`: an escaped URL is read as what it was.
-/

namespace EdgeInclude

namespace Entity

/-- A character as it stands in the value of an attribute. -/
def escapeValueChar : Char → Text
  | '"' => ['&', 'q', 'u', 'o', 't', ';']
  | '\'' => ['&', 'a', 'p', 'o', 's', ';']
  | c => encodeChar c

/-- A text as it stands in the value of an attribute. -/
def escapeValue (s : Text) : Text := s.flatMap escapeValueChar

variable {c d : Char} {s name : Text}

/-- The characters that are written as references. -/
def special : List Char := ['&', '<', '>', '"', '\'']

/-- A character is written as a reference with a name of letters, or as itself. -/
theorem escapeValueChar_cases (c : Char) :
    (∃ name, (∀ d ∈ name, d.isAlpha = true) ∧ strictReference? name = some c ∧
      escapeValueChar c = '&' :: (name ++ [';'])) ∨
      c ∉ special ∧ escapeValueChar c = [c] := by
  by_cases hc : c ∈ special
  · left
    simp only [special, List.mem_cons, List.not_mem_nil, or_false] at hc
    obtain rfl | rfl | rfl | rfl | rfl := hc
    · exact ⟨['a', 'm', 'p'], List.all_eq_true.1 rfl, rfl, rfl⟩
    · exact ⟨['l', 't'], List.all_eq_true.1 rfl, rfl, rfl⟩
    · exact ⟨['g', 't'], List.all_eq_true.1 rfl, rfl, rfl⟩
    · exact ⟨['q', 'u', 'o', 't'], List.all_eq_true.1 rfl, rfl, rfl⟩
    · exact ⟨['a', 'p', 'o', 's'], List.all_eq_true.1 rfl, rfl, rfl⟩
  · right
    refine ⟨hc, ?_⟩
    simp only [special, List.mem_cons, List.not_mem_nil, or_false, not_or] at hc
    obtain ⟨hamp, hlt, hgt, hquot, hapos⟩ := hc
    rw [escapeValueChar.eq_3 c hquot hapos, encodeChar.eq_4 c hamp hlt hgt]

/-! ## What is in an escaped text -/

/-- An escaped text consists of what references are made of, and of the characters of the text
    that are not written as references. -/
theorem mem_escapeValue (h : d ∈ escapeValue s) :
    d.isAlpha = true ∨ d = '&' ∨ d = ';' ∨ d ∈ s ∧ d ∉ special := by
  obtain ⟨c, hc, hd⟩ := List.mem_flatMap.1 h
  obtain ⟨name, hname, -, heq⟩ | ⟨hspecial, heq⟩ := escapeValueChar_cases c
  · rw [heq, List.mem_cons, List.mem_append, List.mem_singleton] at hd
    obtain rfl | hd | rfl := hd
    · exact .inr (.inl rfl)
    · exact .inl (hname d hd)
    · exact .inr (.inr (.inl rfl))
  · rw [heq, List.mem_singleton] at hd
    subst hd
    exact .inr (.inr (.inr ⟨hc, hspecial⟩))

theorem escapeValueChar_ne_nil (c : Char) : escapeValueChar c ≠ [] := by
  obtain ⟨name, -, -, heq⟩ | ⟨-, heq⟩ := escapeValueChar_cases c
  · simp [heq]
  · simp [heq]

theorem escapeValue_ne_nil (h : s ≠ []) : escapeValue s ≠ [] := by
  obtain ⟨c, cs, rfl⟩ := List.exists_cons_of_ne_nil h
  simp [escapeValue, escapeValueChar_ne_nil]

/-- An escaped text ends like the text, or with the end of a reference. -/
theorem getLast?_escapeValue (s : Text) :
    (escapeValue s).getLast? = s.getLast? ∨ (escapeValue s).getLast? = some ';' := by
  obtain rfl | ⟨s, c, rfl⟩ := List.eq_nil_or_concat s
  · exact .inl rfl
  · have hlast : escapeValue (s ++ [c]) = escapeValue s ++ escapeValueChar c := by
      simp [escapeValue]
    rw [List.concat_eq_append, hlast]
    obtain ⟨name, -, -, heq⟩ | ⟨-, heq⟩ := escapeValueChar_cases c
    · right
      rw [heq, ← List.cons_append, ← List.append_assoc, List.getLast?_concat]
    · left
      simp [heq]

/-! ## Reading an escaped text -/

theorem strictFrom_eq_drop (skip : Nat) (s : Text) :
    strictFrom skip s = strictFrom 0 (s.drop skip) := by
  induction s generalizing skip with
  | nil => rw [List.drop_nil, strictFrom, strictFrom]
  | cons c cs ih =>
    cases skip with
    | zero => rfl
    | succ skip => exact ih skip

/-- A reference ends at its semicolon. -/
theorem referenceBody?_append (h : ∀ d ∈ name, d.isAlpha = true) (rest : Text) :
    referenceBody? (name ++ ';' :: rest) = some name := by
  induction name with
  | nil => rfl
  | cons c name ih =>
    obtain ⟨hc, hname⟩ := List.forall_mem_cons.1 h
    rw [List.cons_append, referenceBody?, ih hname, Option.map_some]
    · rintro rfl
      cases hc
    · rintro rfl
      cases hc

/-- A character is read as it is escaped, whatever follows it. -/
theorem strictFrom_escapeValueChar (c : Char) (rest : Text) :
    strictFrom 0 (escapeValueChar c ++ rest) = (strictFrom 0 rest).map (c :: ·) := by
  obtain ⟨name, hname, href, heq⟩ | ⟨hspecial, heq⟩ := escapeValueChar_cases c
  · have hdrop : (name ++ ';' :: rest).drop (name.length + 1) = rest := by
      simp [List.drop_append]
    have hwritten : escapeValueChar c ++ rest = '&' :: (name ++ ';' :: rest) := by simp [heq]
    rw [hwritten, strictFrom, if_pos rfl, referenceBody?_append hname, Option.bind_eq_bind,
      Option.bind_some, href, strictFrom_eq_drop, hdrop]
    rfl
  · have hc : c ≠ '&' := by
      rintro rfl
      exact hspecial (by decide)
    rw [heq, List.singleton_append, strictFrom, if_neg hc]

theorem strict?_escapeValue (s : Text) : strict? (escapeValue s) = some s := by
  unfold strict?
  induction s with
  | nil => rfl
  | cons c s ih =>
    rw [escapeValue, List.flatMap_cons, strictFrom_escapeValueChar, ← escapeValue, ih,
      Option.map_some]

/-- An escaped URL is read as what it was. -/
theorem unescapeUrl_escapeValue (s : Text) : unescapeUrl (escapeValue s) = s := by
  rw [unescapeUrl, strict?_escapeValue, Option.getD_some]

end Entity

end EdgeInclude
