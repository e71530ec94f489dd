import EdgeInclude.Text.Blank

/-!
# Parts of texts

What the searches on texts find: a text is cut at the first place of a character, or at
the last one, and the parts together with the character are the text.

Results:
* `span_append`: where a run of characters ends.
* `trim_eq_self`: what has no blanks to lose.
* `splitFirst_singleton_iff`, `splitLast_cases`: where a text is cut.
* `beforeSuffix?_eq_some_iff`: what is left of a text without its end.
-/

namespace EdgeInclude

namespace Text

theorem after?_eq_some_iff {lead s rest : Text} : after? lead s = some rest ↔ s = lead ++ rest := by
  constructor
  · exact eq_append_of_after?
  · rintro rfl
    induction lead with
    | nil => rfl
    | cons c cs ih => rwa [List.cons_append, after?, afterPrefix?, if_pos (beq_self_eq_true c)]

theorem beforeSuffix?_eq_some_iff {tail s front : Text} :
    beforeSuffix? tail s = some front ↔ s = front ++ tail := by
  simp only [beforeSuffix?, Option.map_eq_some_iff, after?_eq_some_iff]
  constructor
  · rintro ⟨reversed, hs, rfl⟩
    rw [← List.reverse_reverse s, hs, List.reverse_append, List.reverse_reverse]
  · rintro rfl
    exact ⟨front.reverse, List.reverse_append, List.reverse_reverse front⟩

/-- A run of characters of a class, and a text that does not go on with one, are told apart. -/
theorem span_append {p : Char → Bool} {run rest : Text} (hrun : ∀ c ∈ run, p c = true)
    (hrest : (rest.head?.any p) = false) :
    (run ++ rest).takeWhile p = run ∧ (run ++ rest).dropWhile p = rest := by
  have hstop : rest.takeWhile p = [] ∧ rest.dropWhile p = rest := by
    cases rest with
    | nil => exact ⟨rfl, rfl⟩
    | cons c cs =>
      have hc : p c = false := hrest
      simp [hc]
  rw [List.takeWhile_append_of_pos hrun, List.dropWhile_append_of_pos hrun, hstop.1, hstop.2,
    List.append_nil]
  exact ⟨rfl, rfl⟩

/-- No text without its leading characters of a class begins with one. -/
theorem head?_dropWhile (p : Char → Bool) (s : Text) : (s.dropWhile p).head?.any p = false := by
  have h := List.head?_dropWhile_not p s
  cases hs : (s.dropWhile p).head? with
  | none => rfl
  | some c =>
    rw [hs] at h
    exact h

theorem trimStart_eq_self {s : Text} (h : s.head?.any isBlank = false) : trimStart s = s :=
  (@span_append isBlank [] s nofun h).2

/-- A text with no blank at either end stays as it is. -/
theorem trim_eq_self {s : Text} (hhead : s.head?.any isBlank = false)
    (hlast : s.getLast?.any isBlank = false) : trim s = s := by
  have hreverse : trimStart s.reverse = s.reverse := trimStart_eq_self (by rwa [List.head?_reverse])
  rw [trim, trimStart_eq_self hhead]
  exact (congrArg List.reverse hreverse).trans (List.reverse_reverse s)

/-- A text does not begin with a character that it does not have and that no text behind it
    begins with. -/
theorem head?_append_ne {c : Char} {s t : Text} (hs : c ∉ s) (ht : t.head? ≠ some c) :
    (s ++ t).head? ≠ some c := by
  cases s with
  | nil => exact ht
  | cons d s => simpa using Ne.symm (not_or.1 (mt List.mem_cons.2 hs)).1

/-- Dropping what has been read leaves what follows it. -/
theorem drop_sub_append (s t : Text) : (s ++ t).drop ((s ++ t).length - t.length) = t := by
  rw [List.length_append, Nat.add_sub_cancel, List.drop_left]

variable {mark : Char} {s before rest : Text}

theorem splitFirst_append (h : mark ∉ before) :
    splitFirst [mark] (before ++ mark :: rest) = some (before, rest) := by
  induction before with
  | nil => simp [splitFirst, after?, afterPrefix?]
  | cons c cs ih =>
    obtain ⟨hc, hcs⟩ := not_or.1 (mt List.mem_cons.2 h)
    have hhead : after? [mark] (c :: (cs ++ mark :: rest)) = none := by
      simp [after?, afterPrefix?, hc]
    rw [List.cons_append, splitFirst, hhead, ih hcs]
    rfl

/-- A text is cut at the first place of a character. -/
theorem splitFirst_singleton_iff :
    splitFirst [mark] s = some (before, rest) ↔ s = before ++ mark :: rest ∧ mark ∉ before := by
  constructor
  · intro h
    have hs : s = before ++ mark :: rest := by simpa using eq_append_of_splitFirst h
    have hmem : mark ∈ s := hs ▸ List.mem_append_right before List.mem_cons_self
    obtain ⟨b, r, rfl, hb⟩ := List.eq_append_cons_of_mem hmem
    rw [splitFirst_append hb] at h
    cases h
    exact ⟨rfl, hb⟩
  · rintro ⟨rfl, h⟩
    exact splitFirst_append h

theorem splitLast_eq_none (h : mark ∉ s) : splitLast mark s = none := by
  induction s with
  | nil => rfl
  | cons c cs ih =>
    obtain ⟨hc, hcs⟩ := not_or.1 (mt List.mem_cons.2 h)
    rw [splitLast, ih hcs]
    exact if_neg (Ne.symm hc)

theorem splitLast_append (h : mark ∉ rest) :
    splitLast mark (before ++ mark :: rest) = some (before, rest) := by
  induction before with
  | nil =>
    rw [List.nil_append, splitLast, splitLast_eq_none h]
    exact if_pos rfl
  | cons c cs ih => rw [List.cons_append, splitLast, ih]

/-- A text is cut at the last place of a character, or not at all if there is none. -/
theorem splitLast_cases (mark : Char) (s : Text) :
    mark ∉ s ∧ splitLast mark s = none ∨
      ∃ before rest, s = before ++ mark :: rest ∧ mark ∉ rest ∧
        splitLast mark s = some (before, rest) := by
  by_cases h : mark ∈ s
  · obtain ⟨r, b, hs, hr⟩ := List.eq_append_cons_of_mem (List.mem_reverse.2 h)
    have hcut : s = b.reverse ++ mark :: r.reverse := by
      rw [← List.reverse_reverse s, hs]
      simp
    have hrest : mark ∉ r.reverse := mt List.mem_reverse.1 hr
    exact .inr ⟨_, _, hcut, hrest, hcut ▸ splitLast_append hrest⟩
  · exact .inl ⟨h, splitLast_eq_none h⟩

end Text

end EdgeInclude
