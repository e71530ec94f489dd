import EdgeInclude.Condition.Basic
import EdgeInclude.Proofs.Text.Parts

/-!
# Signs between blanks

What joins the terms of a condition, and what compares the operands of a term, is written the
same way: a sign with blanks on both sides. A text is cut at the first place where one of
several signs is written so, and all blanks there go with the sign.

Results:
* `readSign?_eq_some_iff`: the signs of a table are told apart, whatever their order.
* `firstSign_of_readSign?`, `FirstSign.cons`: where the first sign stands, a character at a time.
* `FirstSign.unique`: a text has one first sign.
* `FirstSign.append`, `FirstSign.prepend`: texts put together at a character that no sign has.
-/

namespace EdgeInclude

namespace Condition

variable {α : Type} {signs : List (Text × α)} {a b : α} {s w before after sign : Text}

/-! ## Signs as they are written -/

/-- Whether a text consists of blanks, at least one. -/
def IsGap (w : Text) : Prop := w ≠ [] ∧ ∀ c ∈ w, Text.isBlank c = true

/-- Whether a text is a sign that stands for `a`, with the blanks around it. -/
def IsSign (signs : List (Text × α)) (a : α) (w : Text) : Prop :=
  ∃ sign before after, (sign, a) ∈ signs ∧ IsGap before ∧ IsGap after ∧
    w = before ++ sign ++ after

/-- Whether no sign is written in a text. -/
def NoSign (signs : List (Text × α)) (s : Text) : Prop :=
  ∀ (a : α) (w : Text), IsSign signs a w → ¬w <:+: s

/-- Whether a text is cut at the first sign in it, into what stands before that and what stands
    after it. -/
structure FirstSign (signs : List (Text × α)) (s before : Text) (a : α) (after : Text) :
    Prop where
  found : ∃ w, IsSign signs a w ∧ s = before ++ w ++ after
  /-- The blanks behind the sign go with it. -/
  whole : after.head?.any Text.isBlank = false
  first : ∀ (b : α) (w u v : Text), IsSign signs b w → s = u ++ w ++ v → before.length ≤ u.length

/-- What makes it possible to tell signs apart: none is empty, none has a blank in it, and none
    stands for two things. -/
structure Distinct (signs : List (Text × α)) : Prop where
  ne_nil : ∀ entry ∈ signs, entry.1 ≠ []
  solid : ∀ entry ∈ signs, ∀ c ∈ entry.1, Text.isBlank c = false
  unique : ∀ entry ∈ signs, ∀ other ∈ signs, entry.1 = other.1 → entry.2 = other.2

/-- Whether a sign has a blank in it can be read off the table. -/
theorem solid_of_all (h : signs.all (fun entry => entry.1.all (!Text.isBlank ·)) = true) :
    ∀ entry ∈ signs, ∀ c ∈ entry.1, Text.isBlank c = false := by
  intro entry hentry c hc
  have hsign := List.all_eq_true.1 h entry hentry
  simpa using List.all_eq_true.1 hsign c hc

/-! ## Reading a sign -/

/-- Reads a sign at the start of a text, with the blanks behind it. -/
def readOne? (s : Text) (entry : Text × α) : Option (α × Text) :=
  match Text.after? entry.1 s with
  | some (c :: rest) =>
    if Text.isBlank c then some (entry.2, rest.dropWhile Text.isBlank) else none
  | _ => none

/-- Reads one of several signs at the start of a text, with the blanks around it. -/
def readSign? (signs : List (Text × α)) (s : Text) : Option (α × Text) :=
  if s.head?.any Text.isBlank then signs.findSome? (readOne? (s.dropWhile Text.isBlank))
  else none

theorem readOne?_eq_some_iff :
    readOne? s (sign, a) = some (b, after) ↔
      b = a ∧ ∃ gap, IsGap gap ∧ s = sign ++ gap ++ after ∧
        after.head?.any Text.isBlank = false := by
  constructor
  · intro h
    unfold readOne? at h
    split at h
    · next c rest hafter =>
      split at h
      · next hc =>
        obtain ⟨rfl, rfl⟩ : a = b ∧ rest.dropWhile Text.isBlank = after := by simpa using h
        have hrun : ∀ d ∈ rest.takeWhile Text.isBlank, Text.isBlank d = true :=
          List.all_eq_true.1 List.all_takeWhile
        refine ⟨rfl, c :: rest.takeWhile Text.isBlank, ⟨by simp, ?_⟩, ?_, Text.head?_dropWhile _ _⟩
        · exact List.forall_mem_cons.2 ⟨hc, hrun⟩
        · rw [Text.eq_append_of_after? hafter, List.append_assoc, List.cons_append,
            List.takeWhile_append_dropWhile]
      · cases h
    · cases h
  · rintro ⟨rfl, gap, ⟨hne, hgap⟩, rfl, hwhole⟩
    obtain ⟨c, cs, rfl⟩ := List.exists_cons_of_ne_nil hne
    obtain ⟨hc, hcs⟩ := List.forall_mem_cons.1 hgap
    have hafter : Text.after? sign (sign ++ (c :: cs) ++ after) = some (c :: (cs ++ after)) :=
      Text.after?_eq_some_iff.2 (by simp)
    rw [readOne?, hafter]
    dsimp only
    rw [if_pos hc, (Text.span_append hcs hwhole).2]

theorem exists_isSign_of_readSign? (h : readSign? signs s = some (a, after)) :
    ∃ w, IsSign signs a w ∧ s = w ++ after ∧ after.head?.any Text.isBlank = false := by
  unfold readSign? at h
  split at h
  · next hblank =>
    obtain ⟨⟨sign, x⟩, hmem, hentry⟩ := List.exists_of_findSome?_eq_some h
    obtain ⟨rfl, gap, hgap, hs, hwhole⟩ := readOne?_eq_some_iff.1 hentry
    have hrun : IsGap (s.takeWhile Text.isBlank) := by
      refine ⟨?_, List.all_eq_true.1 List.all_takeWhile⟩
      cases s with
      | nil => cases hblank
      | cons c cs =>
        have hc : Text.isBlank c = true := hblank
        simp [hc]
    refine ⟨_, ⟨sign, _, gap, hmem, hrun, hgap, rfl⟩, ?_, hwhole⟩
    rw [List.append_assoc, List.append_assoc, ← List.append_assoc sign, ← hs,
      List.takeWhile_append_dropWhile]
  · cases h

/-! ## Telling signs apart -/

/-- Behind the blanks before it, a sign is the first word of a text. -/
theorem dropWhile_sign (hsigns : Distinct signs) {gap : Text} (hmem : (sign, a) ∈ signs)
    (hbefore : IsGap before) :
    (before ++ sign ++ gap ++ after).dropWhile Text.isBlank = sign ++ gap ++ after := by
  obtain ⟨d, ds, rfl⟩ := List.exists_cons_of_ne_nil (hsigns.ne_nil _ hmem)
  have hhead : (d :: ds ++ gap ++ after).head?.any Text.isBlank = false :=
    hsigns.solid _ hmem d List.mem_cons_self
  have hspan := (Text.span_append hbefore.2 hhead).2
  rwa [← List.append_assoc, ← List.append_assoc] at hspan

/-- At most one sign is written at a place, and up to one place. -/
theorem IsSign.unique (hsigns : Distinct signs) {w' after' : Text} (h : IsSign signs a w)
    (h' : IsSign signs b w') (hwhole : after.head?.any Text.isBlank = false)
    (hwhole' : after'.head?.any Text.isBlank = false) (heq : w ++ after = w' ++ after') :
    a = b ∧ after = after' := by
  obtain ⟨sign, before, gap, hmem, hbefore, ⟨hne, hgap⟩, rfl⟩ := h
  obtain ⟨sign', before', gap', hmem', hbefore', ⟨hne', hgap'⟩, rfl⟩ := h'
  have hwords : sign ++ gap ++ after = sign' ++ gap' ++ after' := by
    rw [← dropWhile_sign hsigns hmem hbefore, heq, dropWhile_sign hsigns hmem' hbefore']
  -- A blank ends either sign, so they are the same word.
  have hspan : ∀ {sign gap : Text} {x : α} (after : Text), (sign, x) ∈ signs → gap ≠ [] →
      (∀ c ∈ gap, Text.isBlank c = true) →
      (sign ++ gap ++ after).takeWhile (fun c => !Text.isBlank c) = sign ∧
        (sign ++ gap ++ after).dropWhile (fun c => !Text.isBlank c) = gap ++ after := by
    intro sign gap x after hmem hne hgap
    obtain ⟨c, cs, rfl⟩ := List.exists_cons_of_ne_nil hne
    rw [List.append_assoc]
    exact Text.span_append (fun d hd => by simp [hsigns.solid _ hmem d hd])
      (by simp [hgap c List.mem_cons_self])
  obtain ⟨hsign, hrest⟩ := hspan after hmem hne hgap
  obtain ⟨hsign', hrest'⟩ := hspan after' hmem' hne' hgap'
  rw [hwords] at hsign hrest
  refine ⟨hsigns.unique _ hmem _ hmem' (hsign.symm.trans hsign'), ?_⟩
  rw [← (Text.span_append hgap hwhole).2, ← hrest, hrest', (Text.span_append hgap' hwhole').2]

/-- A sign is read exactly where it is written, with all the blanks behind it. -/
theorem readSign?_eq_some_iff (hsigns : Distinct signs) :
    readSign? signs s = some (a, after) ↔
      ∃ w, IsSign signs a w ∧ s = w ++ after ∧ after.head?.any Text.isBlank = false := by
  constructor
  · exact exists_isSign_of_readSign?
  · rintro ⟨w, hw, rfl, hwhole⟩
    have hwritten := hw
    obtain ⟨sign, before, gap, hmem, hbefore, hgap, rfl⟩ := hw
    have hblank : (before ++ sign ++ gap ++ after).head?.any Text.isBlank = true := by
      obtain ⟨c, cs, rfl⟩ := List.exists_cons_of_ne_nil hbefore.1
      exact hbefore.2 c List.mem_cons_self
    have hentry : readOne? (sign ++ gap ++ after) (sign, a) = some (a, after) :=
      readOne?_eq_some_iff.2 ⟨rfl, gap, hgap, rfl, hwhole⟩
    -- Some sign is read, and any that is must be this one.
    have hsome : (readSign? signs (before ++ sign ++ gap ++ after)).isSome := by
      rw [readSign?, if_pos hblank, dropWhile_sign hsigns hmem hbefore,
        List.findSome?_isSome_iff]
      exact ⟨_, hmem, Option.isSome_iff_exists.2 ⟨_, hentry⟩⟩
    obtain ⟨⟨b, after'⟩, hread⟩ := Option.isSome_iff_exists.1 hsome
    obtain ⟨w', hw', hs, hwhole'⟩ := exists_isSign_of_readSign? hread
    obtain ⟨rfl, rfl⟩ := hwritten.unique hsigns hw' hwhole hwhole' hs
    exact hread

/-! ## The first sign -/

theorem IsSign.ne_nil (h : IsSign signs a w) : w ≠ [] := by
  obtain ⟨sign, before, gap, -, ⟨hne, -⟩, -, rfl⟩ := h
  simp [hne]

/-- A text that is cut at a sign has one. -/
theorem FirstSign.not_noSign (h : FirstSign signs s before a after) : ¬NoSign signs s := by
  obtain ⟨w, hw, hs⟩ := h.found
  exact fun hno => hno a w hw ⟨before, after, hs.symm⟩

/-- A text has one first sign. -/
theorem FirstSign.unique (hsigns : Distinct signs) {before' after' : Text}
    (h : FirstSign signs s before a after) (h' : FirstSign signs s before' b after') :
    before = before' ∧ a = b ∧ after = after' := by
  obtain ⟨w, hw, hs⟩ := h.found
  obtain ⟨w', hw', hs'⟩ := h'.found
  have hlength : before.length = before'.length :=
    Nat.le_antisymm (h.first _ _ _ _ hw' hs') (h'.first _ _ _ _ hw hs)
  have hsame : before ++ (w ++ after) = before' ++ (w' ++ after') := by
    rw [← List.append_assoc, ← hs, hs', List.append_assoc]
  obtain ⟨rfl, hrest⟩ := List.append_inj hsame hlength
  exact ⟨rfl, hw.unique hsigns hw' h.whole h'.whole hrest⟩

/-- A sign at the start of a text is the first one. -/
theorem firstSign_of_readSign? (h : readSign? signs s = some (a, after)) :
    FirstSign signs s [] a after := by
  obtain ⟨w, hw, hs, hwhole⟩ := exists_isSign_of_readSign? h
  exact ⟨⟨w, hw, hs⟩, hwhole, fun _ _ u _ _ _ => Nat.zero_le u.length⟩

/-- Where no sign can be read, none is written. -/
theorem not_prefix_of_readSign?_eq_none (hsigns : Distinct signs)
    (h : readSign? signs s = none) (hw : IsSign signs a w) : ¬w <+: s := by
  rintro ⟨rest, rfl⟩
  -- All the blanks behind the sign go with it.
  obtain ⟨sign, before, gap, hmem, hbefore, ⟨hne, hgap⟩, rfl⟩ := hw
  have hrun : IsGap (gap ++ rest.takeWhile Text.isBlank) :=
    ⟨by simp [hne], List.forall_mem_append.2 ⟨hgap, List.all_eq_true.1 List.all_takeWhile⟩⟩
  have hread := (readSign?_eq_some_iff hsigns).2 ⟨_, ⟨sign, before, _, hmem, hbefore, hrun, rfl⟩,
    rfl, Text.head?_dropWhile Text.isBlank rest⟩
  have hs : before ++ sign ++ (gap ++ rest.takeWhile Text.isBlank) ++
      rest.dropWhile Text.isBlank = before ++ sign ++ gap ++ rest := by
    simp
  rw [hs, h] at hread
  cases hread

variable {c : Char}

/-- The first sign of a text that does not begin with one is the first one behind its first
    character. -/
theorem FirstSign.cons (hsigns : Distinct signs) (hc : readSign? signs (c :: s) = none)
    (h : FirstSign signs s before a after) : FirstSign signs (c :: s) (c :: before) a after := by
  obtain ⟨w, hw, hs⟩ := h.found
  refine ⟨⟨w, hw, by rw [hs]; rfl⟩, h.whole, fun b w' u v hw' hsplit => ?_⟩
  cases u with
  | nil => exact absurd ⟨v, hsplit.symm⟩ (not_prefix_of_readSign?_eq_none hsigns hc hw')
  | cons d u =>
    obtain ⟨-, hsplit⟩ := List.cons.inj hsplit
    exact Nat.succ_le_succ (h.first _ _ _ _ hw' hsplit)

theorem NoSign.cons (hsigns : Distinct signs) (hc : readSign? signs (c :: s) = none)
    (h : NoSign signs s) : NoSign signs (c :: s) := by
  intro a w hw hinfix
  obtain hprefix | hinfix := List.infix_cons_iff.1 hinfix
  · exact not_prefix_of_readSign?_eq_none hsigns hc hw hprefix
  · exact h a w hw hinfix

theorem noSign_nil : NoSign signs [] := by
  intro a w hw hinfix
  exact hw.ne_nil (List.infix_nil.1 hinfix)

/-- Behind a text without blanks, a sign is the first one. -/
theorem firstSign_of_solid (hsigns : Distinct signs)
    (hbefore : ∀ c ∈ before, Text.isBlank c = false) (hw : IsSign signs a w)
    (hwhole : after.head?.any Text.isBlank = false) :
    FirstSign signs (before ++ w ++ after) before a after := by
  induction before with
  | nil => exact firstSign_of_readSign? ((readSign?_eq_some_iff hsigns).2 ⟨w, hw, rfl, hwhole⟩)
  | cons c before ih =>
    obtain ⟨hc, hbefore⟩ := List.forall_mem_cons.1 hbefore
    have hnone : readSign? signs (c :: (before ++ w ++ after)) = none := by simp [readSign?, hc]
    exact (ih hbefore).cons hsigns hnone

/-! ## Signs on either side of a character -/

/-- Whether a character is neither in a sign nor a blank, so that no sign is written across it. -/
def Apart (signs : List (Text × α)) (c : Char) : Prop :=
  Text.isBlank c = false ∧ ∀ entry ∈ signs, c ∉ entry.1

variable {x : Char} {t u v : Text}

theorem IsSign.not_mem (hx : Apart signs x) (hw : IsSign signs a w) : x ∉ w := by
  obtain ⟨sign, before, gap, hmem, hbefore, hgap, rfl⟩ := hw
  have hblank : ∀ {gap : Text}, IsGap gap → x ∉ gap := by
    intro gap hgap hmem
    simpa [hx.1] using hgap.2 x hmem
  simp only [List.mem_append, not_or]
  exact ⟨⟨hblank hbefore, hx.2 _ hmem⟩, hblank hgap⟩

/-- A sign stands on one side of a character that is apart from all signs. -/
theorem IsSign.beside (hx : Apart signs x) (hw : IsSign signs a w) (h : s ++ x :: t = u ++ w ++ v) :
    (∃ v', s = u ++ w ++ v' ∧ v = v' ++ x :: t) ∨
      ∃ u', u = s ++ x :: u' ∧ t = u' ++ w ++ v := by
  have hmem := hw.not_mem hx
  obtain ⟨r, huw, hrest⟩ | ⟨v', hs, hv⟩ := List.append_eq_append_iff.1 h
  · cases r with
    | nil => exact .inl ⟨[], by simpa using huw.symm, hrest.symm⟩
    | cons d r =>
      obtain ⟨rfl, rfl⟩ := List.cons.inj hrest
      -- The character is not in the sign, so it is before it.
      obtain ⟨b, -, rfl⟩ | ⟨b, hu, hr⟩ := List.append_eq_append_iff.1 huw
      · exact absurd (List.mem_append_right b List.mem_cons_self) hmem
      · cases b with
        | nil =>
          rw [List.nil_append] at hr
          exact absurd (hr ▸ List.mem_cons_self) hmem
        | cons e u' =>
          obtain ⟨rfl, rfl⟩ := List.cons.inj hr
          exact .inr ⟨u', hu, rfl⟩
  · exact .inl ⟨v', hs, hv⟩

theorem NoSign.append (hx : Apart signs x) (hs : NoSign signs s) (ht : NoSign signs t) :
    NoSign signs (s ++ x :: t) := by
  rintro a w hw ⟨u, v, h⟩
  obtain ⟨v', rfl, -⟩ | ⟨u', -, rfl⟩ := hw.beside hx h.symm
  · exact hs a w hw ⟨u, v', rfl⟩
  · exact ht a w hw ⟨u', v, rfl⟩

/-- What stands behind such a character has no part in where the first sign is. -/
theorem FirstSign.append (hx : Apart signs x) (h : FirstSign signs s before a after) (t : Text) :
    FirstSign signs (s ++ x :: t) before a (after ++ x :: t) := by
  obtain ⟨w, hw, rfl⟩ := h.found
  refine ⟨⟨w, hw, by simp⟩, ?_, fun b w' u v hw' hsplit => ?_⟩
  · cases after with
    | nil => exact hx.1
    | cons c after => exact h.whole
  · obtain ⟨v', hs, -⟩ | ⟨u', rfl, -⟩ := hw'.beside hx hsplit
    · exact h.first b w' u v' hw' hs
    · simp only [List.length_append]
      omega

/-- The first sign of a text is the first one behind a text without signs, too, with such a
    character between them. -/
theorem FirstSign.prepend (hx : Apart signs x) (ht : NoSign signs t)
    (h : FirstSign signs s before a after) :
    FirstSign signs (t ++ x :: s) (t ++ x :: before) a after := by
  obtain ⟨w, hw, rfl⟩ := h.found
  refine ⟨⟨w, hw, by simp⟩, h.whole, fun b w' u v hw' hsplit => ?_⟩
  obtain ⟨v', rfl, -⟩ | ⟨u', rfl, hs⟩ := hw'.beside hx hsplit
  · exact absurd ⟨u, v', rfl⟩ (ht b w' hw')
  · have hlength := h.first b w' u' v hw' hs
    simp only [List.length_append, List.length_cons]
    omega

/-- A text that has none of some characters, of which one is in each sign, has no sign. -/
theorem noSign_of_not_mem (h : ∀ entry ∈ signs, ∃ c ∈ entry.1, c ∉ s) : NoSign signs s := by
  rintro a w ⟨sign, before, gap, hmem, -, -, rfl⟩ hinfix
  obtain ⟨c, hc, hs⟩ := h _ hmem
  have hmem : c ∈ s := hinfix.subset (by simp [hc])
  exact hs hmem

end Condition

end EdgeInclude
