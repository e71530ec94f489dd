import EdgeInclude.Proofs.Indexed.Search

/-!
# Start tags by position

The end of a start tag is looked for byte by byte, where a quote begins a value if the byte before
it is an equals sign. The bytes of a character outside of ASCII neither begin nor end anything, so
what is found is the position of the character at which the start tag ends.

A model by position of `parse::find_tag_end`.

Results:
* `tagEndFrom_append`: bytes outside of ASCII are passed over.
* `tagEnd_eq`: where a start tag ends.
-/

namespace EdgeInclude

namespace Indexed

open Text Utf8

/-- Whether a character is one of the quotes of values. -/
def isQuote (c : Char) : Bool := c == '"' || c == '\''

/-- Whether a quoted value begins with the given character at a position. -/
def beginsValue (bytes : Bytes) (i : Nat) (c : Char) : Access Bool :=
  if isQuote c && decide (0 < i) then (· == '=') <$> byteBefore bytes i else pure false

/-- The position of the `>` that ends a start tag, from the position `i` of the given bytes on,
    where a value in the given quotes is open. -/
def tagEndFrom (bytes : Bytes) : (quote : Option Char) → (i : Nat) → Bytes → Access (Option Nat)
  | _, _, [] => pure none
  | some q, i, b :: rest =>
    tagEndFrom bytes (if asChar b = q then none else some q) (i + 1) rest
  | none, i, b :: rest => do
    if ← beginsValue bytes i (asChar b) then tagEndFrom bytes (some (asChar b)) (i + 1) rest
    else if asChar b = '>' then pure (some i)
    else tagEndFrom bytes none (i + 1) rest

/-- The position of the `>` that ends a start tag, from a position on (`parse::find_tag_end`). -/
def tagEnd (bytes : Bytes) (i : Nat) : Access (Option Nat) := tagEndFrom bytes none i (bytes.drop i)

variable {u v : Text} {c : Char}

/-- Whether a name goes on at a position. -/
theorem isAt_isNameChar_eq (u v : Text) :
    isAt isNameChar (u ++ v).utf8 u.byteCount = Tag.continuesName v := by
  rw [asciiClass_isNameChar.isAt_eq]
  cases v <;> rfl

/-- Bytes outside of ASCII neither begin nor end anything. -/
theorem tagEndFrom_append {front : Bytes} (hfront : ∀ b ∈ front, 0x80 ≤ (asChar b).toNat)
    {quote : Option Char} (hquote : ∀ q ∈ quote, q.toNat < 0x80) (bytes : Bytes) (i : Nat)
    (rest : Bytes) :
    tagEndFrom bytes quote i (front ++ rest) = tagEndFrom bytes quote (i + front.length) rest := by
  induction front generalizing i with
  | nil => rfl
  | cons b front ih =>
    obtain ⟨hb, hfront⟩ := List.forall_mem_cons.1 hfront
    have hne : ∀ a : Char, a.toNat < 0x80 → asChar b ≠ a := by
      rintro a ha rfl
      omega
    have hnext : i + (b :: front).length = i + 1 + front.length := by
      rw [List.length_cons]
      omega
    rw [hnext, ← ih hfront, List.cons_append]
    cases quote with
    | some q => rw [tagEndFrom, if_neg (hne q (hquote q rfl))]
    | none =>
      have hnot : isQuote (asChar b) = false := by
        simp [isQuote, hne '"' (by decide), hne '\'' (by decide)]
      rw [tagEndFrom, beginsValue, hnot, Bool.false_and, if_neg Bool.false_ne_true, pure_bind,
        if_neg Bool.false_ne_true, if_neg (hne '>' (by decide))]

theorem beginsValue_eq (c : Char) (u v : Text) :
    beginsValue (u ++ v).utf8 u.byteCount c = pure (u.getLast?.any (· == '=') && isQuote c) := by
  unfold beginsValue
  cases hquote : isQuote c with
  | false => simp
  | true =>
    cases u with
    | nil => rfl
    | cons d u =>
      rw [decide_eq_true (byteCount_pos (List.cons_ne_nil d u)), Bool.true_and, if_pos rfl,
        (asciiClass_beq (by decide)).byteBefore_eq (List.cons_ne_nil d u), Bool.and_true]

/-- The quotes of an open value that reading a character leaves. -/
theorem ascii_quoteStep {quote : Option Char} (hquote : ∀ q ∈ quote, q.toNat < 0x80)
    (hc : c.toNat < 0x80) (afterEquals : Bool) :
    ∀ q ∈ (Tag.quoteStep (quote, afterEquals) c).1, q.toNat < 0x80 := by
  cases quote with
  | some q =>
    rw [Tag.quoteStep]
    split
    · simp
    · exact hquote
  | none =>
    rw [Tag.quoteStep]
    split
    · simpa using hc
    · simp

/-- Characters outside of ASCII neither begin nor end a value. -/
theorem quoteStep_of_not_ascii {quote : Option Char} (hquote : ∀ q ∈ quote, q.toNat < 0x80)
    (hc : 0x80 ≤ c.toNat) (afterEquals : Bool) :
    (Tag.quoteStep (quote, afterEquals) c).1 = quote := by
  have hne : ∀ a : Char, a.toNat < 0x80 → c ≠ a := by
    rintro a ha rfl
    omega
  cases quote with
  | some q => rw [Tag.quoteStep, if_neg (hne q (hquote q rfl))]
  | none => simp [Tag.quoteStep, hne '"' (by decide), hne '\'' (by decide)]

theorem quoteStep_snd (state : Option Char × Bool) (c : Char) :
    (Tag.quoteStep state c).2 = (c == '=') := by
  obtain ⟨_ | q, afterEquals⟩ := state <;> rfl

/-- What the byte of an ASCII character does. -/
theorem tagEndFrom_cons {b : UInt8} (hb : asChar b = c) (quote : Option Char) (u v : Text)
    (rest : Bytes) :
    tagEndFrom (u ++ v).utf8 quote u.byteCount (b :: rest) =
      if quote = none ∧ c = '>' then pure (some u.byteCount)
      else
        tagEndFrom (u ++ v).utf8 (Tag.quoteStep (quote, u.getLast?.any (· == '=')) c).1
          (u.byteCount + 1) rest := by
  cases quote with
  | some q =>
    rw [tagEndFrom, hb, Tag.quoteStep]
    exact (if_neg fun h => absurd h.1 (by simp)).symm
  | none =>
    rw [tagEndFrom, hb, beginsValue_eq, pure_bind, Tag.quoteStep]
    rw [isQuote]
    by_cases hbegins : (u.getLast?.any (· == '=') && (c == '"' || c == '\'')) = true
    · have hgt : c ≠ '>' := by
        rintro rfl
        simp at hbegins
      rw [if_pos hbegins, if_neg fun h => hgt h.2]
      dsimp only
      rw [if_pos hbegins]
    · rw [if_neg hbegins]
      dsimp only
      rw [if_neg hbegins]
      simp

/-- A start tag ends at the character at which it ends. -/
theorem tagEndFrom_eq {quote : Option Char} (hquote : ∀ q ∈ quote, q.toNat < 0x80) (u v : Text) :
    tagEndFrom (u ++ v).utf8 quote u.byteCount v.utf8 =
      pure ((Tag.splitStart quote (u.getLast?.any (· == '=')) v).map fun cut =>
        byteCount (u ++ cut.1)) := by
  induction v generalizing u quote with
  | nil => cases quote <;> rfl
  | cons c v ih =>
    have hnext : ∀ {quote : Option Char}, (∀ q ∈ quote, q.toNat < 0x80) →
        tagEndFrom (u ++ c :: v).utf8 quote (byteCount (u ++ [c])) (utf8 v) =
          pure (((Tag.splitStart quote (c == '=') v).map fun cut => (c :: cut.1, cut.2)).map
            fun cut => byteCount (u ++ cut.1)) := by
      intro quote hquote
      have hstep := ih hquote (u ++ [c])
      rw [List.append_assoc, List.singleton_append, List.getLast?_append] at hstep
      rw [hstep, Option.map_map]
      congr 2
      funext cut
      simp
    rw [byteCount_append, byteCount_singleton] at hnext
    rw [Tag.splitStart_cons, utf8_cons]
    -- an ASCII character is one byte that may do something; the bytes of any other one do nothing
    by_cases hc : c.toNat < 0x80
    · rw [utf8EncodeChar_of_ascii hc] at hnext ⊢
      have hasChar : asChar (.ofNat c.toNat) = c := by
        rw [asChar, toNat_byte (by omega), Char.ofNat_toNat]
      rw [List.singleton_append, tagEndFrom_cons hasChar]
      split
      · simp
      · dsimp only
        rw [quoteStep_snd]
        exact hnext (ascii_quoteStep hquote hc _)
    · have hbytes : ∀ b ∈ String.utf8EncodeChar c, 0x80 ≤ (asChar b).toNat := by
        intro b hb
        obtain rfl | ⟨hb, -⟩ := asChar_cases hb
        · omega
        · exact hb
      have hgt : c ≠ '>' := by
        rintro rfl
        exact hc (by decide)
      rw [tagEndFrom_append hbytes hquote, hnext hquote, if_neg (by simp [hgt])]
      dsimp only
      rw [quoteStep_of_not_ascii hquote (by omega), quoteStep_snd]

/-- A start tag that does not follow an equals sign ends at the character at which it ends. -/
theorem tagEnd_eq (hu : u.getLast? ≠ some '=') (v : Text) :
    tagEnd (u ++ v).utf8 u.byteCount =
      pure ((Tag.splitStart none false v).map fun cut => byteCount (u ++ cut.1)) := by
  have hequals : u.getLast?.any (· == '=') = false := by
    rw [← Bool.not_eq_true, Option.any_eq_true]
    rintro ⟨c, hlast, hc⟩
    rw [hlast, beq_iff_eq.1 hc] at hu
    exact hu rfl
  rw [tagEnd, drop_byteCount, tagEndFrom_eq (by simp), hequals]

end Indexed

end EdgeInclude
