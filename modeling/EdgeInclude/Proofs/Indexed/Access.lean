import EdgeInclude.Proofs.Markup.LetterCase
import EdgeInclude.Proofs.Text.Offset

/-!
# Access by position

A program that reads the bytes of a text can go wrong where it reads a byte that is not there, and
where it cuts out a part whose ends are in the wrong order, out of the bytes or inside of a
character. Here are the accesses that can fail in this way. What they yield is said for a text
`u ++ v` at the position where `v` begins: it is what the characters of `v` say. They are the
accesses of the module `parse`, where going wrong is a panic.

The classes of characters that are looked for do not tell the characters outside of ASCII apart.
So it does not matter that each byte of such a character is read as a character of its own.

Results:
* `asChar_cases`: what a byte is read as.
* `AsciiClass.isAt_eq`, `AsciiClass.byteAt_eq`, `AsciiClass.byteBefore_eq`: what a byte says about
  the character that it is of.
* `slice_eq_pure_iff`: a part can be cut out exactly where it is a part of the text.
* `AsciiClass.runEnd_eq`: where a run of bytes ends.
-/

namespace EdgeInclude

namespace Indexed

open Text Utf8

/-- What a program that reads bytes by their positions can do wrong. -/
inductive Fault where
  /-- There is no byte at a position. -/
  | position
  /-- The ends of a part are in the wrong order, out of the bytes, or inside of a character. -/
  | part
  /-- A loop does not come to its end. -/
  | rounds
  deriving DecidableEq

abbrev Bytes := List UInt8

/-- What a program reads, if it does nothing wrong. -/
abbrev Access := Except Fault

/-! ## Accesses -/

/-- The character whose code is a byte. -/
def asChar (b : UInt8) : Char := Char.ofNat b.toNat

/-- The byte at a position. -/
def byteAt (bytes : Bytes) (i : Nat) : Access Char :=
  match bytes[i]? with
  | some b => pure (asChar b)
  | none => throw .position

/-- The byte before a position. -/
def byteBefore (bytes : Bytes) : (i : Nat) → Access Char
  | 0 => throw .position
  | i + 1 => byteAt bytes i

/-- Whether there is a byte of a class at a position. -/
def isAt (p : Char → Bool) (bytes : Bytes) (i : Nat) : Bool := bytes[i]?.any fun b => p (asChar b)

/-- The bytes between two positions. -/
def range (bytes : Bytes) (first last : Nat) : Access Bytes :=
  if first ≤ last ∧ last ≤ bytes.length then pure ((bytes.take last).drop first) else throw .part

/-- Whether a position is the start or the end of bytes, or that of a byte that begins a
    character. -/
def isBoundary (bytes : Bytes) (i : Nat) : Bool :=
  i == 0 || i == bytes.length || bytes[i]?.any (!isContinuation ·)

/-- The bytes between two positions at which characters begin. -/
def slice (bytes : Bytes) (first last : Nat) : Access Bytes :=
  if isBoundary bytes first && isBoundary bytes last then range bytes first last else throw .part

/-- The text between two positions at which characters begin. -/
def part (bytes : Bytes) (first last : Nat) : Access Text := ofUtf8 <$> slice bytes first last

/-- The end of the run of bytes of a class that begins at a position. -/
def runEnd (p : Char → Bool) (bytes : Bytes) (i : Nat) : Access Nat :=
  if i < bytes.length then do
    if p (← byteAt bytes i) then runEnd p bytes (i + 1) else pure i
  else pure i
termination_by bytes.length - i

/-! ## Characters and their bytes -/

variable {s t u v w : Text} {c : Char} {b : UInt8} {p : Char → Bool}

theorem toNat_asChar (b : UInt8) : (asChar b).toNat = b.toNat := by
  have hlt : b.toNat < 256 := b.toNat_lt
  have hvalid : b.toNat.isValidChar := .inl (by omega)
  rw [asChar, Char.ofNat, dif_pos hvalid]
  rfl

theorem utf8EncodeChar_of_ascii (h : c.toNat < 0x80) :
    String.utf8EncodeChar c = [.ofNat c.toNat] := by
  rw [utf8EncodeChar_eq]
  exact if_pos (by omega)

/-- An ASCII character is read from its byte, and no byte of another character is read as one. -/
theorem asChar_cases (h : b ∈ String.utf8EncodeChar c) :
    asChar b = c ∨ 0x80 ≤ (asChar b).toNat ∧ 0x80 ≤ c.toNat := by
  by_cases hascii : c.toNat < 0x80
  · left
    rw [utf8EncodeChar_of_ascii hascii, List.mem_singleton] at h
    rw [h, asChar, toNat_byte (by omega), Char.ofNat_toNat]
  · right
    rw [toNat_asChar]
    have hbyte := of_mem_utf8EncodeChar h
    omega

/-- A class of characters that does not tell the characters outside of ASCII apart. -/
def AsciiClass (p : Char → Bool) : Prop :=
  ∀ c d : Char, 0x80 ≤ c.toNat → 0x80 ≤ d.toNat → p c = p d

theorem asciiClass_of_false (h : ∀ c : Char, p c = true → c.toNat < 0x80) : AsciiClass p := by
  have hfalse : ∀ c : Char, 0x80 ≤ c.toNat → p c = false := by
    intro c hc
    rw [← Bool.not_eq_true]
    exact fun hp => absurd (h c hp) (by omega)
  exact fun c d hc hd => (hfalse c hc).trans (hfalse d hd).symm

theorem AsciiClass.not (hp : AsciiClass p) : AsciiClass (!p ·) :=
  fun c d hc hd => congrArg _ (hp c d hc hd)

theorem asciiClass_beq {a : Char} (ha : a.toNat < 0x80) : AsciiClass (· == a) := by
  refine asciiClass_of_false fun c hc => ?_
  rwa [beq_iff_eq.1 hc]

theorem asciiClass_isAlpha : AsciiClass Char.isAlpha := by
  refine asciiClass_of_false fun c hc => ?_
  rw [isAlpha_iff] at hc
  omega

theorem asciiClass_isNameChar : AsciiClass isNameChar := by
  refine asciiClass_of_false fun c hc => ?_
  simp only [isNameChar, Char.isAlphanum, Bool.or_eq_true, isAlpha_iff, isDigit_iff, beq_iff_eq]
    at hc
  obtain (halpha | hdigit) | rfl := hc
  · omega
  · omega
  · decide

theorem asciiClass_isMarkupSpace : AsciiClass isMarkupSpace := by
  refine asciiClass_of_false fun c hc => ?_
  simp only [isMarkupSpace, Bool.or_eq_true, beq_iff_eq] at hc
  obtain (((rfl | rfl) | rfl) | rfl) | rfl := hc <;> decide

theorem AsciiClass.asChar_eq (hp : AsciiClass p) (h : b ∈ String.utf8EncodeChar c) :
    p (asChar b) = p c := by
  obtain heq | ⟨hb, hc⟩ := asChar_cases h
  · rw [heq]
  · exact hp _ _ hb hc

/-! ## What stands at a position -/

theorem getElem?_byteCount (u v : Text) : (u ++ v).utf8[u.byteCount]? = v.utf8.head? := by
  rw [← List.head?_drop, drop_byteCount]

/-- Where a text goes on, a byte of its next character stands. -/
theorem exists_head?_utf8 (c : Char) (v : Text) :
    ∃ b ∈ String.utf8EncodeChar c, (utf8 (c :: v)).head? = some b := by
  obtain ⟨a, bytes, hc, -⟩ := utf8EncodeChar_eq_cons c
  exact ⟨a, hc ▸ List.mem_cons_self, by rw [utf8_cons, hc, List.cons_append, List.head?_cons]⟩

/-- Where there is a byte, and what is behind it. -/
theorem of_drop_eq_cons {bytes rest : Bytes} {i : Nat} (h : bytes.drop i = b :: rest) :
    bytes[i]? = some b ∧ i < bytes.length ∧ bytes.drop (i + 1) = rest := by
  have hget : bytes[i]? = some b := by
    rw [← List.head?_drop, h]
    rfl
  refine ⟨hget, (List.getElem?_eq_some_iff.1 hget).1, ?_⟩
  rw [← List.tail_drop, h]
  rfl

theorem lt_length_utf8 (u : Text) (c : Char) (v : Text) :
    u.byteCount < (u ++ c :: v).utf8.length := by
  rw [length_utf8, byteCount_append]
  exact Nat.lt_add_of_pos_right (byteCount_pos (List.cons_ne_nil c v))

/-- An ASCII character takes one byte. -/
theorem byteCount_append_singleton (hc : c.toNat < 0x80) (u : Text) :
    byteCount (u ++ [c]) = u.byteCount + 1 := by
  rw [byteCount_append, byteCount_singleton, utf8EncodeChar_of_ascii hc, List.length_singleton]

theorem AsciiClass.isAt_eq (hp : AsciiClass p) (u v : Text) :
    isAt p (u ++ v).utf8 u.byteCount = v.head?.any p := by
  rw [isAt, getElem?_byteCount]
  cases v with
  | nil => rfl
  | cons c v =>
    obtain ⟨b, hb, hhead⟩ := exists_head?_utf8 c v
    rw [hhead]
    exact hp.asChar_eq hb

/-- The byte at the position of a character is read as this character, or both are outside of
    ASCII. -/
theorem exists_byteAt (u : Text) (c : Char) (v : Text) :
    ∃ d, byteAt (u ++ c :: v).utf8 u.byteCount = pure d ∧
      (d = c ∨ 0x80 ≤ d.toNat ∧ 0x80 ≤ c.toNat) := by
  obtain ⟨b, hb, hhead⟩ := exists_head?_utf8 c v
  exact ⟨asChar b, by rw [byteAt, getElem?_byteCount, hhead], asChar_cases hb⟩

theorem AsciiClass.byteAt_eq (hp : AsciiClass p) (u : Text) (c : Char) (v : Text) :
    p <$> byteAt (u ++ c :: v).utf8 u.byteCount = pure (p c) := by
  obtain ⟨d, hbyte, rfl | ⟨hd, hc⟩⟩ := exists_byteAt u c v
  · rw [hbyte, map_pure]
  · rw [hbyte, map_pure, hp d c hd hc]

/-- The byte before a position is of the character before it. -/
theorem AsciiClass.byteBefore_eq (hp : AsciiClass p) (hu : u ≠ []) (v : Text) :
    p <$> byteBefore (u ++ v).utf8 u.byteCount = pure (u.getLast?.any p) := by
  obtain ⟨u, c, rfl⟩ : ∃ front c, u = front ++ [c] := ⟨_, _, (List.dropLast_append_getLast hu).symm⟩
  obtain ⟨a, rest, hc, -⟩ := utf8EncodeChar_eq_cons c
  obtain ⟨front, b, hlast⟩ : ∃ front b, a :: rest = front ++ [b] :=
    ⟨_, _, (List.dropLast_append_getLast (List.cons_ne_nil a rest)).symm⟩
  rw [hlast] at hc
  have hb : b ∈ String.utf8EncodeChar c := by simp [hc]
  have hbytes : utf8 (u ++ [c] ++ v) = (utf8 u ++ front) ++ b :: v.utf8 := by
    rw [List.append_assoc, utf8_append, List.singleton_append, utf8_cons, hc]
    simp
  have hcount : byteCount (u ++ [c]) = (utf8 u ++ front).length + 1 := by
    rw [byteCount, utf8_append, utf8_cons, hc, show utf8 [] = [] from rfl]
    simp only [List.append_nil, List.length_append, List.length_singleton, Nat.add_assoc]
  rw [hbytes, hcount, byteBefore, byteAt, List.getElem?_append_right (Nat.le_refl _), Nat.sub_self,
    List.getElem?_cons_zero, map_pure, hp.asChar_eq hb, List.getLast?_append]
  rfl

/-! ## Parts -/

/-- The positions where a text can be cut. -/
theorem isBoundary_iff {i : Nat} :
    isBoundary s.utf8 i = true ↔ ∃ u v, s = u ++ v ∧ i = u.byteCount := by
  constructor
  · intro h
    simp only [isBoundary, Bool.or_eq_true, beq_iff_eq, or_assoc] at h
    obtain rfl | rfl | hany := h
    · exact ⟨[], s, rfl, rfl⟩
    · exact ⟨s, [], (List.append_nil s).symm, rfl⟩
    · obtain ⟨b, hb, hbegins⟩ := (Option.any_eq_true _ _).1 hany
      rw [← List.head?_drop] at hb
      obtain ⟨rest, hrest⟩ := List.head?_eq_some_iff.1 hb
      exact exists_append_of_drop hrest (by simpa using hbegins)
  · rintro ⟨u, v, rfl, rfl⟩
    cases v with
    | nil => simp [isBoundary, length_utf8]
    | cons c v =>
      obtain ⟨a, bytes, hc, ha, -⟩ := utf8EncodeChar_eq_cons c
      have hget : (u ++ c :: v).utf8[u.byteCount]? = some a := by
        rw [getElem?_byteCount, utf8_cons, hc]
        rfl
      simp [isBoundary, hget, ha]

theorem range_append (u t v : Text) :
    range (u ++ t ++ v).utf8 u.byteCount (u ++ t).byteCount = pure t.utf8 := by
  have hfirst : u.byteCount ≤ (u ++ t).byteCount := by
    rw [byteCount_append]
    exact Nat.le_add_right _ _
  have hlast : (u ++ t).byteCount ≤ (u ++ t ++ v).utf8.length := by
    rw [length_utf8, byteCount_append (u ++ t)]
    exact Nat.le_add_right _ _
  rw [range, if_pos ⟨hfirst, hlast⟩, utf8_append (u ++ t), ← length_utf8 (u ++ t), List.take_left,
    drop_byteCount]

/-- Two cuts of a text, in their order, cut a part out of it. -/
theorem exists_part_of_le {v' : Text} {u' : Text} (h : u ++ v = u' ++ v')
    (hle : u.byteCount ≤ u'.byteCount) : ∃ t, u' = u ++ t ∧ v = t ++ v' := by
  obtain h | ⟨t, rfl, rfl⟩ := List.append_eq_append_iff.1 h
  · exact h
  · have ht : t = [] := by
      by_contra hne
      have hpos := byteCount_pos hne
      rw [byteCount_append] at hle
      omega
    subst ht
    exact ⟨[], by simp, rfl⟩

/-- A part can be cut out of the bytes of a text exactly where it is a part of the text. -/
theorem slice_eq_pure_iff {first last : Nat} {bytes : Bytes} :
    slice s.utf8 first last = pure bytes ↔
      ∃ u t v, s = u ++ t ++ v ∧ first = u.byteCount ∧ last = (u ++ t).byteCount ∧
        bytes = t.utf8 := by
  constructor
  · intro h
    unfold slice at h
    split at h
    · next hboundary =>
      obtain ⟨hfirst, hlast⟩ := Bool.and_eq_true_iff.1 hboundary
      obtain ⟨u, w, rfl, rfl⟩ := isBoundary_iff.1 hfirst
      obtain ⟨u', v, hs, rfl⟩ := isBoundary_iff.1 hlast
      have hle : u.byteCount ≤ u'.byteCount := by
        unfold range at h
        split at h
        · next hrange => exact hrange.1
        · cases h
      obtain ⟨t, rfl, rfl⟩ := exists_part_of_le hs hle
      rw [← List.append_assoc, range_append] at h
      cases h
      exact ⟨u, t, v, (List.append_assoc _ _ _).symm, rfl, rfl, rfl⟩
    · cases h
  · rintro ⟨u, t, v, rfl, rfl, rfl, rfl⟩
    have hfirst := isBoundary_iff.2 ⟨u, t ++ v, List.append_assoc u t v, rfl⟩
    have hlast := isBoundary_iff.2 ⟨u ++ t, v, rfl, rfl⟩
    rw [slice, hfirst, hlast]
    exact range_append u t v

/-- A part of a text is cut out of its bytes. -/
theorem part_eq {first last : Nat} (hs : s = u ++ t ++ v) (hfirst : first = u.byteCount)
    (hlast : last = (u ++ t).byteCount) : part s.utf8 first last = pure t := by
  rw [part, slice_eq_pure_iff.2 ⟨u, t, v, hs, hfirst, hlast, rfl⟩, map_pure, ofUtf8_utf8]

/-- In the middle of a character a text cannot be cut. -/
example : slice (utf8 ['é']) 1 2 = .error .part := by decide

theorem part_rest (u v : Text) : part (u ++ v).utf8 u.byteCount (u ++ v).utf8.length = pure v :=
  part_eq (List.append_nil _).symm rfl rfl

/-! ## Runs -/

theorem runEnd_eq_length (p : Char → Bool) (bytes : Bytes) (i : Nat) :
    runEnd p bytes i = pure (i + ((bytes.drop i).takeWhile fun b => p (asChar b)).length) := by
  fun_induction runEnd p bytes i with
  | case1 i hi ih =>
    have hget : bytes[i]? = some bytes[i] := List.getElem?_eq_getElem hi
    rw [byteAt, hget, List.drop_eq_getElem_cons hi, List.takeWhile_cons, pure_bind]
    split
    · rw [ih, List.length_cons]
      congr 1
      omega
    · rfl
  | case2 i hi => rw [List.drop_eq_nil_of_le (by omega)]; rfl

theorem takeWhile_utf8 (hp : AsciiClass p) (s : Text) :
    s.utf8.takeWhile (fun b => p (asChar b)) = utf8 (s.takeWhile p) := by
  induction s with
  | nil => rfl
  | cons c s ih =>
    rw [utf8_cons, List.takeWhile_cons]
    split
    · next hc =>
      rw [List.takeWhile_append_of_pos fun b hb => (hp.asChar_eq hb).trans hc, ih, utf8_cons]
    · next hc =>
      obtain ⟨a, bytes, hbytes, -⟩ := utf8EncodeChar_eq_cons c
      have ha : p (asChar a) = p c := hp.asChar_eq (hbytes ▸ List.mem_cons_self)
      rw [hbytes, List.cons_append, List.takeWhile_cons, if_neg (by rwa [ha])]
      rfl

/-- A run of bytes is that of the characters. -/
theorem AsciiClass.runEnd_eq (hp : AsciiClass p) (u v : Text) :
    runEnd p (u ++ v).utf8 u.byteCount = pure (byteCount (u ++ v.takeWhile p)) := by
  rw [runEnd_eq_length, drop_byteCount, takeWhile_utf8 hp, length_utf8, byteCount_append]

end Indexed

end EdgeInclude
