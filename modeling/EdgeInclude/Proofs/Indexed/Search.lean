import EdgeInclude.Proofs.Indexed.Access

/-!
# Searches by position

Searching the bytes of a text for those of another one, exactly or in any letter case. The searches
step from byte to byte, so also through the inside of characters. But the first byte of what is
looked for begins a character, so it is found nowhere but where a character begins, and there the
bytes agree where the characters do.

A model by position of `parse::starts_with_ignore_case` and `parse::find_ignore_case`.

Results:
* `Spots.search_cons`: such a search goes on character by character.
* `spots_opens`, `spots_isPrefixOf`: the searches for the bytes of a text are such searches.
* `search_mark`: a mark is found at its first place.
-/

namespace EdgeInclude

namespace Indexed

open Text Utf8

/-! ## Searches -/

/-- A byte that is a capital letter as the small one. -/
def lowerByte (b : UInt8) : UInt8 := if 65 ≤ b.toNat ∧ b.toNat ≤ 90 then b + 32 else b

/-- Equality of bytes up to the case of ASCII letters. -/
def sameBytes (as bs : Bytes) : Bool := as.map lowerByte == bs.map lowerByte

/-- Whether bytes begin with `lead`, up to the case of ASCII letters
    (`parse::starts_with_ignore_case`). -/
def startsAnyCase (bytes lead : Bytes) : Access Bool :=
  if lead.length ≤ bytes.length then do
    pure (sameBytes (← range bytes 0 lead.length) lead)
  else pure false

/-- Whether the first bytes, as many as `lead` has, are those of `lead` up to the case of ASCII
    letters. -/
def opens (lead bytes : Bytes) : Bool :=
  decide (lead.length ≤ bytes.length) && sameBytes (bytes.take lead.length) lead

/-- The number of bytes before the first place of which `starts` holds. -/
def find (starts : Bytes → Bool) : Bytes → Option Nat
  | [] => none
  | b :: bs => if starts (b :: bs) then some 0 else (find starts bs).map (· + 1)

/-- The first position from `cursor` on of which `starts` holds (`parse::find_ignore_case` and
    `str::find`). -/
def search (starts : Bytes → Bool) (bytes : Bytes) (cursor : Nat) : Access (Option Nat) := do
  let rest ← slice bytes cursor bytes.length
  pure ((find starts rest).map (cursor + ·))

variable {s u v : Text} {c : Char} {b : UInt8}

/-! ## Places of texts -/

/-- Searches for bytes that are searches for characters: `starts` holds at the bytes of the texts
    that `holds` holds of, and nowhere inside of a character. -/
structure Spots (starts : Bytes → Bool) (holds : Text → Bool) : Prop where
  agrees : ∀ s : Text, starts s.utf8 = holds s
  apart : ∀ b bytes, isContinuation b = true → starts (b :: bytes) = false

section

variable {starts : Bytes → Bool} {holds : Text → Bool}

theorem Spots.find_append (h : Spots starts holds) {front : Bytes}
    (hfront : ∀ b ∈ front, isContinuation b = true) (bytes : Bytes) :
    find starts (front ++ bytes) = (find starts bytes).map (front.length + ·) := by
  induction front with
  | nil => simp
  | cons b front ih =>
    obtain ⟨hb, hfront⟩ := List.forall_mem_cons.1 hfront
    rw [List.cons_append, find, h.apart _ _ hb, if_neg Bool.false_ne_true, ih hfront,
      Option.map_map]
    congr 1
    funext n
    simp only [Function.comp_apply, List.length_cons]
    omega

theorem search_eq (starts : Bytes → Bool) (u v : Text) :
    search starts (u ++ v).utf8 u.byteCount =
      pure ((find starts v.utf8).map (u.byteCount + ·)) := by
  have hslice : slice (u ++ v).utf8 u.byteCount (u ++ v).utf8.length = pure v.utf8 :=
    slice_eq_pure_iff.2 ⟨u, v, [], (List.append_nil _).symm, rfl, rfl, rfl⟩
  rw [search, hslice, pure_bind]

theorem search_nil (starts : Bytes → Bool) (u : Text) :
    search starts u.utf8 u.byteCount = pure none := by
  have hsearch := search_eq starts u []
  rwa [List.append_nil] at hsearch

/-- A search stops at a character, or goes on behind it. -/
theorem Spots.search_cons (h : Spots starts holds) (u : Text) (c : Char) (v : Text) :
    search starts (u ++ c :: v).utf8 u.byteCount =
      if holds (c :: v) then pure (some u.byteCount)
      else search starts (u ++ c :: v).utf8 (byteCount (u ++ [c])) := by
  obtain ⟨a, rest, hc, -, hrest⟩ := utf8EncodeChar_eq_cons c
  have hbytes : utf8 (c :: v) = a :: (rest ++ v.utf8) := by
    rw [utf8_cons, hc, List.cons_append]
  have hcount : byteCount (u ++ [c]) = u.byteCount + (rest.length + 1) := by
    rw [byteCount_append, byteCount_singleton, hc, List.length_cons]
  have hnext := search_eq starts (u ++ [c]) v
  rw [List.append_assoc, List.singleton_append] at hnext
  rw [search_eq, hnext, hbytes, find, ← hbytes, h.agrees]
  split
  · rfl
  · rw [h.find_append hrest, hcount, Option.map_map, Option.map_map]
    congr 2
    funext n
    simp only [Function.comp_apply]
    omega

end

/-! ## Openers -/

theorem map_lowerByte_utf8EncodeChar (c : Char) :
    (String.utf8EncodeChar c).map lowerByte = String.utf8EncodeChar c.toLower := by
  by_cases hascii : c.toNat < 0x80
  · have hlower : c.toLower.toNat < 0x80 := by
      rw [toNat_toLower]
      split <;> omega
    rw [utf8EncodeChar_of_ascii hascii, utf8EncodeChar_of_ascii hlower, List.map_singleton,
      lowerByte, toNat_byte (by omega), toNat_toLower]
    split
    · rw [UInt8.ofNat_add]
      rfl
    · rfl
  · obtain hlower | ⟨habsurd, -⟩ := toLower_cases c
    · rw [hlower]
      refine (List.map_congr_left fun b hb => ?_).trans (List.map_id _)
      have hbyte := of_mem_utf8EncodeChar hb
      rw [lowerByte, if_neg (by omega)]
      rfl
    · exact absurd habsurd hascii

/-- Making the letters of a text small can be done on its bytes. -/
theorem map_lowerByte_utf8 (s : Text) : s.utf8.map lowerByte = (caseless s).utf8 := by
  induction s with
  | nil => rfl
  | cons c s ih =>
    rw [utf8_cons, List.map_append, map_lowerByte_utf8EncodeChar, ih, caseless_cons, utf8_cons]

theorem opens_iff {lead bytes : Bytes} :
    opens lead bytes = true ↔ lead.map lowerByte <+: bytes.map lowerByte := by
  rw [opens, sameBytes, Bool.and_eq_true, decide_eq_true_eq, beq_iff_eq, List.map_take,
    List.prefix_iff_eq_take, List.length_map, eq_comm, and_iff_right_of_imp]
  intro h
  have hlength := congrArg List.length h
  simp only [List.length_take, List.length_map] at hlength
  omega

theorem isSome_afterAnyCase?_iff {lead s : Text} :
    (afterAnyCase? lead s).isSome = true ↔ caseless lead <+: caseless s := by
  rw [Option.isSome_iff_ne_none]
  induction lead generalizing s with
  | nil => simp [afterAnyCase?, afterPrefix?]
  | cons p ps ih =>
    cases s with
    | nil => simp [afterAnyCase?, afterPrefix?]
    | cons c cs =>
      rw [afterAnyCase?_cons_ne_none, ih, caseless_cons, caseless_cons, List.cons_prefix_cons,
        sameLetter, beq_iff_eq]

/-- The bytes of a text begin with those of another one in any letter case where the text begins
    with it. -/
theorem opens_utf8 (lead s : Text) : opens lead.utf8 s.utf8 = (afterAnyCase? lead s).isSome := by
  rw [Bool.eq_iff_iff, opens_iff, isSome_afterAnyCase?_iff, map_lowerByte_utf8, map_lowerByte_utf8,
    utf8_prefix_iff]

theorem startsAnyCase_eq (bytes lead : Bytes) :
    startsAnyCase bytes lead = pure (opens lead bytes) := by
  unfold startsAnyCase opens
  split
  · next hle =>
    rw [range, if_pos ⟨Nat.zero_le _, hle⟩, List.drop_zero, pure_bind, decide_eq_true hle,
      Bool.true_and]
  · next hle => rw [decide_eq_false hle, Bool.false_and]

theorem isContinuation_lowerByte (b : UInt8) : isContinuation (lowerByte b) = isContinuation b := by
  unfold lowerByte
  split
  · next h =>
    have hsum : (b + 32).toNat = b.toNat + 32 := by
      rw [UInt8.toNat_add]
      show (b.toNat + 32) % 2 ^ 8 = _
      omega
    rw [isContinuation, isContinuation, hsum, decide_eq_false (by omega),
      decide_eq_false (by omega)]
  · rfl

/-- The bytes of a text are found at first bytes only, also without regard to letter case. -/
theorem spots_opens {lead : Text} (hne : lead ≠ []) :
    Spots (opens lead.utf8) fun s => (afterAnyCase? lead s).isSome where
  agrees := opens_utf8 lead
  apart := by
    intro b bytes hb
    rw [← Bool.not_eq_true, opens_iff]
    intro hprefix
    obtain ⟨c, cs, rfl⟩ := List.exists_cons_of_ne_nil hne
    obtain ⟨a, rest, hc, ha, -⟩ := utf8EncodeChar_eq_cons c
    rw [utf8_cons, hc, List.cons_append, List.map_cons, List.map_cons, List.cons_prefix_cons]
      at hprefix
    rw [← isContinuation_lowerByte, ← hprefix.1, isContinuation_lowerByte, ha] at hb
    cases hb

theorem spots_isPrefixOf {mark : Text} (hne : mark ≠ []) :
    Spots (mark.utf8.isPrefixOf ·) fun s => (after? mark s).isSome where
  agrees := by
    intro s
    rw [Bool.eq_iff_iff, List.isPrefixOf_iff_prefix, utf8_prefix_iff, Option.isSome_iff_exists]
    simp only [after?_eq_some_iff]
    exact ⟨fun ⟨rest, h⟩ => ⟨rest, h.symm⟩, fun ⟨rest, h⟩ => ⟨rest, h.symm⟩⟩
  apart := by
    intro b bytes hb
    rw [← Bool.not_eq_true, List.isPrefixOf_iff_prefix]
    intro hprefix
    obtain ⟨c, cs, rfl⟩ := List.exists_cons_of_ne_nil hne
    obtain ⟨a, rest, hc, ha, -⟩ := utf8EncodeChar_eq_cons c
    rw [utf8_cons, hc, List.cons_append, List.cons_prefix_cons] at hprefix
    rw [← hprefix.1, ha] at hb
    cases hb

/-- A mark is found where its first place is. -/
theorem search_mark {mark : Text} (hne : mark ≠ []) (u v : Text) :
    search (mark.utf8.isPrefixOf ·) (u ++ v).utf8 u.byteCount =
      pure ((splitFirst mark v).map fun cut => byteCount (u ++ cut.1)) := by
  induction v generalizing u with
  | nil =>
    obtain ⟨c, cs, rfl⟩ := List.exists_cons_of_ne_nil hne
    rw [List.append_nil, search_nil]
    rfl
  | cons c v ih =>
    rw [(spots_isPrefixOf hne).search_cons, splitFirst]
    cases hmark : after? mark (c :: v) with
    | some rest => simp
    | none =>
      have hnext := ih (u ++ [c])
      rw [List.append_assoc, List.singleton_append] at hnext
      rw [if_neg (by simp), hnext]
      cases splitFirst mark v <;> simp

end Indexed

end EdgeInclude
