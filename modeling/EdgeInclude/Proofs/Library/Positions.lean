import EdgeInclude.Proofs.Library.Faults
import EdgeInclude.Proofs.Text.Offset
import EdgeInclude.Proofs.Text.Parts
import Mathlib.Order.Bounds.Image

/-!
# Positions of texts

Where the library functions `index` and `rindex` find a text in another one: at the least and at
the greatest position at which it stands, counted in characters. Places may overlap. The part of
the text from such a position on, of the length that `len` gives, is what was looked for. A search
in bytes would end at the same places, since the bytes of a text begin with those of a character.

Results:
* `isLeast_of_firstPosition?`, `isGreatest_of_lastPosition?`: what the two searches find.
* `standsAtByte_iff`: the bytes of a text stand where the text does.
* `index_rindex_substr`: the library functions agree with each other.
-/

namespace EdgeInclude

namespace Text

/-! ## Where a text stands -/

/-- Whether a text stands at a position of another one, counted in characters. -/
def StandsAt (needle s : Text) (k : ℕ) : Prop := k ≤ s.length ∧ needle <+: s.drop k

/-- Whether the bytes of a text stand at an offset in those of another one. -/
def StandsAtByte (needle s : Text) (o : ℕ) : Prop := needle.utf8 <+: s.utf8.drop o

variable {needle s : Text} {k o : ℕ} {c : Char}

theorem standsAt_zero_iff : StandsAt needle s 0 ↔ after? needle s ≠ none := by
  rw [StandsAt, List.drop_zero, Option.ne_none_iff_exists']
  simp only [after?_eq_some_iff, Nat.zero_le, true_and]
  exact exists_congr fun _ => eq_comm

theorem standsAt_succ_iff : StandsAt needle (c :: s) (k + 1) ↔ StandsAt needle s k := by
  rw [StandsAt, StandsAt, List.length_cons, List.drop_succ_cons, Nat.add_le_add_iff_right]

theorem infix_iff_standsAt : needle <:+: s ↔ ∃ k, StandsAt needle s k := by
  constructor
  · rintro ⟨u, v, rfl⟩
    refine ⟨u.length, by simp only [List.length_append]; omega, ?_⟩
    rw [List.append_assoc, List.drop_left]
    exact List.prefix_append _ _
  · rintro ⟨k, -, h⟩
    exact h.isInfix.trans (List.drop_suffix _ _).isInfix

/-- The part of a text at a position at which another one stands. -/
theorem StandsAt.take_drop (h : StandsAt needle s k) : (s.drop k).take needle.length = needle :=
  (List.prefix_iff_eq_take.1 h.2).symm

theorem StandsAt.length_le (h : StandsAt needle s k) : k + needle.length ≤ s.length := by
  have hle := h.2.length_le
  rw [List.length_drop] at hle
  have := h.1
  omega

/-- The bytes of a text stand where the text does, and nowhere inside of a character. -/
theorem standsAtByte_iff (hne : needle ≠ []) :
    StandsAtByte needle s o ↔ ∃ k, StandsAt needle s k ∧ byteCount (s.take k) = o := by
  rw [StandsAtByte, utf8_prefix_drop_iff hne]
  constructor
  · rintro ⟨u, v, rfl, rfl, h⟩
    refine ⟨u.length, ⟨by simp, ?_⟩, ?_⟩
    · rwa [List.drop_left]
    · rw [List.take_left]
  · rintro ⟨k, h, rfl⟩
    exact ⟨s.take k, s.drop k, (List.take_append_drop k s).symm, rfl, h.2⟩

theorem monotone_byteCount_take (s : Text) : Monotone fun k => byteCount (s.take k) := by
  intro k m hkm
  dsimp only
  rw [← List.take_append_drop k (s.take m), List.take_take, Nat.min_eq_left hkm, byteCount_append]
  exact Nat.le_add_right _ _

theorem setOf_standsAtByte (hne : needle ≠ []) :
    {o | StandsAtByte needle s o} = (fun k => byteCount (s.take k)) '' {k | StandsAt needle s k} :=
  Set.ext fun _ => standsAtByte_iff hne

/-! ## Searching -/

theorem firstPosition?_cons : firstPosition? needle (c :: s) =
    if after? needle (c :: s) = none then (firstPosition? needle s).map (· + 1) else some 0 := by
  rw [firstPosition?, splitFirst]
  cases after? needle (c :: s) with
  | some rest => rfl
  | none =>
    rw [if_pos rfl, firstPosition?, Option.map_map, Option.map_map]
    rfl

theorem isLeast_zero (h : after? needle s ≠ none) : IsLeast {k | StandsAt needle s k} 0 :=
  ⟨standsAt_zero_iff.2 h, fun _ _ => Nat.zero_le _⟩

/-- The first position that is found is the least one. -/
theorem isLeast_of_firstPosition? (h : firstPosition? needle s = some k) :
    IsLeast {k | StandsAt needle s k} k := by
  induction s generalizing k with
  | nil =>
    obtain ⟨⟨before, rest⟩, hsplit, rfl⟩ := Option.map_eq_some_iff.1 h
    obtain ⟨tail, hafter, heq⟩ := Option.map_eq_some_iff.1 hsplit
    obtain ⟨rfl, -⟩ := Prod.mk.inj heq
    exact isLeast_zero (by simp [hafter])
  | cons c s ih =>
    rw [firstPosition?_cons] at h
    split at h
    · next hafter =>
      obtain ⟨j, hj, rfl⟩ := Option.map_eq_some_iff.1 h
      obtain ⟨hstands, hleast⟩ := ih hj
      refine ⟨standsAt_succ_iff.2 hstands, fun m hm => ?_⟩
      cases m with
      | zero => exact absurd hafter (standsAt_zero_iff.1 hm)
      | succ m => exact Nat.succ_le_succ (hleast (standsAt_succ_iff.1 hm))
    · next hafter =>
      obtain rfl := Option.some.inj h
      exact isLeast_zero hafter

/-- Where no first position is found, there is none. -/
theorem not_standsAt_of_firstPosition? (h : firstPosition? needle s = none) (k : ℕ) :
    ¬StandsAt needle s k := by
  induction s generalizing k with
  | nil =>
    have hafter : after? needle [] = none := by
      simpa only [firstPosition?, splitFirst, Option.map_eq_none_iff] using h
    rintro hstands
    obtain rfl : k = 0 := Nat.le_zero.1 hstands.1
    exact standsAt_zero_iff.1 hstands hafter
  | cons c s ih =>
    rw [firstPosition?_cons] at h
    split at h
    · next hafter =>
      cases k with
      | zero => exact fun hstands => standsAt_zero_iff.1 hstands hafter
      | succ k => exact mt standsAt_succ_iff.1 (ih (Option.map_eq_none_iff.1 h) k)
    · cases h

/-- Whether anything is found does not depend on from which end it is looked for. -/
theorem lastPosition?_eq_none_iff :
    lastPosition? needle s = none ↔ firstPosition? needle s = none := by
  induction s with
  | nil =>
    rw [lastPosition?, firstPosition?, splitFirst]
    cases after? needle [] <;> simp
  | cons c s ih =>
    rw [lastPosition?, firstPosition?_cons]
    cases hlast : lastPosition? needle s with
    | none =>
      rw [ih.1 hlast]
      cases after? needle (c :: s) <;> simp
    | some m =>
      have hfirst : firstPosition? needle s ≠ none := by simp [← ih, hlast]
      by_cases hafter : after? needle (c :: s) = none <;> simp [hafter, hfirst]

/-- The last position that is found is the greatest one. -/
theorem isGreatest_of_lastPosition? (h : lastPosition? needle s = some k) :
    IsGreatest {k | StandsAt needle s k} k := by
  induction s generalizing k with
  | nil =>
    rw [lastPosition?] at h
    split at h
    · next hafter =>
      obtain rfl := Option.some.inj h
      exact ⟨standsAt_zero_iff.2 (Option.isSome_iff_ne_none.1 hafter), fun m hm => hm.1⟩
    · cases h
  | cons c s ih =>
    rw [lastPosition?] at h
    split at h
    · next m hm =>
      obtain rfl := Option.some.inj h
      obtain ⟨hstands, hgreatest⟩ := ih hm
      refine ⟨standsAt_succ_iff.2 hstands, fun j hj => ?_⟩
      cases j with
      | zero => exact Nat.zero_le _
      | succ j => exact Nat.succ_le_succ (hgreatest (standsAt_succ_iff.1 hj))
    · next hlast =>
      split at h
      · next hafter =>
        obtain rfl := Option.some.inj h
        refine ⟨standsAt_zero_iff.2 (Option.isSome_iff_ne_none.1 hafter), fun j hj => ?_⟩
        cases j with
        | zero => exact Nat.le_refl 0
        | succ j =>
          have hnone := not_standsAt_of_firstPosition? (lastPosition?_eq_none_iff.1 hlast) j
          exact absurd (standsAt_succ_iff.1 hj) hnone
      · cases h

end Text

namespace Library

open Text

variable {s needle : Text} {k : ℕ}

/-! ## Positions as integers -/

/-- A number of characters of a text as an integer. -/
theorem exists_integer (hs : Integer.InRange s.length) (hk : k ≤ s.length) :
    ∃ n : Int64, n.toInt = k ∧ checkedInteger k = .ok (.integer n) := by
  have hn : (Int64.ofInt k).toInt = k := by
    unfold Integer.InRange at hs
    exact Int64.toInt_ofInt_of_le (by omega) (by omega)
  refine ⟨_, hn, ?_⟩
  rw [← checkedInteger_toInt, hn]

theorem position_some (hk : k ≤ s.length) :
    position s (some k) = checkedInteger k := by
  have hslice : slice s 0 k = .ok (s.take k) := by
    rw [slice_of_le (Int.le_refl 0) (by omega) (by omega), Int.toNat_natCast]
    rfl
  have hlength : (s.take k).length = k := by rw [List.length_take, Nat.min_eq_left hk]
  simp only [position, hslice, bind, Except.bind, hlength]

/-- A text is the part of another one from a position on at which it stands, of its own length. -/
theorem substr_of_standsAt (hs : Integer.InRange s.length) (hne : needle ≠ []) {i j : Int64}
    (hstands : StandsAt needle s k) (hi : i.toInt = k) (hj : j.toInt = needle.length) :
    substr [.string s, .integer i, .integer j] = .ok (.string needle) := by
  have hle := hstands.length_le
  have hpos : 0 < needle.length := List.length_pos_iff.2 hne
  have hstart : cutStart s.length i.toInt = k := by
    rw [cutStart, if_pos (by omega)]
    omega
  have hstop : Integer.InRange (cutStart s.length i.toInt + j.toInt) := by
    unfold Integer.InRange at hs ⊢
    rw [hstart]
    omega
  rw [substr_of_pos hs (by omega) hstop, hstart, hj, Int.toNat_natCast, Int.natAbs_natCast,
    hstands.take_drop]

/-! ## The library functions -/

/-- For a text of which the length is an integer of 64 bits, and every other text that is not
    empty: `index` and `rindex` both give an integer, which is -1 exactly if the second text does
    not occur in the first one. If it occurs, they give the least and the greatest position at
    which it stands, counted in characters. The number of bytes in front of these positions is the
    least and the greatest offset at which its bytes stand. And for either position, `substr` with
    the length that `len` gives cuts out the second text. -/
theorem index_rindex_substr (s needle : Text) (hs : Integer.InRange s.length) (hne : needle ≠ []) :
    ∃ first last : Int64,
      index [.string s, .string needle] = .ok (.integer first) ∧
      rindex [.string s, .string needle] = .ok (.integer last) ∧
      (first = -1 ↔ ¬needle <:+: s) ∧ (last = -1 ↔ ¬needle <:+: s) ∧
      (needle <:+: s → 0 ≤ first ∧ first ≤ last ∧ ∃ k m : ℕ,
        first.toInt = k ∧ IsLeast {k | StandsAt needle s k} k ∧
        last.toInt = m ∧ IsGreatest {k | StandsAt needle s k} m ∧
        IsLeast {o | StandsAtByte needle s o} (byteCount (s.take k)) ∧
        IsGreatest {o | StandsAtByte needle s o} (byteCount (s.take m)) ∧
        ∃ size, len [.string needle] = .ok size ∧
          substr [.string s, .integer first, size] = .ok (.string needle) ∧
          substr [.string s, .integer last, size] = .ok (.string needle)) := by
  have hindex : index [.string s, .string needle] = position s (firstPosition? needle s) := rfl
  have hrindex : rindex [.string s, .string needle] = position s (lastPosition? needle s) := rfl
  rw [hindex, hrindex]
  cases hfirst : firstPosition? needle s with
  | none =>
    have hnone : ¬needle <:+: s := by
      rw [infix_iff_standsAt]
      rintro ⟨k, hk⟩
      exact not_standsAt_of_firstPosition? hfirst k hk
    rw [lastPosition?_eq_none_iff.2 hfirst]
    exact ⟨-1, -1, rfl, rfl, iff_of_true rfl hnone, iff_of_true rfl hnone,
      fun hin => absurd hin hnone⟩
  | some k =>
    have hleast := isLeast_of_firstPosition? hfirst
    have hfound : lastPosition? needle s ≠ none := by simp [lastPosition?_eq_none_iff, hfirst]
    obtain ⟨m, hlast⟩ := Option.ne_none_iff_exists'.1 hfound
    have hgreatest := isGreatest_of_lastPosition? hlast
    have hin : needle <:+: s := infix_iff_standsAt.2 ⟨k, hleast.1⟩
    obtain ⟨first, hk, hfirstInteger⟩ := exists_integer hs hleast.1.1
    obtain ⟨last, hm, hlastInteger⟩ := exists_integer hs hgreatest.1.1
    obtain ⟨size, hsize, hlen⟩ := exists_integer hs hin.length_le
    have hnonneg : ∀ {n : Int64} {p : ℕ}, n.toInt = p → n ≠ -1 := by
      rintro _ p hp rfl
      have hminus : (-1 : Int64).toInt = -1 := rfl
      omega
    rw [hlast, position_some hleast.1.1, position_some hgreatest.1.1]
    refine ⟨first, last, hfirstInteger, hlastInteger, iff_of_false (hnonneg hk) (not_not.2 hin),
      iff_of_false (hnonneg hm) (not_not.2 hin), fun _ => ⟨?_, ?_, k, m, hk, hleast, hm, hgreatest,
        ?_, ?_, .integer size, hlen, ?_, ?_⟩⟩
    · rw [Int64.le_iff_toInt_le, hk]
      exact Int.natCast_nonneg k
    · rw [Int64.le_iff_toInt_le, hk, hm]
      exact Int.ofNat_le.2 (hleast.2 hgreatest.1)
    · rw [setOf_standsAtByte hne]
      exact (monotone_byteCount_take s).map_isLeast hleast
    · rw [setOf_standsAtByte hne]
      exact (monotone_byteCount_take s).map_isGreatest hgreatest
    · exact substr_of_standsAt hs hne hleast.1 hk hsize
    · exact substr_of_standsAt hs hne hgreatest.1 hm hsize

/-- A text that occurs at overlapping places, with characters of two, three and four bytes. -/
theorem index_rindex_substr_overlapping :
    let s := "€é😀é😀é!".toList
    let needle := "é😀é".toList
    Integer.InRange s.length ∧ needle ≠ [] ∧ needle <:+: s ∧
      index [.string s, .string needle] = .ok (.integer 1) ∧
      rindex [.string s, .string needle] = .ok (.integer 3) ∧
      IsLeast {k | StandsAt needle s k} 1 ∧ IsGreatest {k | StandsAt needle s k} 3 := by
  intro s needle
  have hs : Integer.InRange s.length := by decide
  have hne : needle ≠ [] := by decide
  have hin : needle <:+: s := ⟨"€".toList, "😀é!".toList, rfl⟩
  have hfirstPosition : firstPosition? needle s = some 1 := by decide
  have hlastPosition : lastPosition? needle s = some 3 := by decide
  have hindex : index [.string s, .string needle] = .ok (.integer 1) := by
    show position s (firstPosition? needle s) = _
    rw [hfirstPosition, position_some (by decide)]
    rfl
  have hrindex : rindex [.string s, .string needle] = .ok (.integer 3) := by
    show position s (lastPosition? needle s) = _
    rw [hlastPosition, position_some (by decide)]
    rfl
  obtain ⟨first, last, hfirst, hlast, -, -, hfound⟩ := index_rindex_substr s needle hs hne
  obtain ⟨-, -, k, m, hk, hleast, hm, hgreatest, -⟩ := hfound hin
  obtain rfl : (1 : Int64) = first := by
    rw [hindex] at hfirst
    cases hfirst
    rfl
  obtain rfl : (3 : Int64) = last := by
    rw [hrindex] at hlast
    cases hlast
    rfl
  obtain rfl : 1 = k := Int.ofNat_inj.1 hk
  obtain rfl : 3 = m := Int.ofNat_inj.1 hm
  exact ⟨hs, hne, hin, hindex, hrindex, hleast, hgreatest⟩

end Library

end EdgeInclude
