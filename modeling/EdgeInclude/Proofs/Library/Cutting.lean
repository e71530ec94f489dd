import EdgeInclude.Library.Standard

/-!
# Parts of texts by position

What the library function `substr` cuts out of a text. A position is counted from the start of
the text, or from its end if it is negative, and one outside of the text is moved to its nearer
end. This is the place where a part without a length begins. A part that leaves out the last
characters is the text between this place and the place where these begin, whichever comes first.
A part of a given length begins at this place too, except that a position in front of the text is
not moved to its start but counted from its end once more.

Results:
* `substrFrom_eq`: the part from a position on.
* `substrOf_of_nonpos`, `substrOf_of_pos`: the part of a length, and when there is none.
* `substr_with_length`: all of it, against the part from the same position on.
-/

namespace EdgeInclude

namespace Library

/-! ## Steps in range -/

theorem checked_of_inRange {n : Int} (h : Integer.InRange n) : checked n = .ok n := if_pos h

theorem slice_of_le {s : Text} {first last : Int} (hfirst : 0 ≤ first) (hle : first ≤ last)
    (hlast : last ≤ s.length) :
    slice s first last = .ok ((s.take last.toNat).drop first.toNat) :=
  if_pos ⟨hfirst, hle, hlast⟩

/-! ## Places -/

/-- The place in a text of the given length that a position stands for: a negative one is
    counted from the end, and what is outside of the text is moved to its nearer end. -/
def place (length i : Int) : Int := if 0 ≤ i then min i length else max 0 (length + i)

theorem place_nonneg {length : Int} (h : 0 ≤ length) (i : Int) : 0 ≤ place length i := by
  unfold place
  split <;> omega

theorem place_le {length : Int} (h : 0 ≤ length) (i : Int) : place length i ≤ length := by
  unfold place
  split <;> omega

/-- Where a part of a given length begins: a position in front of the text is counted from its
    end once more. -/
def cutStart (length i : Int) : Int :=
  if 0 ≤ i then min i length
  else if -length ≤ i then length + i
  else max 0 (2 * length + i)

theorem cutStart_of_le {length i : Int} (h : -length ≤ i) : cutStart length i = place length i := by
  unfold cutStart place
  split
  · rfl
  · rw [Int.max_eq_right (by omega)]

/-- A part of a given length begins at the place of the position counted from the start, which
    is itself counted from the end if it is negative. -/
theorem cutStart_eq_place (length i : Int) :
    cutStart length i = place length (if 0 ≤ i then i else length + i) := by
  unfold cutStart place
  by_cases hi : 0 ≤ i
  · simp only [if_pos hi]
  · by_cases hle : -length ≤ i
    · rw [if_neg hi, if_pos hle, if_neg hi, if_pos (by omega), Int.min_eq_left (by omega)]
    · rw [if_neg hi, if_neg hle, if_neg hi, if_neg (by omega)]
      omega

theorem fromEnd_eq {length i : Int} (h : 0 ≤ length) (hlength : Integer.InRange length)
    (hi : Integer.InRange i) : fromEnd length i = .ok (place length i) := by
  unfold Integer.InRange at hlength hi
  unfold fromEnd place
  by_cases hneg : i < 0
  · have hsum : Integer.InRange (length + i) := ⟨by omega, by omega⟩
    rw [if_pos hneg, checked_of_inRange hsum, if_neg (by omega), Int.max_comm]
    rfl
  · rw [if_neg hneg, if_pos (by omega)]
    rfl

/-- A position counted from the start is in range, however far in front of the text it is. -/
theorem inRange_start {length i : Int} (h : 0 ≤ length) (hlength : Integer.InRange length)
    (hi : Integer.InRange i) : Integer.InRange (if 0 ≤ i then i else length + i) := by
  unfold Integer.InRange at hlength hi ⊢
  split <;> omega

theorem fromStart_eq {length i : Int} (h : 0 ≤ length) (hlength : Integer.InRange length)
    (hi : Integer.InRange i) :
    fromStart length i = .ok (if 0 ≤ i then i else length + i) := by
  have hstart := inRange_start h hlength hi
  unfold fromStart
  by_cases hpos : 0 ≤ i
  · rw [if_pos hpos, if_pos hpos]
  · rw [if_neg hpos] at hstart ⊢
    rw [if_neg hpos, checked_of_inRange hstart]

/-! ## Parts -/

variable {s : Text} {i j : Int}

/-- The part of a text from a position on. -/
theorem substrFrom_eq (hs : Integer.InRange s.length) (hi : Integer.InRange i) :
    substrFrom s i = .ok (s.drop (place s.length i).toNat) := by
  have hlength : (0 : Int) ≤ s.length := Int.natCast_nonneg _
  unfold substrFrom
  rw [fromEnd_eq hlength hs hi]
  show slice s (place s.length i) s.length = _
  rw [slice_of_le (place_nonneg hlength i) (place_le hlength i) (Int.le_refl _), Int.toNat_natCast,
    List.take_length]

/-- The part of a text without its last characters lies between two places. -/
theorem substrOf_of_nonpos (hs : Integer.InRange s.length) (hi : Integer.InRange i)
    (hj : Integer.InRange j) (h : j ≤ 0) :
    let first := place s.length i
    let last := max 0 (s.length + j)
    substrOf s i j = .ok ((s.take (max first last).toNat).drop (min first last).toNat) := by
  intro first last
  have hlength : (0 : Int) ≤ s.length := Int.natCast_nonneg _
  have hfirst : clamp 0 s.length (if 0 ≤ i then i else s.length + i) = first := by
    unfold clamp first place
    split <;> omega
  have hlast : clamp 0 s.length (s.length + j) = last := by
    unfold clamp last
    omega
  have hstop : Integer.InRange (s.length + j) := by
    unfold Integer.InRange at hs hj ⊢
    omega
  have hle : first ≤ s.length := place_le hlength i
  have hnonneg : 0 ≤ first := place_nonneg hlength i
  unfold substrOf
  rw [fromStart_eq hlength hs hi]
  show (if j ≤ 0 then _ else _) = _
  rw [if_pos h, checked_of_inRange hstop]
  show slice s (min (clamp 0 s.length _) (clamp 0 s.length _))
    (max (clamp 0 s.length _) (clamp 0 s.length _)) = _
  rw [hfirst, hlast]
  exact slice_of_le (by omega) (by omega) (by omega)

/-- The part of a text of a given length, unless its end would be out of range. -/
theorem substrOf_of_pos (hs : Integer.InRange s.length) (hi : Integer.InRange i) (h : 0 < j) :
    substrOf s i j =
      if Integer.InRange (cutStart s.length i + j) then
        .ok ((s.drop (cutStart s.length i).toNat).take j.toNat)
      else .error (.fault .overflow) := by
  have hlength : (0 : Int) ≤ s.length := Int.natCast_nonneg _
  unfold substrOf
  rw [fromStart_eq hlength hs hi]
  show (if j ≤ 0 then _ else _) = _
  rw [if_neg (by omega), fromEnd_eq hlength hs (inRange_start hlength hs hi), ← cutStart_eq_place]
  have hnonneg : 0 ≤ cutStart s.length i := by
    rw [cutStart_eq_place]
    exact place_nonneg hlength _
  have hle : cutStart s.length i ≤ s.length := by
    rw [cutStart_eq_place]
    exact place_le hlength _
  generalize cutStart s.length i = start at hnonneg hle ⊢
  show (checked (start + j) >>= fun stop => slice s start (min stop s.length)) = _
  unfold checked
  split
  · show slice s start (min (start + j) s.length) = _
    rw [slice_of_le hnonneg (by omega) (by omega), List.drop_take, Except.ok.injEq,
      List.take_eq_take_iff, List.length_drop]
    omega
  · rfl

/-! ## The library function -/

theorem substr_pair {a : Value} {i : Int64} (ha : integerArg "substr" a = .ok i) (v : Value) :
    substr [v, a] = (substrFrom v.display i.toInt).map .string := by
  rw [substr, ha]
  show (substrFrom v.display i.toInt >>= fun part => .ok (Value.string part)) = _
  cases substrFrom v.display i.toInt <;> rfl

theorem substr_triple {a b : Value} {i j : Int64} (ha : integerArg "substr" a = .ok i)
    (hb : integerArg "substr" b = .ok j) (v : Value) :
    substr [v, a, b] = (substrOf v.display i.toInt j.toInt).map .string := by
  rw [substr, ha, hb]
  show (substrOf v.display i.toInt j.toInt >>= fun part => .ok (Value.string part)) = _
  cases substrOf v.display i.toInt j.toInt <;> rfl

/-- A part of a given length begins at a place that is counted from the end twice for a position in
    front of the text. -/
theorem substr_of_pos {i j : Int64} (hs : Integer.InRange s.length) (hj : 0 < j.toInt)
    (hstop : Integer.InRange (cutStart s.length i.toInt + j.toInt)) :
    substr [.string s, .integer i, .integer j] =
      .ok (.string ((s.drop (cutStart s.length i.toInt).toNat).take j.toInt.natAbs)) := by
  have hcount : j.toInt.toNat = j.toInt.natAbs := by omega
  rw [substr_triple rfl rfl, Value.display, substrOf_of_pos hs (Integer.inRange_toInt i) hj, if_pos hstop,
    hcount]
  rfl

/-- A part without the last characters lies between its beginning and theirs, in whichever order
    these stand in the text. -/
theorem substr_of_nonpos {i j : Int64} (hs : Integer.InRange s.length) (hj : j.toInt ≤ 0) :
    let start := (place s.length i.toInt).toNat
    let stop := s.length - j.toInt.natAbs
    substr [.string s, .integer i, .integer j] =
      .ok (.string ((s.take (max start stop)).drop (min start stop))) := by
  intro start stop
  have hstart : place s.length i.toInt = start :=
    (Int.toNat_of_nonneg (place_nonneg (Int.natCast_nonneg _) _)).symm
  have hstop : max 0 ((s.length : Int) + j.toInt) = stop := by omega
  have hmax : (max (start : Int) stop).toNat = max start stop := by omega
  have hmin : (min (start : Int) stop).toNat = min start stop := by omega
  rw [substr_triple rfl rfl, Value.display,
    substrOf_of_nonpos hs (Integer.inRange_toInt i) (Integer.inRange_toInt j) hj, hstart, hstop, hmax, hmin]
  rfl

/-- For a text of which the length is an integer of 64 bits, a position and a length, let `t` be
    the part from the position on and `front` what is in front of it. If the end of the part is in
    range:

    * The part without a length is `t`.
    * If the length is positive and the position not in front of the text, the part of this length
      is the start of `t`, and all of `t` if this is shorter.
    * If the length is positive and the position is in front of the text, the part begins where the
      position lies when it is counted from the end twice.
    * If the length is not positive, the part is `t` without that many characters at its end.
    * If `t` does not have that many, the part is not empty: it is the end of `front`, with as many
      characters as `t` lacks. -/
theorem substr_with_length (s : Text) (i j : Int64) (hs : Integer.InRange s.length)
    (hstop : 0 < j.toInt → Integer.InRange (cutStart s.length i.toInt + j.toInt)) :
    let start := (place s.length i.toInt).toNat
    let t := s.drop start
    let front := s.take start
    let n := j.toInt.natAbs
    let part := substr [.string s, .integer i, .integer j]
    substr [.string s, .integer i] = .ok (.string t) ∧
      (0 < j.toInt → -s.length ≤ i.toInt → part = .ok (.string (t.take (min n t.length)))) ∧
      (0 < j.toInt → i.toInt < -s.length →
        part = .ok (.string ((s.drop (2 * s.length + i.toInt).toNat).take n))) ∧
      (j.toInt ≤ 0 → n ≤ t.length → part = .ok (.string (t.take (t.length - n)))) ∧
      (j.toInt ≤ 0 → t.length < n →
        part = .ok (.string (front.drop (front.length - (n - t.length))))) := by
  intro start t front n part
  have hle : start ≤ s.length := by
    have hplace := place_le (Int.natCast_nonneg s.length) i.toInt
    omega
  have ht : t.length = s.length - start := List.length_drop
  have hfront : front.length = start := by
    rw [List.length_take, Nat.min_eq_left hle]
  refine ⟨?_, fun h hin => ?_, fun h hout => ?_, fun h hn => ?_, fun h hn => ?_⟩
  · rw [substr_pair rfl, Value.display, substrFrom_eq hs (Integer.inRange_toInt i)]
    rfl
  · show substr _ = _
    rw [substr_of_pos hs h (hstop h), cutStart_of_le hin, ← List.take_eq_take_min]
  · have hstart : cutStart s.length i.toInt = max 0 (2 * s.length + i.toInt) := by
      rw [cutStart, if_neg (by omega), if_neg (by omega)]
    have hcut : (cutStart s.length i.toInt).toNat = (2 * s.length + i.toInt).toNat := by omega
    show substr _ = _
    rw [substr_of_pos hs h (hstop h), hcut]
  · have hstop : s.length - n - start = t.length - n := by omega
    show substr _ = _
    rw [substr_of_nonpos hs h, Nat.max_eq_right (by omega), Nat.min_eq_left (by omega),
      List.drop_take, hstop]
  · have hstop : s.length - n = front.length - (n - t.length) := by omega
    show substr _ = _
    rw [substr_of_nonpos hs h, Nat.max_eq_left (by omega), Nat.min_eq_right (by omega), hstop]

/-- A position and a length inside of a text. -/
theorem substr_with_length_inside :
    let s := "abcdef".toList
    Integer.InRange s.length ∧ Integer.InRange (cutStart s.length (-3) + 2) ∧
      substr [.string s, .integer (-3)] = .ok (.string "def".toList) ∧
      substr [.string s, .integer (-3), .integer 2] = .ok (.string "de".toList) := by
  intro s
  have hs : Integer.InRange s.length := by decide
  have hstop : Integer.InRange (cutStart s.length (-3) + 2) := by decide
  obtain ⟨hrest, hpart, -⟩ := substr_with_length s (-3) 2 hs fun _ => hstop
  exact ⟨hs, hstop, hrest, hpart (by decide) (by decide)⟩

/-- Two parts that are not cut out of the part from the same position on: one whose position is in
    front of the text, and one that is to leave out more than there is from its position on. -/
theorem substr_with_length_outside :
    let s := "abcdef".toList
    (substr [.string s, .integer (-7)] = .ok (.string s) ∧
      substr [.string s, .integer (-7), .integer 2] = .ok (.string "f".toList) ∧
      "f".toList ≠ s.take (min 2 s.length)) ∧
    (substr [.string s, .integer 4] = .ok (.string "ef".toList) ∧
      substr [.string s, .integer 4, .integer (-4)] = .ok (.string "cd".toList) ∧
      "cd".toList ≠ "ef".toList.take ("ef".toList.length - min 4 "ef".toList.length)) :=
  ⟨⟨rfl, rfl, by decide⟩, rfl, rfl, by decide⟩

end Library

end EdgeInclude
