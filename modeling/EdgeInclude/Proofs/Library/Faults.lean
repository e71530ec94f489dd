import EdgeInclude.Proofs.Library.Cutting
import EdgeInclude.Proofs.Library.Integers

/-!
# Faults of the standard functions

The standard functions compute with integers of 64 bits, cut texts, remove items from lists and
divide. Each of these steps can be a fault. For whatever values that fit into memory, they are in
range, with one exception: the end of a part of a text, which is the sum of the place where the
part begins and of its length, can lie beyond the greatest integer.

Results:
* `safe_of_mem`: no standard function but `substr` ever faults.
* `substr_eq_fault_iff`: when `substr` does.
* `call_standard`: what a call of the standard library can come to.
-/

namespace EdgeInclude

/-- Whether the sizes of a value are integers of 64 bits: the length of the text that it is shown
    as, and the number of its items or entries. All that is held in memory is like this. -/
structure Value.Fits (v : Value) : Prop where
  display : Integer.InRange v.display.length
  items : ∀ items, v = .list items → Integer.InRange items.length
  entries : ∀ entries, v = .dictionary entries → Integer.InRange entries.length

namespace Text

variable {needle s : Text} {n : Nat}

theorem firstPosition?_le (h : firstPosition? needle s = some n) : n ≤ s.length := by
  obtain ⟨⟨before, rest⟩, hsplit, rfl⟩ := Option.map_eq_some_iff.1 h
  rw [eq_append_of_splitFirst hsplit, List.append_assoc, List.length_append]
  exact Nat.le_add_right _ _

theorem lastPosition?_le (h : lastPosition? needle s = some n) : n ≤ s.length := by
  induction s generalizing n with
  | nil =>
    rw [lastPosition?] at h
    split at h
    · cases h
      exact Nat.le_refl 0
    · cases h
  | cons c cs ih =>
    rw [lastPosition?] at h
    split at h
    · next m hm =>
      cases h
      exact Nat.succ_le_succ (ih hm)
    · split at h
      · cases h
        exact Nat.zero_le _
      · cases h

end Text

namespace Library

/-! ## Steps without faults -/

/-- Whether a computation comes to its end without a fault, with a result or refused. -/
def Faultless {α : Type} (r : Except CallError α) : Prop := ∀ f, r ≠ .error (.fault f)

section

variable {α β : Type}

theorem faultless_ok (a : α) : Faultless (.ok a) := nofun

theorem faultless_refused (message : Text) :
    Faultless (.error (.refused message) : Except CallError α) := nofun

theorem Faultless.bind {x : Except CallError α} {g : α → Except CallError β} (hx : Faultless x)
    (hg : ∀ a, x = .ok a → Faultless (g a)) : Faultless (x >>= g) := by
  intro f h
  cases x with
  | error e =>
    have he : e = .fault f := Except.error.inj h
    exact hx f (he ▸ rfl)
  | ok a => exact hg a rfl f h

end

theorem faultless_wrongCount (name : String) : Faultless (wrongCount name) := faultless_refused _

theorem faultless_integerArg (name : String) (v : Value) : Faultless (integerArg name v) := by
  unfold integerArg
  split
  · exact faultless_ok _
  · split
    · exact faultless_ok _
    · exact faultless_refused _
  · exact faultless_refused _

theorem faultless_checkedInteger {n : Int} (h : Integer.InRange n) :
    Faultless (checkedInteger n) := by
  rw [checkedInteger, checked_of_inRange h]
  exact faultless_ok _

theorem faultless_remainder (n : Nat) {m : Nat} (h : m ≠ 0) : Faultless (remainder n m) := by
  rw [remainder, if_neg h]
  exact faultless_ok _

/-- A remainder is smaller than what it was divided by. -/
theorem faultless_checkedInteger_remainder {n m k : Nat} (hm : (m : Int) < 0x8000000000000000)
    (h : remainder n m = .ok k) : Faultless (checkedInteger k) := by
  rw [remainder] at h
  split at h
  · cases h
  · next hne =>
    cases h
    have hlt : n % m < m := Nat.mod_lt n (Nat.pos_of_ne_zero hne)
    exact faultless_checkedInteger ⟨by omega, by omega⟩

theorem faultless_position {s : Text} {place : Option Nat} (hs : Integer.InRange s.length)
    (h : ∀ n, place = some n → n ≤ s.length) : Faultless (position s place) := by
  cases place with
  | none => exact faultless_ok _
  | some n =>
    have hn : n ≤ s.length := h n rfl
    have hlength : (s.take n).length = n := by rw [List.length_take, Nat.min_eq_left hn]
    have hin : Integer.InRange (s.take n).length := by
      unfold Integer.InRange at hs ⊢
      omega
    have hslice : slice s 0 n = .ok (s.take n) :=
      slice_of_le (Int.le_refl 0) (Int.natCast_nonneg n) (Int.ofNat_le.2 hn)
    have hfront : Faultless (slice s 0 n) := hslice ▸ faultless_ok _
    refine hfront.bind fun front h => ?_
    obtain rfl : s.take n = front := Except.ok.inj (hslice.symm.trans h)
    exact faultless_checkedInteger hin

/-! ## Functions without faults -/

/-- Whether a function never faults. -/
def Safe (function : Function) : Prop :=
  ∀ args, (∀ v ∈ args, v.Fits) → Faultless (function args)

theorem safe_textFunction (name : String) (f : Text → Text) : Safe (textFunction name f) := by
  intro args _
  unfold textFunction
  split
  · exact faultless_ok _
  · exact faultless_wrongCount _

theorem safe_constant (name : String) (value : Text) : Safe (constant name value) := by
  intro args _
  unfold constant
  split
  · exact faultless_ok _
  · exact faultless_wrongCount _

theorem safe_replace : Safe replace := by
  intro args _
  unfold replace
  split
  · exact faultless_ok _
  · exact faultless_ok _
  · exact faultless_refused _
  · exact faultless_wrongCount _

theorem safe_join : Safe join := by
  intro args _
  unfold join
  split
  · exact faultless_ok _
  · exact faultless_ok _
  · exact faultless_refused _
  · exact faultless_refused _
  · exact faultless_wrongCount _

theorem safe_index : Safe index := by
  intro args hargs
  unfold index
  split
  · next s needle =>
    exact faultless_position (hargs s List.mem_cons_self).display fun _ => Text.firstPosition?_le
  · exact faultless_wrongCount _

theorem safe_rindex : Safe rindex := by
  intro args hargs
  unfold rindex
  split
  · next s needle =>
    exact faultless_position (hargs s List.mem_cons_self).display fun _ => Text.lastPosition?_le
  · exact faultless_wrongCount _

theorem digitsOrZero_bounds (digits : Text) :
    0 ≤ digitsOrZero digits ∧ digitsOrZero digits < 0x8000000000000000 := by
  unfold digitsOrZero
  split
  · next n hn =>
    obtain ⟨m, -, hm⟩ := Option.bind_eq_some_iff.1 hn
    have hvalue : (m : Int) = n.toInt := Integer.ofInt?_eq_some_iff.1 hm
    have hlt : n.toInt < 0x8000000000000000 := n.toInt_lt
    omega
  · decide

theorem safe_int : Safe int := by
  intro args _
  unfold int
  split
  · exact faultless_ok _
  · next v _ _ =>
    rw [leadingInteger_eq]
    have hbounds := digitsOrZero_bounds (signedDigits v.display).2
    generalize digitsOrZero (signedDigits v.display).2 = n at hbounds ⊢
    obtain hsign | hsign := signedDigits_sign v.display <;> rw [hsign]
    · exact faultless_checkedInteger ⟨by omega, by omega⟩
    · exact faultless_checkedInteger ⟨by omega, by omega⟩
  · exact faultless_wrongCount _

theorem safe_len : Safe len := by
  intro args hargs
  unfold len
  split
  · next s => exact faultless_checkedInteger (hargs (.string s) List.mem_cons_self).display
  · next items =>
    exact faultless_checkedInteger ((hargs (.list items) List.mem_cons_self).items items rfl)
  · next entries =>
    exact faultless_checkedInteger
      ((hargs (.dictionary entries) List.mem_cons_self).entries entries rfl)
  · exact faultless_ok _
  · exact faultless_wrongCount _

theorem safe_rand (word : UInt64) : Safe (rand word) := by
  intro args hargs
  unfold rand
  split
  · exact (faultless_remainder _ (by decide)).bind fun n hn =>
      faultless_checkedInteger_remainder (by decide) hn
  · next v =>
    refine (faultless_integerArg "rand" v).bind fun ceiling _ => ?_
    split
    · exact faultless_ok _
    · next hpos =>
      have hlt : ceiling.toInt < 0x8000000000000000 := ceiling.toInt_lt
      exact (faultless_remainder _ (by omega)).bind fun n hn =>
        faultless_checkedInteger_remainder (by omega) hn
  · exact faultless_wrongCount _

theorem safe_listDelete : Safe listDelete := by
  intro args hargs
  unfold listDelete
  split
  · next items v =>
    refine (faultless_integerArg "list_delitem" v).bind fun i _ => ?_
    split
    · next hi =>
      rw [remove, if_pos (by omega)]
      exact faultless_ok _
    · exact faultless_ok _
  · exact faultless_refused _
  · exact faultless_wrongCount _

/-! ## Parts of texts -/

/-- Whether a part of a text, given by a position and a length, ends beyond the greatest
    integer. -/
def EndsBeyond (s : Text) (i j : Int64) : Prop :=
  0 < j.toInt ∧ 0x7FFFFFFFFFFFFFFF < cutStart s.length i.toInt + j.toInt

theorem substrOf_eq_fault_iff {s : Text} (hs : Integer.InRange s.length) {i j : Int64}
    {f : Fault} :
    substrOf s i.toInt j.toInt = .error (.fault f) ↔ f = .overflow ∧ EndsBeyond s i j := by
  have hi : Integer.InRange i.toInt := Integer.inRange_toInt i
  have hj : Integer.InRange j.toInt := Integer.inRange_toInt j
  unfold EndsBeyond
  by_cases hpos : 0 < j.toInt
  · have hstart : 0 ≤ cutStart s.length i.toInt := by
      rw [cutStart_eq_place]
      exact place_nonneg (Int.natCast_nonneg _) _
    rw [substrOf_of_pos hs hi hpos]
    split
    · next hin =>
      have hlt : cutStart s.length i.toInt + j.toInt < 0x8000000000000000 := hin.2
      exact ⟨nofun, fun h => absurd h.2.2 (by omega)⟩
    · next hout =>
      have hlt : 0x7FFFFFFFFFFFFFFF < cutStart s.length i.toInt + j.toInt := by
        unfold Integer.InRange at hout
        omega
      exact ⟨fun h => by cases h; exact ⟨rfl, hpos, hlt⟩, fun h => h.1 ▸ rfl⟩
  · rw [substrOf_of_nonpos hs hi hj (by omega)]
    exact ⟨nofun, fun h => absurd h.2.1 hpos⟩

theorem substr_pair_faultless {v : Value} (hv : v.Fits) (a : Value) : Faultless (substr [v, a]) :=
  (faultless_integerArg "substr" a).bind fun i _ => by
    rw [substrFrom_eq hv.display (Integer.inRange_toInt i)]
    exact faultless_ok _

theorem substr_triple_eq_fault_iff {v a b : Value} (hv : v.Fits) {f : Fault} :
    substr [v, a, b] = .error (.fault f) ↔
      f = .overflow ∧ ∃ i j, a.IsInteger i ∧ b.IsInteger j ∧ EndsBeyond v.display i j := by
  simp only [← @integerArg_eq_ok_iff _ "substr"]
  cases ha : integerArg "substr" a with
  | error e =>
    have hnot : e ≠ .fault f := fun he => faultless_integerArg "substr" a f (he ▸ ha)
    rw [substr, ha]
    constructor
    · intro h
      exact absurd (Except.error.inj h) hnot
    · rintro ⟨-, _, _, hi, -⟩
      cases hi
  | ok i =>
    cases hb : integerArg "substr" b with
    | error e =>
      have hnot : e ≠ .fault f := fun he => faultless_integerArg "substr" b f (he ▸ hb)
      rw [substr, ha, hb]
      constructor
      · intro h
        exact absurd (Except.error.inj h) hnot
      · rintro ⟨-, _, _, -, hj, -⟩
        cases hj
    | ok j =>
      have hmap : (substrOf v.display i.toInt j.toInt).map Value.string = .error (.fault f) ↔
          substrOf v.display i.toInt j.toInt = .error (.fault f) := by
        cases substrOf v.display i.toInt j.toInt <;> simp [Except.map]
      rw [substr_triple ha hb, hmap, substrOf_eq_fault_iff hv.display]
      constructor
      · rintro ⟨hf, hends⟩
        exact ⟨hf, i, j, rfl, rfl, hends⟩
      · rintro ⟨hf, _, _, hi, hj, hends⟩
        cases hi
        cases hj
        exact ⟨hf, hends⟩

/-! ## The library -/

/-- No standard function but one ever faults. -/
theorem safe_of_mem (word : UInt64) :
    ∀ entry ∈ (standard word).entries, entry.1 = "substr".toList ∨ Safe entry.2 := by
  simp only [standard, List.forall_mem_cons]
  exact ⟨.inr (safe_textFunction _ _), .inr (safe_textFunction _ _), .inr (safe_textFunction _ _),
    .inr (safe_textFunction _ _), .inr (safe_textFunction _ _), .inr (safe_textFunction _ _),
    .inr (safe_textFunction _ _), .inr safe_replace, .inr safe_join, .inr safe_index,
    .inr safe_rindex, .inl trivial, .inr (safe_constant _ _), .inr (safe_constant _ _),
    .inr (safe_constant _ _), .inr safe_int, .inr (safe_textFunction _ _), .inr safe_len,
    .inr safe_listDelete, .inr (safe_rand word), nofun⟩

/-- Whether a call is one of `substr` for a part of a text that ends beyond the greatest
    integer. -/
def AsksBeyond (name : Text) (args : List Value) : Prop :=
  name = "substr".toList ∧ ∃ (v a b : Value) (i j : Int64), args = [v, a, b] ∧ a.IsInteger i ∧
    b.IsInteger j ∧ EndsBeyond v.display i j

theorem substr_eq_fault_iff {args : List Value} (hargs : ∀ v ∈ args, v.Fits) {f : Fault} :
    substr args = .error (.fault f) ↔ f = .overflow ∧ AsksBeyond "substr".toList args := by
  unfold AsksBeyond
  match args, hargs with
  | [], _ => exact ⟨nofun, nofun⟩
  | [_], _ => exact ⟨nofun, nofun⟩
  | [v, a], hargs =>
    have hv := hargs v List.mem_cons_self
    exact ⟨fun h => absurd h (substr_pair_faultless hv a f), nofun⟩
  | [v, a, b], hargs =>
    rw [substr_triple_eq_fault_iff (hargs v List.mem_cons_self)]
    constructor
    · rintro ⟨hf, i, j, ha, hb, hends⟩
      exact ⟨hf, rfl, v, a, b, i, j, rfl, ha, hb, hends⟩
    · rintro ⟨hf, -, _, _, _, i, j, heq, ha, hb, hends⟩
      cases heq
      exact ⟨hf, i, j, ha, hb, hends⟩
  | _ :: _ :: _ :: _ :: _, _ => exact ⟨nofun, nofun⟩

theorem faultless_call {word : UInt64} {name : Text} (hname : name ≠ "substr".toList)
    {args : List Value} (hargs : ∀ v ∈ args, v.Fits) :
    Faultless ((standard word).call name args) := by
  unfold call find?
  split
  · next function hfound =>
    obtain ⟨front, rest, hentries, -⟩ := List.lookup_eq_some_iff.1 hfound
    have hmem : (name, function) ∈ (standard word).entries := by
      rw [hentries]
      exact List.mem_append_right front List.mem_cons_self
    exact ((safe_of_mem word _ hmem).resolve_left hname) args hargs
  · exact faultless_refused _

/-- For every word that random numbers are drawn from, every name and all arguments that fit into
    memory, a call of the standard library comes to a value or is refused, except if it asks
    `substr` for a part of a text that ends beyond the greatest integer. Then it is an overflow,
    and there is no other fault. -/
theorem call_standard (word : UInt64) (name : Text) (args : List Value)
    (hargs : ∀ v ∈ args, v.Fits) :
    let result := (standard word).call name args
    ((∃ v, result = .ok v) ∨ (∃ message, result = .error (.refused message)) ↔
      ¬AsksBeyond name args) ∧
    ∀ f, result = .error (.fault f) ↔ f = .overflow ∧ AsksBeyond name args := by
  intro result
  have hfault : ∀ f, result = .error (.fault f) ↔ f = .overflow ∧ AsksBeyond name args := by
    intro f
    by_cases hname : name = "substr".toList
    · subst hname
      exact substr_eq_fault_iff hargs
    · exact ⟨fun h => absurd h (faultless_call hname hargs f), fun h => absurd h.2.1 hname⟩
  refine ⟨?_, hfault⟩
  constructor
  · rintro (⟨v, hv⟩ | ⟨message, hmessage⟩) hasks
    · exact absurd (hv.symm.trans ((hfault .overflow).2 ⟨rfl, hasks⟩)) nofun
    · exact absurd (hmessage.symm.trans ((hfault .overflow).2 ⟨rfl, hasks⟩)) nofun
  · intro hasks
    match result, hfault with
    | .ok v, _ => exact .inl ⟨v, rfl⟩
    | .error (.refused message), _ => exact .inr ⟨message, rfl⟩
    | .error (.fault f), hfault => exact absurd ((hfault f).1 rfl).2 hasks

/-- A text between blanks for a length, and a position in front of the text that the part is cut
    from. -/
theorem call_standard_overflow :
    let args := [Value.string "ab".toList, .integer (-3),
      .string " +9223372036854775807 ".toList]
    (∀ v ∈ args, v.Fits) ∧
      (standard 0).call "substr".toList args = .error (.fault .overflow) := by
  intro args
  have hargs : ∀ v ∈ args, v.Fits := by
    simp only [args, List.forall_mem_cons]
    exact ⟨⟨by decide, nofun, nofun⟩, ⟨by decide +kernel, nofun, nofun⟩,
      ⟨by decide, nofun, nofun⟩, nofun⟩
  have hlength : Value.IsInteger Int64.maxValue (.string " +9223372036854775807 ".toList) :=
    .inr ⟨_, rfl, Integer.parse?_eq_some_iff_isSigned.1 (by decide +kernel)⟩
  have hasks : AsksBeyond "substr".toList args :=
    ⟨rfl, _, _, _, -3, Int64.maxValue, rfl, .inl rfl, hlength, by decide, by decide⟩
  exact ⟨hargs, ((call_standard 0 _ args hargs).2 .overflow).2 ⟨rfl, hasks⟩⟩

end Library

end EdgeInclude
