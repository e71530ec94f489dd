import EdgeInclude.Proofs.Expression.Spelling

/-!
# Argument lists as they are written

The texts that the tokens of an argument list are read from: the tokens as they are
spelled, each after any number of blanks. The list ends with the parenthesis that
closes it, which is found by counting.

Results:
* `readTokens_written`: the tokens of a list are read as they are written, whatever
  follows the list.
* `written_of_readTokens`: nothing else is read as tokens.
-/

namespace EdgeInclude

namespace Token

/-! ## Written tokens -/

/-- Whether a text is that of tokens, each after any number of blanks. -/
inductive Written (sp : Spelling) : List Token → Text → Prop where
  | nil : Written sp [] []
  | cons {t : Token} {ts : List Token} {blanks w rest : Text}
      (blank : ∀ c ∈ blanks, Text.isBlank c = true) (spelled : t.Spelled sp w)
      (tail : Written sp ts rest) : Written sp (t :: ts) (blanks ++ w ++ rest)

theorem Written.free {ts : List Token} {w : Text} (h : Written .strict ts w) :
    Written .free ts w := by
  induction h with
  | nil => exact .nil
  | cons blank spelled _ ih => exact .cons blank spelled.free ih

/-- A blank before tokens. -/
theorem Written.blank {sp : Spelling} {t : Token} {ts : List Token} {c : Char} {w : Text}
    (hc : Text.isBlank c = true) (h : Written sp (t :: ts) w) : Written sp (t :: ts) (c :: w) := by
  cases h with
  | cons blank spelled tail => exact .cons (List.forall_mem_cons.2 ⟨hc, blank⟩) spelled tail

/-- A token without a blank before it. -/
theorem Written.token {sp : Spelling} {t : Token} {ts : List Token} {w rest : Text}
    (spelled : t.Spelled sp w) (tail : Written sp ts rest) : Written sp (t :: ts) (w ++ rest) := by
  have hblank : ∀ c ∈ ([] : Text), Text.isBlank c = true := fun _ h => absurd h List.not_mem_nil
  exact .cons hblank spelled tail

/-- What follows a token ends it, if that is a delimiter. -/
theorem Written.endsAt {sp : Spelling} {t d : Token} {ts : List Token} {w : Text}
    (h : Written sp (d :: ts) w) (hd : d.isDelimiter = true) (rest : Text) :
    t.EndsAt (w ++ rest) := by
  refine .inr ?_
  cases h with
  | @cons _ _ blanks w rest' blank spelled tail =>
    cases blanks with
    | cons c cs => simp [endsToken, blank c List.mem_cons_self]
    | nil =>
      cases d with
      | opening => rw [show w = ['('] from spelled]; rfl
      | closing => rw [show w = [')'] from spelled]; rfl
      | comma => rw [show w = [','] from spelled]; rfl
      | _ => cases hd

/-! ## Lists -/

/-- The number of open parentheses after a token. -/
def depthAfter (depth : Nat) : Token → Nat
  | opening => depth + 1
  | closing => depth - 1
  | _ => depth

/-- Whether tokens are those of a list in which `depth` parentheses are open: they end with the
    one that closes the outermost, and of two that follow one another one is a delimiter. -/
inductive Listed : Nat → List Token → Prop where
  | last {depth : Nat} (closes : depth ≤ 1) : Listed depth [closing]
  | cons {depth : Nat} {t d : Token} {ts : List Token} (goesOn : ¬(t = closing ∧ depth ≤ 1))
      (separated : t.isDelimiter = true ∨ d.isDelimiter = true)
      (tail : Listed (t.depthAfter depth) (d :: ts)) : Listed depth (t :: d :: ts)

/-- A delimiter before tokens, if it does not close the list. -/
theorem Listed.delimiter {d : Token} {depth : Nat} {ts : List Token}
    (hd : d.isDelimiter = true) (goesOn : ¬(d = closing ∧ depth ≤ 1))
    (h : Listed (d.depthAfter depth) ts) : Listed depth (d :: ts) := by
  cases ts with
  | nil => cases h
  | cons t ts => exact .cons goesOn (.inl hd) h

/-- Any other token, if what follows it begins with a delimiter. -/
theorem Listed.other {t : Token} {depth : Nat} {ts : List Token}
    (ht : t.isDelimiter = false) (h : Listed depth ts)
    (hts : ts.head?.all isDelimiter = true) : Listed depth (t :: ts) := by
  cases ts with
  | nil => cases h
  | cons d ts =>
    refine .cons ?_ (.inr hts) ?_
    · rintro ⟨rfl, -⟩
      cases ht
    · cases t with
      | opening | closing | comma => cases ht
      | integer | string | reference | name => exact h

end Token

open Token

/-! ## What is written is read -/

theorem readTokens_blanks {blanks : Text} (h : ∀ c ∈ blanks, Text.isBlank c = true)
    (fuel depth : Nat) (s : Text) :
    readTokens (blanks.length + fuel) depth (blanks ++ s) = readTokens fuel depth s := by
  induction blanks with
  | nil => rw [List.length_nil, Nat.zero_add, List.nil_append]
  | cons c cs ih =>
    obtain ⟨hc, hcs⟩ := List.forall_mem_cons.1 h
    rw [List.length_cons, Nat.add_right_comm, List.cons_append, readTokens, readToken_blank hc]
    exact ih hcs

/-- Reading goes on after a token, unless it closes the list. -/
theorem readTokens_cons {c : Char} {cs rest : Text} {t : Token}
    (h : readToken c cs = .ok (some t, rest)) (fuel depth : Nat) :
    readTokens (fuel + 1) depth (c :: cs) =
      if t = .closing ∧ depth ≤ 1 then .ok ([t], rest)
      else (readTokens fuel (t.depthAfter depth) rest).map fun (ts, rest) => (t :: ts, rest) := by
  rw [readTokens, h]
  cases t <;> rfl

/-- The tokens of a list are read as they are written, up to the end of the list. -/
theorem readTokens_written {ts : List Token} {w : Text} (h : Written .free ts w)
    {fuel depth : Nat} {rest : Text} (hlisted : Listed depth ts) (hfuel : w.length < fuel) :
    readTokens fuel depth (w ++ rest) = .ok (ts, rest) := by
  induction h generalizing fuel depth with
  | nil => cases hlisted
  | @cons t ts blanks w after blank spelled tail ih =>
    have hends : t.EndsAt (after ++ rest) := by
      cases hlisted with
      | last => exact .inl rfl
      | cons _ separated _ => exact separated.elim .inl fun hd => tail.endsAt hd rest
    obtain ⟨c, cs, rfl, hread⟩ := readToken_spelled spelled hends
    obtain ⟨fuel, rfl⟩ : ∃ k, fuel = blanks.length + (k + 1) := by
      simp only [List.length_append, List.length_cons] at hfuel
      exact ⟨fuel - blanks.length - 1, by omega⟩
    rw [List.append_assoc, List.append_assoc, readTokens_blanks blank, List.cons_append,
      readTokens_cons hread]
    cases hlisted with
    | last closes =>
      cases tail
      rw [if_pos ⟨rfl, closes⟩]
      rfl
    | cons goesOn _ hlater =>
      have hlength : after.length < fuel := by
        simp only [List.length_append, List.length_cons] at hfuel
        omega
      rw [if_neg goesOn, ih hlater hlength]
      rfl

/-! ## What is read is written -/

theorem written_of_readTokens {fuel depth : Nat} {s rest : Text} {tokens : List Token}
    (h : readTokens fuel depth s = .ok (tokens, rest)) :
    ∃ t ts w, tokens = t :: ts ∧ s = w ++ rest ∧ Written .free (t :: ts) w := by
  induction fuel generalizing depth s tokens with
  | zero => cases h
  | succ fuel ih =>
    cases s with
    | nil => cases h
    | cons c cs =>
      cases hread : readToken c cs with
      | error e =>
        rw [readTokens, hread] at h
        cases h
      | ok read =>
        obtain ⟨token, after⟩ := read
        obtain ⟨t, rfl, w, hc, hspelled⟩ | ⟨rfl, hblank, rfl⟩ := spelled_of_readToken hread
        · rw [readTokens_cons hread] at h
          split at h
          · cases h
            exact ⟨t, [], w ++ [], rfl, by rw [List.append_nil, hc], .token hspelled .nil⟩
          · obtain ⟨⟨ts, rest'⟩, hlater, hs⟩ := map_eq_ok_iff.1 h
            cases hs
            obtain ⟨d, ts, w', rfl, rfl, htail⟩ := ih hlater
            exact ⟨t, d :: ts, w ++ w', rfl, by rw [List.append_assoc, hc], .token hspelled htail⟩
        · rw [readTokens, hread] at h
          obtain ⟨t, ts, w, rfl, rfl, hw⟩ := ih h
          exact ⟨t, ts, c :: w, rfl, rfl, hw.blank hblank⟩

/-- Blanks before tokens, a zero before a digit, and a backslash before a quote. -/
example : readTokens 20 0 "( -07 ,'a\\'b')!".toList =
    .ok ([.opening, .integer (-7), .comma, .string ['a', '\'', 'b'], .closing], ['!']) := by
  decide +kernel

end EdgeInclude
