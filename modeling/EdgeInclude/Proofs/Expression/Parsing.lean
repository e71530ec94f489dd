import EdgeInclude.Expression.Read
import EdgeInclude.Proofs.Expression.Lexing

/-!
# Expressions as tokens

The tokens of an expression. They are read back as that expression, whatever follows
them, and nothing else is read as one. The tokens of an argument list end with the
parenthesis that closes it, so that counting parentheses finds the same end as reading
arguments does.

Results:
* `callOfTokens_tokens`: the tokens of a call are read as the call.
* `eq_call_of_callOfTokens`: what is read as a call is made of its tokens.
* `listed_argumentTokens`: an argument list ends where its parentheses are closed.
-/

namespace EdgeInclude

namespace Expr

mutual

/-- The tokens of an expression. -/
def tokens : Expr → List Token
  | integer n => [.integer n]
  | string s => [.string s]
  | reference ref => [.reference ref]
  | call f [] => [.name f, .opening, .closing]
  | call f (e :: es) => .name f :: .opening :: (tokens e ++ laterTokens es)

/-- The tokens of the arguments after another one, each after a comma, and of the parenthesis
    after the last. -/
def laterTokens : List Expr → List Token
  | [] => [.closing]
  | e :: es => .comma :: (tokens e ++ laterTokens es)

end

/-- The tokens of arguments, with commas between them, and of the parenthesis after the last. -/
def argumentTokens : List Expr → List Token
  | [] => [.closing]
  | e :: es => tokens e ++ laterTokens es

theorem tokens_call (f : Text) (args : List Expr) :
    (call f args).tokens = .name f :: .opening :: argumentTokens args := by
  cases args <;> rw [tokens, argumentTokens]

/-- The first token of an expression is no delimiter. -/
theorem tokens_eq_cons (e : Expr) : ∃ t ts, e.tokens = t :: ts ∧ t.isDelimiter = false := by
  cases e with
  | integer n => exact ⟨.integer n, [], by rw [tokens], rfl⟩
  | string s => exact ⟨.string s, [], by rw [tokens], rfl⟩
  | reference ref => exact ⟨.reference ref, [], by rw [tokens], rfl⟩
  | call f args => exact ⟨.name f, _, tokens_call f args, rfl⟩

/-! ## What tokens are read as -/

/-- A call with arguments is read if its arguments are. -/
theorem callOfTokens_of_arguments {e : Expr} {es : List Expr} {fuel : Nat} {rest : List Token}
    (f : Text) (h : argumentsOfTokens fuel (e.tokens ++ laterTokens es ++ rest) =
      .ok (e :: es, rest)) :
    callOfTokens (fuel + 1) f (.opening :: (e.tokens ++ laterTokens es ++ rest)) =
      .ok (.call f (e :: es), rest) := by
  obtain ⟨t, ts, htokens, ht⟩ := tokens_eq_cons e
  rw [htokens] at h ⊢
  have hcall : ∀ ts, callOfTokens (fuel + 1) f (.opening :: t :: ts) =
      (argumentsOfTokens fuel (t :: ts)).map fun found => (.call f found.1, found.2) := by
    intro ts
    cases t <;> first | rfl | cases ht
  rw [List.cons_append, List.cons_append] at h ⊢
  rw [hcall, h]
  rfl

mutual

/-- The tokens of an expression are read as the expression. -/
theorem ofTokens_tokens (e : Expr) {fuel : Nat} (hfuel : 3 * e.tokens.length ≤ fuel)
    (rest : List Token) : ofTokens fuel (e.tokens ++ rest) = .ok (e, rest) := by
  obtain ⟨fuel, rfl⟩ : ∃ k, fuel = k + 1 := by
    obtain ⟨t, ts, htokens, -⟩ := tokens_eq_cons e
    rw [htokens, List.length_cons] at hfuel
    exact ⟨fuel - 1, by omega⟩
  match e with
  | integer n | string s | reference ref => rw [tokens]; rfl
  | call f [] =>
    rw [tokens, List.length_cons, List.length_cons] at hfuel
    obtain ⟨fuel, rfl⟩ : ∃ k, fuel = k + 1 := ⟨fuel - 1, by omega⟩
    rw [tokens]
    rfl
  | call f (e :: es) =>
    rw [tokens, List.length_cons, List.length_cons] at hfuel
    obtain ⟨fuel, rfl⟩ : ∃ k, fuel = k + 1 := ⟨fuel - 1, by omega⟩
    rw [tokens]
    exact callOfTokens_of_arguments f (argumentsOfTokens_tokens e es (by omega) rest)

/-- The tokens of arguments are read as the arguments, up to the parenthesis after the last. -/
theorem argumentsOfTokens_tokens (e : Expr) (es : List Expr) {fuel : Nat}
    (hfuel : 3 * (e.tokens ++ laterTokens es).length ≤ fuel) (rest : List Token) :
    argumentsOfTokens fuel (e.tokens ++ laterTokens es ++ rest) = .ok (e :: es, rest) := by
  rw [List.length_append] at hfuel
  match es with
  | [] =>
    rw [laterTokens, List.length_singleton] at hfuel
    obtain ⟨fuel, rfl⟩ : ∃ k, fuel = k + 1 := ⟨fuel - 1, by omega⟩
    have hread : ofTokens fuel (e.tokens ++ .closing :: rest) = .ok (e, .closing :: rest) :=
      ofTokens_tokens e (by omega) _
    rw [laterTokens, List.append_assoc, List.singleton_append, argumentsOfTokens, hread]
  | e' :: es =>
    rw [laterTokens, List.length_cons] at hfuel
    obtain ⟨fuel, rfl⟩ : ∃ k, fuel = k + 1 := ⟨fuel - 1, by omega⟩
    have hread : ofTokens fuel (e.tokens ++ .comma :: (e'.tokens ++ laterTokens es ++ rest)) =
        .ok (e, .comma :: (e'.tokens ++ laterTokens es ++ rest)) := ofTokens_tokens e (by omega) _
    have hlater : argumentsOfTokens fuel (e'.tokens ++ laterTokens es ++ rest) =
        .ok (e' :: es, rest) := argumentsOfTokens_tokens e' es (by omega) rest
    rw [laterTokens, List.append_assoc, List.cons_append, argumentsOfTokens, hread]
    dsimp only
    rw [hlater]
    rfl

end

/-- The tokens of an argument list are read as a call with these arguments. -/
theorem callOfTokens_tokens (f : Text) (args : List Expr) {fuel : Nat}
    (hfuel : 3 * (argumentTokens args).length < fuel) (rest : List Token) :
    callOfTokens fuel f (.opening :: argumentTokens args ++ rest) = .ok (.call f args, rest) := by
  obtain ⟨fuel, rfl⟩ : ∃ k, fuel = k + 1 := ⟨fuel - 1, by omega⟩
  cases args with
  | nil => rfl
  | cons e es =>
    rw [argumentTokens] at hfuel
    exact callOfTokens_of_arguments f (argumentsOfTokens_tokens e es (by omega) rest)

/-! ## What is read from tokens -/

mutual

/-- What is read as an expression is its tokens. -/
theorem eq_tokens_of_ofTokens {fuel : Nat} {ts rest : List Token} {e : Expr}
    (h : ofTokens fuel ts = .ok (e, rest)) : ts = e.tokens ++ rest := by
  match fuel, ts with
  | 0, _ => cases h
  | _ + 1, [] => cases h
  | _ + 1, .integer n :: _ | _ + 1, .string s :: _ | _ + 1, .reference ref :: _ =>
    cases h
    rw [tokens]
    rfl
  | fuel + 1, .name f :: ts =>
    rw [ofTokens] at h
    obtain ⟨args, rfl, rfl⟩ := eq_call_of_callOfTokens h
    rw [tokens_call]
    rfl
  | _ + 1, .opening :: _ | _ + 1, .closing :: _ | _ + 1, .comma :: _ => cases h

/-- What is read as a call is the tokens of its argument list. -/
theorem eq_call_of_callOfTokens {fuel : Nat} {f : Text} {ts rest : List Token} {e : Expr}
    (h : callOfTokens fuel f ts = .ok (e, rest)) :
    ∃ args, e = .call f args ∧ ts = .opening :: argumentTokens args ++ rest := by
  match fuel with
  | 0 => cases h
  | fuel + 1 =>
    unfold callOfTokens at h
    split at h
    · cases h
    · cases h
      exact ⟨[], rfl, rfl⟩
    · obtain ⟨⟨args, rest'⟩, hread, he⟩ := map_eq_ok_iff.1 h
      cases he
      obtain ⟨e, es, rfl, rfl⟩ := eq_tokens_of_argumentsOfTokens hread
      exact ⟨e :: es, rfl, rfl⟩
    · cases h

/-- What is read as arguments is their tokens. -/
theorem eq_tokens_of_argumentsOfTokens {fuel : Nat} {ts rest : List Token} {args : List Expr}
    (h : argumentsOfTokens fuel ts = .ok (args, rest)) :
    ∃ e es, args = e :: es ∧ ts = e.tokens ++ laterTokens es ++ rest := by
  match fuel with
  | 0 => cases h
  | fuel + 1 =>
    rw [argumentsOfTokens] at h
    split at h
    · cases h
    · next e rest' hread =>
      cases h
      rw [eq_tokens_of_ofTokens hread]
      exact ⟨e, [], rfl, by rw [laterTokens, List.append_assoc]; rfl⟩
    · next e rest' hread =>
      obtain ⟨⟨args', rest''⟩, hlater, hargs⟩ := map_eq_ok_iff.1 h
      cases hargs
      obtain ⟨e', es, rfl, rfl⟩ := eq_tokens_of_argumentsOfTokens hlater
      rw [eq_tokens_of_ofTokens hread]
      exact ⟨e, e' :: es, rfl, by rw [laterTokens, List.append_assoc e.tokens]; rfl⟩
    · cases h

end

/-! ## Where an argument list ends -/

open Token

theorem head?_laterTokens (es : List Expr) (ts : List Token) :
    (laterTokens es ++ ts).head?.all isDelimiter = true := by
  cases es <;> (rw [laterTokens]; rfl)

mutual

/-- The parentheses in an expression are closed again, and delimiters stand between its
    tokens, and after it if what follows begins with one. -/
theorem listed_tokens (e : Expr) {depth : Nat} {ts : List Token} (h : Listed (depth + 1) ts)
    (hts : ts.head?.all isDelimiter = true) : Listed (depth + 1) (e.tokens ++ ts) := by
  match e with
  | integer n | string s | reference ref => rw [tokens]; exact h.other rfl hts
  | call f [] =>
    rw [tokens]
    have hclosing : Listed (depth + 2) (.closing :: ts) := .delimiter rfl (by omega) h
    exact .other rfl (.delimiter rfl (by simp) hclosing) rfl
  | call f (e :: es) =>
    rw [tokens, List.cons_append, List.cons_append, List.append_assoc]
    have hclosing : Listed (depth + 2) (.closing :: ts) := .delimiter rfl (by omega) h
    have hlater := listed_laterTokens es hclosing
    have harguments := listed_tokens e hlater (head?_laterTokens es ts)
    exact .other rfl (.delimiter rfl (by simp) harguments) rfl

/-- So it is for the arguments after another one, with the parenthesis after the last. -/
theorem listed_laterTokens (es : List Expr) {depth : Nat} {ts : List Token}
    (h : Listed (depth + 1) (.closing :: ts)) : Listed (depth + 1) (laterTokens es ++ ts) := by
  match es with
  | [] => rw [laterTokens]; exact h
  | e :: es =>
    rw [laterTokens, List.cons_append, List.append_assoc]
    have hlater := listed_laterTokens es h
    exact .delimiter rfl (by simp) (listed_tokens e hlater (head?_laterTokens es ts))

end

/-- An argument list ends where its parentheses are closed, and not before. -/
theorem listed_argumentTokens (args : List Expr) : Listed 0 (.opening :: argumentTokens args) := by
  have hlast : Listed 1 [.closing] := .last (Nat.le_refl 1)
  refine .delimiter rfl (by simp) ?_
  cases args with
  | nil => exact hlast
  | cons e es =>
    have hlater := listed_laterTokens es hlast
    have harguments := listed_tokens e hlater (head?_laterTokens es [])
    rwa [List.append_nil] at harguments

end Expr

end EdgeInclude
