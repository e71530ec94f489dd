import EdgeInclude.Proofs.Expression.Parsing
import EdgeInclude.Template

/-!
# Calls in documents

A call in a document is a dollar sign, the name of a library function and, right after
it, an argument list. The characters of the list are read first, up to the parenthesis
that closes it, and the tokens found are then read as arguments. The two agree about
where the call ends, so that calls are read exactly as they are written.

Results:
* `read_eq_expression_iff`: what is read as a call, and up to where.
* `eval_eq_ok_iff`: what a call yields, if it yields anything.
* `render_cons`: what is not read as an expression stays as it is, one character at a
  time.
* `evaluate?_call`: all of it together.
-/

namespace EdgeInclude

namespace Expr

/-! ## Reading calls -/

/-- Whether a text is that of a call. There may be blanks before each token of its argument
    list but the first. -/
def IsCall (sp : Spelling) (f : Text) (args : List Expr) (w : Text) : Prop :=
  IsIdentifier f ∧
    ∃ inside, Token.Written sp (argumentTokens args) inside ∧ w = '$' :: f ++ '(' :: inside

theorem IsCall.free {f w : Text} {args : List Expr} (h : IsCall .strict f args w) :
    IsCall .free f args w := by
  obtain ⟨hname, inside, hinside, rfl⟩ := h
  exact ⟨hname, inside, hinside.free, rfl⟩

/-- An argument list is read as it is written, up to the parenthesis that closes it. -/
theorem readCall_of_written {args : List Expr} {inside : Text}
    (h : Token.Written .free (argumentTokens args) inside) (f rest : Text) :
    readCall f ('(' :: inside ++ rest) = .ok (.call f args, rest) := by
  have hwritten : Token.Written .free (.opening :: argumentTokens args) ('(' :: inside) :=
    .token (w := ['(']) rfl h
  have htokens : readTokens (('(' :: inside ++ rest).length + 1) 0 ('(' :: inside ++ rest) =
      .ok (.opening :: argumentTokens args, rest) :=
    readTokens_written hwritten (listed_argumentTokens args) (by rw [List.length_append]; omega)
  have hfuel : 3 * (argumentTokens args).length <
      3 * (Token.opening :: argumentTokens args).length + 3 := by
    rw [List.length_cons]
    omega
  have hcall := callOfTokens_tokens f args hfuel []
  rw [List.append_nil] at hcall
  rw [readCall, htokens]
  dsimp only
  rw [hcall]

/-- What is read as an argument list is written like one. -/
theorem written_of_readCall {f s rest : Text} {e : Expr}
    (h : readCall f ('(' :: s) = .ok (e, rest)) :
    ∃ args inside, e = .call f args ∧ s = inside ++ rest ∧
      Token.Written .free (argumentTokens args) inside := by
  unfold readCall at h
  split at h
  · cases h
  · next tokens rest' hread =>
    split at h
    · cases h
    · next e' hcall =>
      cases h
      obtain ⟨args, rfl, htokens⟩ := eq_call_of_callOfTokens hcall
      obtain ⟨t, ts, w, hts, hs, hwritten⟩ := written_of_readTokens hread
      rw [List.append_nil] at htokens
      obtain ⟨rfl, rfl⟩ := List.cons.inj (hts.symm.trans htokens)
      cases hwritten with
      | @cons _ _ blanks w inside blank spelled tail =>
        obtain rfl : w = ['('] := spelled
        cases blanks with
        | nil =>
          obtain rfl := (List.cons.inj hs).2
          exact ⟨args, inside, rfl, rfl, tail⟩
        | cons c cs =>
          have hc := blank c List.mem_cons_self
          rw [← (List.cons.inj hs).1] at hc
          cases hc
    · cases h

theorem read_dollar {known : Text → Bool} {c : Char} (hc : c ≠ '(') (cs : Text) :
    read known ('$' :: c :: cs) =
      if isNameStart c then
        if known (readName (c :: cs)).1 && (readName (c :: cs)).2.head? == some '(' then
          match readCall (readName (c :: cs)).1 (readName (c :: cs)).2 with
          | .ok (e, rest) => .expression e rest
          | .error reason => .refused reason
        else .plain
      else .plain :=
  read.eq_2 known c cs hc

/-- Calls of known functions are read, exactly as they are written, and nothing else is read
    where no parenthesis follows a dollar sign. -/
theorem read_eq_expression_iff {known : Text → Bool} {c : Char} (hc : c ≠ '(') {cs rest : Text}
    {e : Expr} :
    read known ('$' :: c :: cs) = .expression e rest ↔
      ∃ f args w, e = .call f args ∧ known f = true ∧ IsCall .free f args w ∧
        '$' :: c :: cs = w ++ rest := by
  rw [read_dollar hc]
  constructor
  · intro h
    split at h
    · next hstart =>
      have hname := isIdentifier_readName hstart cs
      have hcut := readName_append (c :: cs)
      generalize (readName (c :: cs)).1 = f at h hname hcut
      generalize (readName (c :: cs)).2 = after at h hcut
      split at h
      · next hcall =>
        rw [Bool.and_eq_true, beq_iff_eq, List.head?_eq_some_iff] at hcall
        obtain ⟨hknown, s, rfl⟩ := hcall
        split at h
        · next e' rest' hread =>
          cases h
          obtain ⟨args, inside, rfl, rfl, hinside⟩ := written_of_readCall hread
          refine ⟨f, args, _, rfl, hknown, ⟨hname, inside, hinside, rfl⟩, ?_⟩
          rw [← hcut]
          simp
        · cases h
      · cases h
    · cases h
  · rintro ⟨f, args, w, rfl, hknown, ⟨hname, inside, hinside, rfl⟩, hs⟩
    have hcut : c :: cs = f ++ ('(' :: inside ++ rest) := by
      simpa using (List.cons.inj hs).2
    have hstart : isNameStart c = true := by
      obtain ⟨d, ds, rfl, hd, -⟩ := hname
      rwa [(List.cons.inj hcut).1]
    have hopening : ('(' :: inside ++ rest).head?.any Text.isNameChar = false := rfl
    have hspan := Text.span_append hname.isNameChar hopening
    rw [if_pos hstart, hcut, readName, hspan.1, hspan.2, readCall_of_written hinside, if_pos]
    rw [hknown]
    rfl

/-! ## Values -/

mutual

/-- What an expression yields. A call yields what the function that it names gives for what the
    arguments yield. -/
inductive Yields (ctx : Context) : Expr → Value → Prop where
  | integer (n : Int64) : Yields ctx (.integer n) (.integer n)
  | string (s : Text) : Yields ctx (.string s) (.string s)
  | reference (ref : Reference) :
      Yields ctx (.reference ref) (ctx.scope.lookup ref.name ref.key)
  | call {f : Text} {args : List Expr} {values : List Value} {function : Function} {v : Value}
      (arguments : YieldsAll ctx args values) (found : ctx.library.find? f = some function)
      (result : function values = .ok v) : Yields ctx (.call f args) v

/-- What expressions yield. -/
inductive YieldsAll (ctx : Context) : List Expr → List Value → Prop where
  | nil : YieldsAll ctx [] []
  | cons {e : Expr} {es : List Expr} {v : Value} {vs : List Value} (head : Yields ctx e v)
      (tail : YieldsAll ctx es vs) : YieldsAll ctx (e :: es) (v :: vs)

end

variable {ctx : Context}

theorem call_eq_ok_iff {lib : Library} {f : Text} {values : List Value} {v : Value} :
    lib.call f values = .ok v ↔
      ∃ function, lib.find? f = some function ∧ function values = .ok v := by
  rw [Library.call]
  cases lib.find? f <;> simp

mutual

/-- An expression is evaluated to what it yields, and fails to be evaluated if that is
    nothing. -/
theorem eval_eq_ok_iff (e : Expr) {v : Value} : e.eval ctx = .ok v ↔ Yields ctx e v := by
  match e with
  | integer n =>
    rw [eval, Except.ok.injEq]
    exact ⟨fun h => h ▸ .integer n, fun h => by cases h; rfl⟩
  | string s =>
    rw [eval, Except.ok.injEq]
    exact ⟨fun h => h ▸ .string s, fun h => by cases h; rfl⟩
  | reference ref =>
    rw [eval, Except.ok.injEq]
    exact ⟨fun h => h ▸ .reference ref, fun h => by cases h; rfl⟩
  | call f args =>
    have hargs : ∀ values, evalAll ctx args = .ok values ↔ YieldsAll ctx args values :=
      fun _ => evalAll_eq_ok_iff args
    rw [eval]
    constructor
    · intro h
      split at h
      · next values hvalues =>
        obtain ⟨function, hfound, hresult⟩ := call_eq_ok_iff.1 h
        exact .call ((hargs values).1 hvalues) hfound hresult
      · cases h
    · rintro (_ | _ | _ | ⟨harguments, hfound, hresult⟩)
      rw [(hargs _).2 harguments]
      exact call_eq_ok_iff.2 ⟨_, hfound, hresult⟩

theorem evalAll_eq_ok_iff (es : List Expr) {vs : List Value} :
    evalAll ctx es = .ok vs ↔ YieldsAll ctx es vs := by
  match es with
  | [] =>
    rw [evalAll, Except.ok.injEq]
    exact ⟨fun h => h ▸ .nil, fun h => by cases h; rfl⟩
  | e :: es =>
    have he : ∀ v, e.eval ctx = .ok v ↔ Yields ctx e v := fun _ => eval_eq_ok_iff e
    have hes : ∀ vs, evalAll ctx es = .ok vs ↔ YieldsAll ctx es vs :=
      fun _ => evalAll_eq_ok_iff es
    rw [evalAll]
    constructor
    · intro h
      split at h
      · next v hv =>
        split at h
        · next vs' hvs =>
          cases h
          exact .cons ((he v).1 hv) ((hes vs').1 hvs)
        · cases h
      · cases h
    · rintro (_ | ⟨hhead, htail⟩)
      rw [(he _).2 hhead, (hes _).2 htail]

end

/-- The value of an expression in a document is what it yields, or null if that is nothing. -/
theorem value_eq_iff (e : Expr) (v : Value) :
    e.value ctx = v ↔ Yields ctx e v ∨ v = .null ∧ ∀ other, ¬Yields ctx e other := by
  simp only [← eval_eq_ok_iff, value]
  cases e.eval ctx with
  | ok value => simp [eq_comm]
  | error cause => simp [eq_comm]

/-! ## Templates -/

/-- What is read as an expression is not empty. -/
theorem eq_append_of_read {known : Text → Bool} {s rest : Text} {e : Expr}
    (h : read known s = .expression e rest) : ∃ c w, s = c :: (w ++ rest) := by
  have hread := h
  unfold read at h
  split at h
  · next cs =>
    split at h
    · next ref rest' href =>
      cases h
      obtain ⟨inner, rfl, -⟩ := readReference?_eq_some_iff.1 href
      exact ⟨'$', '(' :: inner ++ [')'], by simp⟩
    · cases h
  · next c cs hparenthesis =>
    obtain ⟨f, args, w, -, -, ⟨-, inside, -, rfl⟩, hs⟩ :=
      (read_eq_expression_iff hparenthesis).1 hread
    exact ⟨'$', f ++ '(' :: inside, hs⟩
  · cases h

/-- What is refused begins with a dollar sign. -/
theorem eq_dollar_of_refused {known : Text → Bool} {c : Char} {cs : Text} {reason : ReadError}
    (h : read known (c :: cs) = .refused reason) : c = '$' := by
  unfold read at h
  split at h
  · next heq => exact (List.cons.inj heq).1
  · next heq => exact (List.cons.inj heq).1
  · cases h

/-- The value of the expression at the start of a text, with the text after it. -/
def evaluate? (ctx : Context) (s : Text) : Option (Value × Text) :=
  match read ctx.library.contains s with
  | .expression e rest => some (e.value ctx, rest)
  | _ => none

theorem evaluate?_eq_some_iff {s rest : Text} {v : Value} :
    evaluate? ctx s = some (v, rest) ↔
      ∃ e, read ctx.library.contains s = .expression e rest ∧ v = e.value ctx := by
  unfold evaluate?
  cases read ctx.library.contains s <;> simp [eq_comm, and_comm]

end Expr

namespace Template

theorem segmentsFrom_append (known : Text → Bool) (w s : Text) :
    segmentsFrom known w.length (w ++ s) = segmentsFrom known 0 s := by
  induction w with
  | nil => rfl
  | cons c cs ih => exact ih

/-- An expression is replaced by its value; any other character stays as it is. -/
theorem render_cons (ctx : Context) (c : Char) (cs : Text) :
    render ctx (c :: cs) =
      match Expr.evaluate? ctx (c :: cs) with
      | some (v, rest) => v.display ++ render ctx rest
      | none => c :: render ctx cs := by
  unfold render segments Expr.evaluate?
  rw [segmentsFrom]
  cases hread : Expr.read ctx.library.contains (c :: cs) with
  | plain => rfl
  | refused reason => rw [Expr.eq_dollar_of_refused hread]; rfl
  | expression e rest =>
    obtain ⟨d, w, hs⟩ := Expr.eq_append_of_read hread
    obtain rfl := (List.cons.inj hs).2
    have hlength : (w ++ rest).length - rest.length = w.length := by
      rw [List.length_append, Nat.add_sub_cancel]
    dsimp only
    rw [hlength, segmentsFrom_append]
    rfl

end Template

/-! ## Everything together -/

namespace Token

/-- Whether a token can be written. All integers and strings can. -/
def IsWritable : Token → Prop
  | reference ref => ∃ s, ref.IsWritten s
  | name f => IsIdentifier f
  | _ => True

theorem exists_written {ts : List Token} (h : ∀ t ∈ ts, t.IsWritable) :
    ∃ w, Written .strict ts w := by
  induction ts with
  | nil => exact ⟨[], .nil⟩
  | cons t ts ih =>
    obtain ⟨ht, hts⟩ := List.forall_mem_cons.1 h
    obtain ⟨rest, hrest⟩ := ih hts
    obtain ⟨w, hw⟩ : ∃ w, t.Spelled .strict w := by
      cases t with
      | integer n => exact ⟨_, rfl⟩
      | string s => exact ⟨_, .inl rfl⟩
      | reference ref =>
        obtain ⟨inner, hinner⟩ := ht
        exact ⟨_, inner, hinner, rfl⟩
      | name f => exact ⟨_, ht, rfl⟩
      | opening | closing | comma => exact ⟨_, rfl⟩
    exact ⟨w ++ rest, .token hw hrest⟩

end Token

namespace Expr

/-- For every context, with the functions of its library and its variables:

    * A call of one of the functions is read as the call, and up to its end, whatever text
      follows it, if its integers are in decimal form and its strings have backslashes only
      where they are needed. All calls whose names and references can be written are written
      like this.
    * Where no parenthesis follows a dollar sign, something is read exactly if it is a call of
      one of the functions, where zeros may stand before the digits of integers and backslashes
      before any characters of strings.
    * The value of a call is what its function gives for the values of its arguments, which are
      evaluated from left to right. It is null if nothing is given there, by the function or by
      one of the calls among the arguments, or if one of those has no function.
    * An expression in a text is replaced by its value. Where none is read, one character stays
      as it is, and reading goes on with the next. -/
theorem evaluate?_call (ctx : Context) :
    (∀ f args w rest, ctx.library.contains f = true → IsCall .strict f args w →
      evaluate? ctx (w ++ rest) = some ((call f args).value ctx, rest)) ∧
    (∀ f args, (∀ t ∈ (call f args).tokens, t.IsWritable) → ∃ w, IsCall .strict f args w) ∧
    (∀ c cs v rest, c ≠ '(' →
      (evaluate? ctx ('$' :: c :: cs) = some (v, rest) ↔
        ∃ f args w, ctx.library.contains f = true ∧ IsCall .free f args w ∧
          '$' :: c :: cs = w ++ rest ∧ v = (call f args).value ctx)) ∧
    (∀ f args,
      (call f args).eval ctx = (args.mapM (eval ctx)).bind (ctx.library.call f) ∧
      ∀ v, (call f args).value ctx = v ↔ Yields ctx (call f args) v ∨
        v = .null ∧ ∀ other, ¬Yields ctx (call f args) other) ∧
    ∀ c cs, Template.render ctx (c :: cs) =
      match evaluate? ctx (c :: cs) with
      | some (v, rest) => v.display ++ Template.render ctx rest
      | none => c :: Template.render ctx cs := by
  have hread : ∀ c cs v rest, c ≠ '(' →
      (evaluate? ctx ('$' :: c :: cs) = some (v, rest) ↔
        ∃ f args w, ctx.library.contains f = true ∧ IsCall .free f args w ∧
          '$' :: c :: cs = w ++ rest ∧ v = (call f args).value ctx) := by
    intro c cs v rest hc
    simp only [evaluate?_eq_some_iff, read_eq_expression_iff hc]
    constructor
    · rintro ⟨_, ⟨f, args, w, rfl, hknown, hcall, hs⟩, hv⟩
      exact ⟨f, args, w, hknown, hcall, hs, hv⟩
    · rintro ⟨f, args, w, hknown, hcall, hs, hv⟩
      exact ⟨_, ⟨f, args, w, rfl, hknown, hcall, hs⟩, hv⟩
  refine ⟨fun f args w rest hknown hcall => ?_, fun f args hwritable => ?_, hread,
    fun f args => ⟨?_, value_eq_iff _⟩, Template.render_cons ctx⟩
  · obtain ⟨c, cs, hname, hc⟩ : ∃ c cs, w ++ rest = '$' :: c :: cs ∧ c ≠ '(' := by
      obtain ⟨⟨c, cs, rfl, hc, -⟩, inside, -, rfl⟩ := hcall
      refine ⟨c, cs ++ '(' :: inside ++ rest, by simp, ?_⟩
      rintro rfl
      cases hc
    rw [hname]
    exact (hread c cs _ rest hc).2 ⟨f, args, w, hknown, hcall.free, hname.symm, rfl⟩
  · rw [tokens_call, List.forall_mem_cons, List.forall_mem_cons] at hwritable
    obtain ⟨hname, -, hargs⟩ := hwritable
    obtain ⟨inside, hinside⟩ := Token.exists_written hargs
    exact ⟨_, hname, inside, hinside, rfl⟩
  · rw [eval, evalAll_eq_mapM]
    cases args.mapM (eval ctx) <;> rfl

end Expr

end EdgeInclude
