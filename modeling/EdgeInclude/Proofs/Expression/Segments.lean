import EdgeInclude.Proofs.Expression.Reading

/-!
# Where expressions stand in a template

A template has one cut into characters and expressions. It is made where the template is
written, from left to right: where an expression is written it is taken as a whole, and
anywhere else one character is. The cut is known from the template and from the names of the
functions; no value of a variable and nothing that a function gives has a part in it. So what
is put in for an expression is not looked at again, whatever it looks like.

Results:
* `read_eq_expression_iff_isWritten`: an expression is read exactly where one is written.
* `render_written`, `render_character`: rendering, a step at a time.
* `render_not_call`: what becomes of a call that cannot be read.
* `existsUnique_cut`: there is one cut.
* `render_of_cut`: the cut says everything about what is rendered.
-/

namespace EdgeInclude

namespace Expr

variable {known : Text → Bool} {c : Char} {s w rest : Text} {e : Expr}

/-- Whether a text is that of an expression in a document: a reference between parentheses, or
    a call of a function whose name is known. -/
def IsWritten (known : Text → Bool) (w : Text) : Expr → Prop
  | reference ref => ∃ inner, ref.IsWritten inner ∧ w = '$' :: '(' :: inner ++ [')']
  | call f args => known f = true ∧ IsCall .free f args w
  | _ => False

/-- An expression is written with a dollar sign and something behind it. -/
theorem IsWritten.exists_cons (h : e.IsWritten known w) : ∃ c cs, w = '$' :: c :: cs := by
  cases e with
  | integer n => cases h
  | string s => cases h
  | reference ref =>
    obtain ⟨inner, -, rfl⟩ := h
    exact ⟨'(', inner ++ [')'], by simp⟩
  | call f args =>
    obtain ⟨-, ⟨d, ds, rfl, -⟩, inside, -, rfl⟩ := h
    exact ⟨d, ds ++ '(' :: inside, by simp⟩

/-- The first character behind the dollar sign tells references from calls. -/
theorem IsCall.head_ne {f : Text} {args : List Expr} {sp : Spelling}
    (h : IsCall sp f args ('$' :: c :: w)) : c ≠ '(' := by
  obtain ⟨⟨d, ds, rfl, hd, -⟩, inside, -, hw⟩ := h
  obtain ⟨rfl, -⟩ : c = d ∧ _ := by simpa using hw
  rintro rfl
  cases hd

/-- An expression is read exactly where one is written, up to its end. -/
theorem read_eq_expression_iff_isWritten :
    read known s = .expression e rest ↔ ∃ w, e.IsWritten known w ∧ s = w ++ rest := by
  constructor
  · intro h
    have hread := h
    unfold read at h
    split at h
    · next cs =>
      split at h
      · next ref rest' href =>
        cases h
        obtain ⟨inner, rfl, hinner⟩ := readReference?_eq_some_iff.1 href
        exact ⟨_, ⟨inner, hinner, rfl⟩, by simp⟩
      · cases h
    · next c cs hparenthesis =>
      obtain ⟨f, args, w, rfl, hknown, hcall, hs⟩ := (read_eq_expression_iff hparenthesis).1 hread
      exact ⟨w, ⟨hknown, hcall⟩, hs⟩
    · cases h
  · rintro ⟨w, hw, rfl⟩
    obtain ⟨c, cs, rfl⟩ := hw.exists_cons
    cases e with
    | integer n => cases hw
    | string s => cases hw
    | reference ref =>
      obtain ⟨inner, hinner, hcs⟩ := hw
      obtain ⟨rfl, rfl⟩ : c = '(' ∧ cs = inner ++ [')'] := by simpa using hcs
      have href : readReference? (inner ++ ')' :: rest) = some (ref, rest) :=
        readReference?_eq_some_iff.2 ⟨inner, rfl, hinner⟩
      have hs : '$' :: '(' :: (inner ++ [')']) ++ rest = '$' :: '(' :: (inner ++ ')' :: rest) := by
        simp
      rw [hs, read, href]
    | call f args =>
      obtain ⟨hknown, hcall⟩ := hw
      exact (read_eq_expression_iff hcall.head_ne).2 ⟨f, args, _, rfl, hknown, hcall, rfl⟩

/-- At most one expression is written at a place, in one way. -/
theorem IsWritten.unique {e' : Expr} {w' rest' : Text} (h : e.IsWritten known w)
    (h' : e'.IsWritten known w') (heq : w ++ rest = w' ++ rest') :
    e = e' ∧ w = w' ∧ rest = rest' := by
  have hread : read known (w ++ rest) = .expression e rest :=
    read_eq_expression_iff_isWritten.2 ⟨w, h, rfl⟩
  rw [heq, read_eq_expression_iff_isWritten.2 ⟨w', h', rfl⟩] at hread
  cases hread
  exact ⟨rfl, List.append_cancel_right heq, rfl⟩

end Expr

namespace Template

variable {known : Text → Bool} {ctx : Context} {c : Char} {s w : Text} {e : Expr}

/-! ## Rendering step by step -/

/-- Whether no expression is written at the start of a text. -/
def Bare (known : Text → Bool) (s : Text) : Prop :=
  ∀ (w : Text) (e : Expr), e.IsWritten known w → ¬w <+: s

/-- What is written as an expression is replaced by its value. -/
theorem render_written (h : e.IsWritten ctx.library.contains w) (s : Text) :
    render ctx (w ++ s) = (e.value ctx).display ++ render ctx s := by
  have hvalue : Expr.evaluate? ctx (w ++ s) = some (e.value ctx, s) :=
    Expr.evaluate?_eq_some_iff.2 ⟨e, Expr.read_eq_expression_iff_isWritten.2 ⟨w, h, rfl⟩, rfl⟩
  obtain ⟨c, cs, rfl⟩ := h.exists_cons
  rw [List.cons_append] at hvalue ⊢
  rw [render_cons, hvalue]

/-- What is written as an expression at the start is evaluated before the rest is rendered. -/
theorem events_written (h : e.IsWritten ctx.library.contains w) (s : Text) :
    events ctx (w ++ s) = e.events ctx ++ events ctx s := by
  have hread : Expr.read ctx.library.contains (w ++ s) = .expression e s :=
    Expr.read_eq_expression_iff_isWritten.2 ⟨w, h, rfl⟩
  obtain ⟨c, cs, rfl⟩ := h.exists_cons
  have hlength : (c :: cs ++ s).length - s.length = (c :: cs).length := by
    rw [List.length_append, Nat.add_sub_cancel]
  unfold events segments
  rw [List.cons_append] at hread ⊢
  rw [segmentsFrom, hread]
  dsimp only
  rw [hlength, segmentsFrom_append]
  rfl

/-- Where no expression is written, a character stays as it is. -/
theorem render_character (h : Bare ctx.library.contains (c :: s)) :
    render ctx (c :: s) = c :: render ctx s := by
  have hnone : Expr.evaluate? ctx (c :: s) = none := by
    rw [Option.eq_none_iff_forall_ne_some]
    rintro ⟨v, rest⟩ hvalue
    obtain ⟨e, hread, -⟩ := Expr.evaluate?_eq_some_iff.1 hvalue
    obtain ⟨w, hw, hs⟩ := Expr.read_eq_expression_iff_isWritten.1 hread
    exact h w e hw ⟨rest, hs.symm⟩
  rw [render_cons, hnone]

/-- Only a dollar sign begins an expression. -/
theorem bare_of_ne (hc : c ≠ '$') (s : Text) : Bare known (c :: s) := by
  rintro w e hw hprefix
  obtain ⟨d, ds, rfl⟩ := hw.exists_cons
  exact hc (List.cons_prefix_cons.1 hprefix).1.symm

theorem render_append_of_not_mem {u : Text} (hu : '$' ∉ u) (s : Text) :
    render ctx (u ++ s) = u ++ render ctx s := by
  induction u with
  | nil => rfl
  | cons c u ih =>
    obtain ⟨hc, hu⟩ := not_or.1 (mt List.mem_cons.2 hu)
    rw [List.cons_append, render_character (bare_of_ne (Ne.symm hc) _), ih hu, List.cons_append]

/-- A template without a dollar sign has no expressions. -/
theorem render_eq_self (h : '$' ∉ s) : render ctx s = s := by
  have hrender := @render_append_of_not_mem ctx s h []
  rw [List.append_nil] at hrender
  exact hrender.trans (List.append_nil s)

/-- Nor does rendering it leave anything in the log. -/
theorem events_eq_nil (h : '$' ∉ s) : events ctx s = [] := by
  have hsegments : segments ctx.library.contains s = s.map .literal := by
    unfold segments
    induction s with
    | nil => rfl
    | cons c cs ih =>
      obtain ⟨hc, hcs⟩ := not_or.1 (mt List.mem_cons.2 h)
      have hplain : Expr.read ctx.library.contains (c :: cs) = .plain := by
        unfold Expr.read
        split
        · next hcons => exact absurd (List.cons.inj hcons).1.symm hc
        · next hcons => exact absurd (List.cons.inj hcons).1.symm hc
        · rfl
      rw [segmentsFrom, hplain, List.map_cons, ih hcs]
  rw [events, hsegments, List.flatMap_map]
  exact List.flatMap_eq_nil_iff.2 fun c _ => rfl

/-- Whether a call of a known function begins with a name and an opening parenthesis in front of
    a text: the text goes on with arguments and the parenthesis that closes them. -/
def Calls (known : Text → Bool) (f s : Text) : Prop :=
  known f = true ∧
    ∃ args inside, Token.Written .free (Expr.argumentTokens args) inside ∧ inside <+: s

/-- What begins like a call and does not call a known function is no expression. -/
theorem bare_of_not_calls {f : Text} (hf : IsIdentifier f) (h : ¬Calls known f s) :
    Bare known ('$' :: (f ++ '(' :: s)) := by
  rintro w e hw ⟨rest, hsplit⟩
  cases e with
  | integer n => cases hw
  | string s => cases hw
  | reference ref =>
    obtain ⟨inner, -, rfl⟩ := hw
    obtain ⟨d, ds, rfl, hd, -⟩ := hf
    obtain ⟨rfl, -⟩ : '(' = d ∧ _ := by simpa using hsplit
    cases hd
  | call f' args =>
    obtain ⟨hknown, hf', inside, hinside, rfl⟩ := hw
    have hsame : f' ++ '(' :: (inside ++ rest) = f ++ '(' :: s := by simpa using hsplit
    have hspan := Text.span_append hf.isNameChar (show ('(' :: s).head?.any Text.isNameChar = false
      from rfl)
    have hspan' := Text.span_append hf'.isNameChar
      (show ('(' :: (inside ++ rest)).head?.any Text.isNameChar = false from rfl)
    rw [hsame, hspan.1, hspan.2] at hspan'
    obtain ⟨rfl, hrest⟩ := hspan'
    exact h ⟨hknown, args, inside, hinside, rest, (List.cons.inj hrest).2.symm⟩

/-- What begins like a call and does not call a known function stays as it is up to its
    arguments, and these are rendered like any text. -/
theorem render_not_call {f : Text} (hf : IsIdentifier f) (h : ¬Calls ctx.library.contains f s) :
    render ctx ('$' :: (f ++ '(' :: s)) = '$' :: (f ++ '(' :: render ctx s) := by
  have hdollar : '$' ∉ f := fun hmem => absurd (hf.isNameChar _ hmem) (by decide)
  rw [render_character (bare_of_not_calls hf h), render_append_of_not_mem hdollar,
    render_character (bare_of_ne (by decide) s)]

/-! ## The cut -/

/-- A part of a template: a character, or an expression as it is written. -/
inductive Part where
  | character (c : Char)
  | expression (w : Text) (e : Expr)

namespace Part

/-- A part as it is written. -/
def written : Part → Text
  | character c => [c]
  | expression w _ => w

/-- What a part is rendered as. -/
def shown (ctx : Context) : Part → Text
  | character c => [c]
  | expression _ e => (e.value ctx).display

end Part

/-- Whether a template is cut into the given parts, from left to right. -/
inductive Cut (known : Text → Bool) : List Part → Text → Prop where
  | done : Cut known [] []
  | expression {w s t : Text} {e : Expr} {parts : List Part} (h : e.IsWritten known w)
      (split : t = w ++ s) (rest : Cut known parts s) : Cut known (.expression w e :: parts) t
  | character {c : Char} {s : Text} {parts : List Part} (h : Bare known (c :: s))
      (rest : Cut known parts s) : Cut known (.character c :: parts) (c :: s)

namespace Cut

variable {parts others : List Part}

/-- The parts are what is written, in order, and nothing else. -/
theorem written_eq (h : Cut known parts s) : parts.flatMap Part.written = s := by
  induction h with
  | done => rfl
  | expression _ split _ ih => rw [List.flatMap_cons, ih, split, Part.written]
  | character _ _ ih => rw [List.flatMap_cons, ih]; rfl

theorem render_eq (h : Cut ctx.library.contains parts s) :
    render ctx s = parts.flatMap (Part.shown ctx) := by
  induction h with
  | done => rfl
  | expression hw split _ ih =>
    rw [split, render_written hw, ih, List.flatMap_cons, Part.shown]
  | character hbare _ ih => rw [render_character hbare, ih]; rfl

theorem unique (h : Cut known parts s) (h' : Cut known others s) : parts = others := by
  induction h generalizing others with
  | done =>
    cases h' with
    | done => rfl
    | expression hw split _ =>
      obtain ⟨c, cs, rfl⟩ := hw.exists_cons
      cases split
  | expression hw split _ ih =>
    cases h' with
    | done =>
      obtain ⟨c, cs, rfl⟩ := hw.exists_cons
      cases split
    | expression hw' split' rest' =>
      obtain ⟨rfl, rfl, rfl⟩ := hw.unique hw' (split.symm.trans split')
      rw [ih rest']
    | character hbare _ => exact absurd ⟨_, split.symm⟩ (hbare _ _ hw)
  | character hbare _ ih =>
    cases h' with
    | expression hw split _ => exact absurd ⟨_, split.symm⟩ (hbare _ _ hw)
    | character _ rest' => rw [ih rest']

end Cut

theorem exists_cut (known : Text → Bool) (s : Text) : ∃ parts, Cut known parts s := by
  induction hn : s.length using Nat.strongRecOn generalizing s with
  | ind n ih =>
    cases s with
    | nil => exact ⟨[], .done⟩
    | cons c s =>
      by_cases hbare : Bare known (c :: s)
      · obtain ⟨parts, hparts⟩ := ih s.length (by simp [← hn]) s rfl
        exact ⟨_, .character hbare hparts⟩
      · simp only [Bare, not_forall, not_not] at hbare
        obtain ⟨w, e, hw, rest, hsplit⟩ := hbare
        have hshorter : rest.length < n := by
          obtain ⟨d, ds, rfl⟩ := hw.exists_cons
          rw [← hn, ← hsplit]
          simp only [List.length_append, List.length_cons]
          omega
        obtain ⟨parts, hparts⟩ := ih rest.length hshorter rest rfl
        exact ⟨_, .expression hw hsplit.symm hparts⟩

theorem existsUnique_cut (known : Text → Bool) (s : Text) : ∃! parts, Cut known parts s := by
  obtain ⟨parts, hparts⟩ := exists_cut known s
  exact ⟨parts, hparts, fun _ h => h.unique hparts⟩

/-- For every text, and all names that are those of functions:

    * There is one list of characters and expressions that the text is cut into from left to
      right. The parts make up what is written, so that nothing is lost or taken twice.
    * In every context with functions of these names, whatever the functions give and whatever
      the variables are, the text is rendered as these parts in order: the characters as they
      are, and for each expression its value. What is put in for a value has no part in where
      the text is cut.
    * What begins like a call and is none, because its function is not known or because no
      arguments can be read there, stays as it is up to where its arguments would begin, and
      what stands there is rendered like any other text. -/
theorem render_of_cut (known : Text → Bool) (s : Text) :
    (∃ parts, (∀ others, Cut known others s ↔ others = parts) ∧
      parts.flatMap Part.written = s ∧
      ∀ ctx : Context, ctx.library.contains = known →
        render ctx s = parts.flatMap (Part.shown ctx)) ∧
    ∀ f, IsIdentifier f → ¬Calls known f s →
      ∀ ctx : Context, ctx.library.contains = known →
        render ctx ('$' :: (f ++ '(' :: s)) = '$' :: (f ++ '(' :: render ctx s) := by
  obtain ⟨parts, hparts, hunique⟩ := existsUnique_cut known s
  refine ⟨⟨parts, fun others => ⟨hunique others, fun h => h ▸ hparts⟩, hparts.written_eq, ?_⟩, ?_⟩
  · rintro ctx rfl
    exact hparts.render_eq
  · rintro f hf hcalls ctx rfl
    exact render_not_call hf hcalls

/-- A value that looks like an expression, in a call that is none. -/
example :
    let scope := Scope.empty.insert "x".toList (.string "$(y)$f('".toList)
    render ⟨.empty, scope.insert "y".toList (.string "z".toList)⟩ "$f($(x), $(y)".toList =
      "$f($(y)$f(', z".toList := by decide +kernel

end Template

end EdgeInclude
