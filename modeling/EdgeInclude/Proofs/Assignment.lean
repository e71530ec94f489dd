import EdgeInclude.Assignment
import EdgeInclude.Proofs.Expression.Segments

/-!
# Assignments and templates

The value that is assigned keeps its kind where the text is one expression, and is a text anywhere
else. A variable is shown the same either way: as the text with its expressions replaced, which is
what the text is rendered as where it stands in a document. Only a literal, which begins with a
quote, is taken as it is.

Results:
* `value_written`, `value_template`: the value of one expression, and of any other text.
* `firstFault_eq`: an assignment breaks off as rendering does.
* `value_agrees_with_render`: how a value is shown, and when it keeps its kind.
-/

namespace EdgeInclude

namespace Assignment

variable {ctx : Context} {s : Text} {v : Value} {e : Expr}

/-! ## Null -/

theorem nonNull_ne_null (v : Value) : nonNull v ≠ .null := by
  cases v <;> exact nofun

theorem nonNull_eq_self (h : v ≠ .null) : nonNull v = v := by
  cases v with
  | null => exact absurd rfl h
  | string | integer | boolean | list | dictionary => rfl

/-- Null is shown as the empty text, which takes its place. -/
theorem display_nonNull (v : Value) : (nonNull v).display = v.display := by
  cases v <;> rfl

/-! ## Values -/

theorem value_of_read (hquote : s.head? ≠ some '\'') :
    value ctx s =
      match Expr.read ctx.library.contains s with
      | .expression e [] => nonNull (e.value ctx)
      | _ => .string (Template.render ctx s) := by
  unfold value
  split
  · exact absurd rfl hquote
  · rfl

/-- A text that is one expression has the value of the expression. -/
theorem value_written (h : e.IsWritten ctx.library.contains s) :
    value ctx s = nonNull (e.value ctx) := by
  have hread : Expr.read ctx.library.contains s = .expression e [] :=
    Expr.read_eq_expression_iff_isWritten.2 ⟨s, h, (List.append_nil s).symm⟩
  have hquote : s.head? ≠ some '\'' := by
    obtain ⟨c, cs, rfl⟩ := h.exists_cons
    exact fun hhead => absurd (Option.some.inj hhead) (by decide)
  rw [value_of_read hquote, hread]

/-- A text that is neither a literal nor one expression has a text for its value. -/
theorem value_template (hquote : s.head? ≠ some '\'')
    (h : ∀ e : Expr, ¬e.IsWritten ctx.library.contains s) :
    value ctx s = .string (Template.render ctx s) := by
  rw [value_of_read hquote]
  split
  · next e hread =>
    obtain ⟨w, hw, hs⟩ := Expr.read_eq_expression_iff_isWritten.1 hread
    rw [List.append_nil] at hs
    exact absurd (hs ▸ hw) (h e)
  · rfl

/-- An assignment that is no literal has one of two values. -/
theorem value_cases (hquote : s.head? ≠ some '\'') :
    (∃ e : Expr, e.IsWritten ctx.library.contains s ∧ value ctx s = nonNull (e.value ctx)) ∨
      value ctx s = .string (Template.render ctx s) := by
  by_cases h : ∃ e : Expr, e.IsWritten ctx.library.contains s
  · obtain ⟨e, he⟩ := h
    exact .inl ⟨e, he, value_written he⟩
  · exact .inr (value_template hquote (not_exists.1 h))

theorem value_ne_null (ctx : Context) (s : Text) : value ctx s ≠ .null := by
  by_cases hquote : s.head? = some '\''
  · obtain ⟨literal, rfl⟩ := List.head?_eq_some_iff.1 hquote
    exact nofun
  · obtain ⟨e, -, hvalue⟩ | hvalue := @value_cases ctx s hquote <;> rw [hvalue]
    · exact nonNull_ne_null _
    · exact nofun

/-- A template that is one expression is rendered as its value is shown. -/
theorem render_of_isWritten (h : e.IsWritten ctx.library.contains s) :
    Template.render ctx s = (e.value ctx).display := by
  have hrender := Template.render_written h []
  rwa [List.append_nil, Template.render_eq_self List.not_mem_nil, List.append_nil] at hrender

theorem display_value (hquote : s.head? ≠ some '\'') :
    (value ctx s).display = Template.render ctx s := by
  obtain ⟨e, he, hvalue⟩ | hvalue := @value_cases ctx s hquote <;> rw [hvalue]
  · rw [display_nonNull, render_of_isWritten he]
  · rw [Value.display]

/-! ## Faults -/

theorem events_of_read (hquote : s.head? ≠ some '\'') :
    events ctx s =
      match Expr.read ctx.library.contains s with
      | .expression e [] => e.events ctx
      | .expression e _ => e.events ctx ++ Template.events ctx s
      | .refused reason => Segment.refusal reason :: Template.events ctx s
      | .plain => Template.events ctx s := by
  unfold events
  split
  · exact absurd rfl hquote
  · rfl

/-- An assignment breaks off where rendering does. What is evaluated twice is at the start, and so
    the first fault is the same. -/
theorem firstFault_eq (hquote : s.head? ≠ some '\'') :
    (events ctx s).find? Event.isFault = (Template.events ctx s).find? Event.isFault := by
  rw [events_of_read hquote]
  cases hread : Expr.read ctx.library.contains s with
  | plain => rfl
  | refused reason => rfl
  | expression e rest =>
    obtain ⟨w, hw, rfl⟩ := Expr.read_eq_expression_iff_isWritten.1 hread
    rw [Template.events_written hw]
    cases rest with
    | nil => exact congrArg _ (List.append_nil _).symm
    | cons c cs => rw [List.find?_append, List.find?_append, ← Option.or_assoc, Option.or_self]

/-! ## Agreement -/

/-- For every context and every text that is assigned in it:

    * The value is never null.
    * Unless the text begins with a quote, the value is shown as the text is rendered.
    * Unless it does, assigning and rendering it break off with the same fault, or neither does.
    * If the text is one expression with a value that is not null, this is the value.
    * If it is no expression as a whole, and does not begin with a quote, the value is a text. -/
theorem value_agrees_with_render (ctx : Context) (s : Text) :
    value ctx s ≠ .null ∧
      (s.head? ≠ some '\'' → (value ctx s).display = Template.render ctx s) ∧
      (s.head? ≠ some '\'' →
        (events ctx s).find? Event.isFault = (Template.events ctx s).find? Event.isFault) ∧
      (∀ e : Expr, e.IsWritten ctx.library.contains s → e.value ctx ≠ .null →
        value ctx s = e.value ctx) ∧
      (s.head? ≠ some '\'' → (∀ e : Expr, ¬e.IsWritten ctx.library.contains s) →
        value ctx s = .string (Template.render ctx s)) := by
  refine ⟨value_ne_null ctx s, display_value, firstFault_eq, fun e he hnull => ?_, value_template⟩
  rw [value_written he, nonNull_eq_self hnull]

end Assignment

end EdgeInclude
