import EdgeInclude.Proofs.Plan.Step

/-!
# Planning makes no requests

Evaluating expressions and deciding conditions leaves lines in the log, and where a call of a
library function is a fault, that fault. So does planning a document; what is requested is
requested when the level is run.

Results:
* `faults_of_eval`: only a library function makes the evaluation of an expression a fault.
* `evaluated_decide`: deciding a condition makes no request, and no other fault.
* `evaluated_ofNested`, `quiet_ofNested`: nor does planning a document.
-/

namespace EdgeInclude

/-- Whether some call of a library is a given fault. -/
def Library.Faults (lib : Library) (f : Fault) : Prop :=
  ∃ name args, lib.call name args = .error (.fault f)

namespace Event

/-- Events without a request among them. -/
def Quiet (events : List Event) : Prop := ∀ e ∈ events, e.request? = none

/-- What evaluating with a library can leave: lines in the log, and faults of its functions. -/
inductive Evaluates (lib : Library) : Event → Prop where
  | line (level : Level) (text : Text) : Evaluates lib (.line level text)
  | fault {f : Fault} (faults : lib.Faults f) : Evaluates lib (.fault f)

/-- Events that evaluating with a library can leave. -/
def Evaluated (lib : Library) (events : List Event) : Prop := ∀ e ∈ events, e.Evaluates lib

variable {lib : Library} {events more : List Event}

theorem quiet_singleton {e : Event} (h : e.request? = none) : Quiet [e] :=
  List.forall_mem_singleton.2 h

theorem Quiet.append (h : Quiet events) (hmore : Quiet more) : Quiet (events ++ more) :=
  List.forall_mem_append.2 ⟨h, hmore⟩

theorem evaluated_nil : Evaluated lib [] := List.forall_mem_nil _

theorem evaluated_line (level : Level) (text : Text) : Evaluated lib [.line level text] :=
  List.forall_mem_singleton.2 (.line level text)

theorem Evaluated.append (h : Evaluated lib events) (hmore : Evaluated lib more) :
    Evaluated lib (events ++ more) :=
  List.forall_mem_append.2 ⟨h, hmore⟩

theorem evaluated_flatMap {α : Type} {l : List α} {f : α → List Event}
    (h : ∀ a ∈ l, Evaluated lib (f a)) : Evaluated lib (l.flatMap f) := by
  intro e he
  obtain ⟨a, ha, he⟩ := List.mem_flatMap.1 he
  exact h a ha e he

theorem Evaluated.quiet (h : Evaluated lib events) : Quiet events := by
  intro e he
  cases h e he with
  | line level text => rfl
  | fault _ => rfl

end Event

open Event

variable {ctx : Context}

/-! ## Expressions and conditions -/

namespace Expr

mutual

/-- Only a library function makes the evaluation of an expression a fault. -/
theorem faults_of_eval (e : Expr) {f : Fault} (h : e.eval ctx = .error (.fault f)) :
    ctx.library.Faults f := by
  match e with
  | .integer n | .string s | .reference ref => cases h
  | .call name args =>
    rw [eval] at h
    split at h
    · next values _ => exact ⟨name, values, h⟩
    · next cause hargs =>
      cases h
      exact faults_of_evalAll args hargs

theorem faults_of_evalAll (es : List Expr) {f : Fault} (h : evalAll ctx es = .error (.fault f)) :
    ctx.library.Faults f := by
  match es with
  | [] => cases h
  | e :: es =>
    rw [evalAll] at h
    split at h
    · split at h
      · cases h
      · next cause hes =>
        cases h
        exact faults_of_evalAll es hes
    · next cause he =>
      cases h
      exact faults_of_eval e he

end

theorem evaluated_events (e : Expr) : Evaluated ctx.library (e.events ctx) := by
  unfold events
  split
  · exact evaluated_nil
  · exact evaluated_line _ _
  · next f hfault => exact List.forall_mem_singleton.2 (.fault (faults_of_eval e hfault))

end Expr

theorem Template.evaluated_events (s : Text) : Evaluated ctx.library (Template.events ctx s) := by
  refine evaluated_flatMap fun segment _ => ?_
  cases segment with
  | literal c => exact evaluated_nil
  | refused reason => exact evaluated_line _ _
  | expression e => exact Expr.evaluated_events e

theorem Assignment.evaluated_events (s : Text) :
    Evaluated ctx.library (Assignment.events ctx s) := by
  unfold events
  split
  · exact evaluated_nil
  · split
    · exact Expr.evaluated_events _
    · exact (Expr.evaluated_events _).append (Template.evaluated_events _)
    · exact (evaluated_line _ _).append (Template.evaluated_events _)
    · exact Template.evaluated_events _

namespace Condition

theorem evaluated_findPattern {lib : Library} (ignoreCase : Bool) (pattern s : Text) :
    Evaluated lib (findPattern ignoreCase pattern s).events := by
  unfold findPattern
  split
  · exact evaluated_line _ _
  · exact evaluated_nil
  · exact evaluated_nil

theorem evaluated_compare {lib : Library} (left right : Text) (sign : Comparison) :
    Evaluated lib (compare left right sign).events := by
  cases sign with
  | «matches» | matchesAnyCase => exact evaluated_findPattern _ _ _
  | equal | notEqual | atLeast | atMost | has | hasAnyCase => exact evaluated_nil

theorem evaluated_decideTerm (t : Term) : Evaluated ctx.library (t.decide ctx).events := by
  have hoperand : ∀ operand : Operand, Evaluated ctx.library (operand.events ctx) := by
    intro operand
    cases operand with
    | raw s => exact evaluated_nil
    | template s => exact Template.evaluated_events s
  show Evaluated ctx.library (t.question.answer ctx).events
  cases t.question with
  | comparison left sign right =>
    exact ((hoperand left).append (hoperand right)).append (evaluated_compare _ _ sign)
  | nonEmpty template => exact Template.evaluated_events template

theorem evaluated_decideFrom {found : Finding} (h : Evaluated ctx.library found.events)
    (terms : List (Connective × Term)) :
    Evaluated ctx.library (decideFrom ctx found terms).events := by
  induction terms generalizing found with
  | nil => exact h
  | cons next terms ih =>
    rw [decideFrom]
    split
    · exact h
    · exact ih (h.append (evaluated_decideTerm _))

/-- Deciding a condition makes no request, and only a library function makes it a fault. -/
theorem evaluated_decide (c : Condition) : Evaluated ctx.library (c.decide ctx).events :=
  evaluated_decideFrom (evaluated_decideTerm _) _

end Condition

/-! ## Documents -/

namespace Plan

variable {i : Interpreter} {cell : Cell} {nested : Text → Scope → Plan}

/-- A directive leaves what evaluating can leave, if what is inside of it does. -/
theorem evaluated_ofDirective {d : Directive} {scope : Scope}
    (h : ∀ body scope, Evaluated i.library (nested body scope).events) :
    Evaluated i.library (ofDirective i cell nested d scope).events := by
  cases d with
  | «include» src alt reprocess continueOnError =>
    simp only [ofDirective, ofInclude]
    split
    · refine (Template.evaluated_events _).append ?_
      cases alt with
      | none => exact evaluated_nil
      | some alt => exact Template.evaluated_events alt
    · exact evaluated_line _ _
  | tryBlock body => exact h _ scope
  | «show» template => exact Template.evaluated_events template
  | vars body => exact h body scope
  | choose body => exact h body _
  | when test matchName body =>
    simp only [ofDirective, ofWhen]
    split
    · exact evaluated_nil
    · split
      · exact evaluated_line _ _
      · split
        · exact (Condition.evaluated_decide _).append (h body _)
        · exact Condition.evaluated_decide _
  | otherwise body =>
    simp only [ofDirective]
    split
    · exact evaluated_nil
    · exact h body scope
  | assign name value =>
    cases name with
    | none => exact evaluated_line _ _
    | some name => exact Assignment.evaluated_events value
  | verbatim body | nothing => exact evaluated_nil
  | unknown name raw => exact evaluated_line _ _

theorem evaluated_ofFragment {substitute : Bool} {f : Fragment} {scope : Scope}
    (h : ∀ body scope, Evaluated i.library (nested body scope).events) :
    Evaluated i.library (ofFragment i cell nested substitute f scope).events := by
  cases f with
  | text s =>
    cases substitute with
    | false => exact evaluated_nil
    | true => exact Template.evaluated_events s
  | tag t => exact evaluated_ofDirective h

/-- Planning a document makes no request, and only a library function makes it a fault. -/
theorem evaluated_ofNested (depth : Nat) (substitute : Bool) (document : Text) (scope : Scope) :
    Evaluated i.library (ofNested i cell depth substitute document scope).events := by
  refine stepsOfNested_induction (Q := fun _ _ plan => Evaluated i.library plan.events)
    (fun _ => evaluated_nil) ?_ depth substitute document scope
  intro depth substitute f scope steps rest hinner hrest
  exact (evaluated_ofFragment hinner).append hrest

theorem quiet_ofNested (depth : Nat) (substitute : Bool) (document : Text) (scope : Scope) :
    Quiet (ofNested i cell depth substitute document scope).events :=
  (evaluated_ofNested depth substitute document scope).quiet

end Plan

end EdgeInclude
