import EdgeInclude.Run.Basic

/-!
# Processors

Processing documents from the outside: the text or error that a document comes
to, what happens meanwhile, and the variables as they are afterwards.

A fault breaks a run off. The outcome of a run has the fault among its events,
and goes on behind it as if the call had come to nothing; what the caller gets
is the exit of the outcome, which ends with the first fault.

A model of `Processor::interpret` and of what calls it:
`Processor::process_document`, `Processor::process_document_with` and
`adapter::respond`.
-/

namespace EdgeInclude

/-- What processing a document comes to. If there is a fault among the events, only the events
    up to the first one come about, and nothing else that is said here. -/
structure Outcome where
  result : Except Error Text
  events : List Event
  /-- The variables of the caller afterwards. -/
  scope : Scope

/-- How processing a document gives back control. -/
inductive Exit where
  /-- It comes to its end. -/
  | returned (o : Outcome)
  /-- It is broken off by a fault once the given events have happened. -/
  | faulted (events : List Event) (f : Fault)

namespace Outcome

/-- The URLs requested, in order. -/
def requests (o : Outcome) : List Text := Event.requests o.events

/-- How a run with this outcome gives back control. -/
def exit (o : Outcome) : Exit :=
  match o.events.dropWhile (!·.isFault) with
  | .fault f :: _ => .faulted (o.events.takeWhile (!·.isFault)) f
  | _ => .returned o

end Outcome

namespace Processor

/-- Processes a document under variables, where documents that requests bring are nested
    less deeply than `depth`. Text outside of tags is a template if `substitute` says so. A fault
    is one of the events; see `Outcome.exit` for where it breaks the run off. -/
def interpretWithin? (p : Processor) (depth : Nat) (substitute : Bool) (document : Text)
    (scope : Scope) : Option Outcome :=
  let pass := Pass.ofDocument p.toInterpreter .empty substitute document scope
  let course := p.runPass (p.process depth) 0 pass
  course.ending.map fun result => ⟨result, course.events.map Prod.snd, pass.plan.scope⟩

/-- Processes a document under variables, or gives up on one whose requests bring documents nested
    at least `limit` deep (`Processor::interpret`). -/
def interpret? (p : Processor) (limit : Nat) (substitute : Bool) (document : Text)
    (scope : Scope) : Option Outcome :=
  (List.range limit).findSome? fun depth => p.interpretWithin? depth substitute document scope

theorem interpretWithin?_of_interpret? {p : Processor} {limit : Nat} {substitute : Bool}
    {document : Text} {scope : Scope} {o : Outcome}
    (h : p.interpret? limit substitute document scope = some o) :
    ∃ depth, p.interpretWithin? depth substitute document scope = some o := by
  obtain ⟨depth, -, hdepth⟩ := List.exists_of_findSome?_eq_some h
  exact ⟨depth, hdepth⟩

/-- Processes a document under variables (`Processor::process_document_with`). -/
def processWith? (p : Processor) (limit : Nat) (document : Text) (scope : Scope) :
    Option Outcome :=
  p.interpret? limit true document scope

/-- Processes a document without variables (`Processor::process_document`). -/
def process? (p : Processor) (limit : Nat) (document : Text) : Option Outcome :=
  p.processWith? limit document Scope.empty

/-- The log line about a document that is answered as it is. -/
def passthroughLine (e : Error) : Event :=
  .warn ("error processing ESI document, returning it unprocessed: ".toList ++ e.message)

/-- The log line about a document that cannot be assembled. -/
def documentErrorLine (e : Error) : Event :=
  .line .error ("error processing ESI document: ".toList ++ e.message)

/-- The answer to a request that carries a document (`adapter::respond`). -/
def respond? (p : Processor) (limit : Nat) (document : Text) : Option Outcome :=
  (p.process? limit document).map fun o =>
    match o.result with
    | .ok _ => o
    | .error e =>
      if p.settings.passthrough then
        { o with result := .ok document, events := o.events ++ [passthroughLine e] }
      else { o with events := o.events ++ [documentErrorLine e] }

end Processor

end EdgeInclude
