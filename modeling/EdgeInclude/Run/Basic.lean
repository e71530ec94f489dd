import EdgeInclude.Entity.Reference
import EdgeInclude.Plan.Basic
import EdgeInclude.Run.Course

/-!
# Runs

Processing a document: planning it, and running the queue of its elements. All
requests of a level are begun together, and what the end of one calls for, such
as another request or the processing of what it brought, happens in the round in
which it ends.

Documents that are brought by requests are processed by way of an argument that
bounds how deeply they are nested; a run that goes deeper is not known. More
depth never changes a run that is known to its end.

A model of `Processor::fetch_include`, `Processor::fetch_fragment`,
`Processor::interpret` and `Task::resolve`, and of what `Processor::try_block`
awaits.
-/

namespace EdgeInclude

/-- What requests bring, and after how many rounds (`fetch::Fetcher`). Both depend on the URL alone,
    and every request has an end: a fetcher that keeps a state, whose answer depends on anything but
    the URL, or that lets a request wait for another one or for ever, is not expressed. -/
structure Fetcher where
  answer : Text → Except Error Text
  delay : Text → Nat

/-- An interpreter with the means to make requests. -/
structure Processor extends Interpreter where
  fetcher : Fetcher

namespace Processor

/-- The URL that is requested for the URL of an include (`Processor::fetch_fragment`). -/
def requestUrl (p : Processor) (url : Text) : Text :=
  if p.settings.escaped then Entity.unescapeUrl url else url

/-- Requests a URL (`Fetcher::fetch`, as `Processor::fetch_fragment` calls it). -/
def request (p : Processor) (start : Nat) (url : Text) : Course where
  events := [(start, .request (p.requestUrl url))]
  finish := start + p.fetcher.delay (p.requestUrl url)
  ending := some (p.fetcher.answer (p.requestUrl url))

/-! ## Includes -/

/-- The log line about an include whose other URL is tried. -/
def altLine (src : Text) (e : Error) (alt : Text) : Event :=
  .debug ("request for ".toList ++ src ++ " failed (".toList ++ e.message ++
    "), trying alt ".toList ++ alt)

/-- The log line about an include that counts as empty. -/
def continueLine (src : Text) (e : Error) : Event :=
  .warn ("include ".toList ++ src ++ " failed, continuing: ".toList ++ e.message)

/-- The log line about an include that fails. -/
def failureLine (src : Text) (e : Error) : Event :=
  .line .error ("include ".toList ++ src ++ " failed: ".toList ++ e.message)

/-- Requests the content of an include: its first URL and, if that fails and there is another one,
    the other (the first half of `Processor::fetch_include`). -/
def fetchInclude (p : Processor) (start : Nat) (i : Include) : Course :=
  (p.request start i.src).andThen fun round result =>
    match result, i.alt with
    | .error e, some alt => .note round [altLine i.src e alt] (p.request round alt)
    | result, _ => ⟨[], round, some result⟩

/-- Runs an include under the variables `scope`; `process` processes the documents that requests
    bring (`Processor::fetch_include`). -/
def runInclude (p : Processor) (process : Nat → Text → Scope → Course) (scope : Scope)
    (start : Nat) (i : Include) : Course :=
  (p.fetchInclude start i).andThen fun round result =>
    match result with
    | .ok body => if i.reprocess then process round body scope else .done round body
    | .error e =>
      if i.continueOnError then .note round [continueLine i.src e] (.done round [])
      else .note round [failureLine i.src e] (.fail round (.unresolvedInclude i.src e))

/-! ## Elements -/

/-- The log line about a block whose other part is processed. -/
def exceptLine (e : Error) : Event :=
  .warn ("esi:attempt failed, processing esi:except: ".toList ++ e.message)

mutual

/-- Runs an element, where `layer` is a layer over the variables in a cell (`Task::resolve`, and
    what `Processor::try_block` awaits). -/
def runElement (p : Processor) (process : Nat → Text → Scope → Course) (layer : Cell → Scope)
    (start : Nat) : Element → Course
  | .text s => .done start s
  | .pending i cell => p.runInclude process (layer cell) start i
  | .attempt queue except cell =>
    (Course.join start (runElements p process layer start queue)).andThen fun round result =>
      match result, except with
      | .error e, some document =>
        .note round [exceptLine e] (process round document (layer cell))
      | result, _ => ⟨[], round, some result⟩

/-- Runs elements, each by itself. -/
def runElements (p : Processor) (process : Nat → Text → Scope → Course)
    (layer : Cell → Scope) (start : Nat) : List Element → List Course
  | [] => []
  | e :: es => runElement p process layer start e :: runElements p process layer start es

end

theorem runElements_eq_map (p : Processor) (process : Nat → Text → Scope → Course)
    (layer : Cell → Scope) (start : Nat) (es : List Element) :
    p.runElements process layer start es = es.map (p.runElement process layer start) := by
  induction es with
  | nil => rfl
  | cons e es ih => rw [runElements, ih, List.map_cons]

/-! ## Documents -/

/-- Runs a plan (the second half of `Processor::interpret`). -/
def runPlan (p : Processor) (process : Nat → Text → Scope → Course) (layer : Cell → Scope)
    (start : Nat) (plan : Plan) : Course :=
  .note start (plan.events ++ [Element.queueLine plan.queue])
    (.join start (p.runElements process layer start plan.queue))

/-- Runs a level, with the cells as they are once it is planned. -/
def runPass (p : Processor) (process : Store → Nat → Text → Scope → Course) (start : Nat)
    (pass : Pass) : Course :=
  p.runPlan (process pass.store) pass.store.child start pass.plan

/-- Processes a document that a request brought, from a round on (`Processor::interpret`, as
    `Processor::fetch_include` and `Processor::try_block` call it). -/
def process (p : Processor) : (depth : Nat) → Store → (start : Nat) → Text → Scope → Course
  | 0, _, start, _, _ => .unknown start
  | depth + 1, store, start, document, scope =>
    p.runPass (p.process depth) start (.ofDocument p.toInterpreter store true document scope)

end Processor

end EdgeInclude
