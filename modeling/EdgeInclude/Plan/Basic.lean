import EdgeInclude.Assignment
import EdgeInclude.Condition.Verdict
import EdgeInclude.Markup.Comment
import EdgeInclude.Markup.Directive
import EdgeInclude.Plan.Element
import EdgeInclude.Settings

/-!
# Plans

Planning a document carries out every directive that only reads or binds
variables, in document order, and leaves the includes as elements of a queue. It
makes no request, so what is planned and how the variables end up does not
depend on what any request brings.

A model of `Processor::build_task` and `Processor::append_document`, and of
`Processor::tag_receiver` as far as it does not await anything.
-/

namespace EdgeInclude

/-- What planning yields: the elements of the output, the variables as they are afterwards, and what
    has been written to the log (`document::Task`, with the variables and the log). -/
structure Plan where
  elements : List Element
  scope : Scope
  events : List Event

namespace Plan

/-- The name that is bound while a case of a choice applies (`variables::MATCHES`). -/
def matchesName : Text := "MATCHES".toList

/-- A plan without elements. -/
def nothing (scope : Scope) (events : List Event) : Plan := ⟨[], scope, events⟩

/-- A plan of a text. -/
def text (s : Text) (scope : Scope) (events : List Event) : Plan := ⟨[.text s], scope, events⟩

/-- A plan followed by what is planned under the variables that it leaves. -/
def append (p : Plan) (next : Scope → Plan) : Plan :=
  let q := next p.scope
  ⟨p.elements ++ q.elements, q.scope, p.events ++ q.events⟩

/-- A plan with something written to the log before it. -/
def after (events : List Event) (p : Plan) : Plan := { p with events := events ++ p.events }

/-- The queue of a plan: its elements, with texts joined. -/
def queue (p : Plan) : List Element := Element.merge p.elements

/-! ## Directives -/

/-- Plans an include (`Processor::include`). Its URLs are substituted at once, but what it brings is
    processed under the variables that will be in the cell. -/
def ofInclude (i : Interpreter) (cell : Cell) (src alt : Option Text) (reprocess continueOnError : Bool)
    (scope : Scope) : Plan :=
  let ctx := i.context scope
  match src with
  | some (c :: cs) =>
    { elements := [.pending
        { src := Template.render ctx (c :: cs)
          alt := alt.map (Template.render ctx)
          reprocess := reprocess
          continueOnError := continueOnError } cell]
      scope := scope
      events := Template.events ctx (c :: cs) ++ (alt.map (Template.events ctx)).getD [] }
  | _ => nothing scope [.line .error "<esi:include> without a src attribute".toList]

/-- Plans an assignment (`Processor::assign`). -/
def ofAssign (i : Interpreter) (name : Option Text) (value : Text) (scope : Scope) : Plan :=
  let ctx := i.context scope
  match name with
  | some name =>
    nothing (scope.insert name (Assignment.value ctx value)) (Assignment.events ctx value)
  | none => nothing scope [.warn "<esi:assign> without a name attribute".toList]

/-- The variables in a case that applies: the value of its verdict is bound to the name that
    the case gives, if any, and to `MATCHES`. -/
def bindMatch (matchName : Option Text) (value : Value) (scope : Scope) : Scope :=
  let scope :=
    match matchName with
    | some name => scope.insert name value
    | none => scope
  scope.insert matchesName value

/-- Plans a case with a condition (the case `when` of `Processor::tag_receiver`). It applies if none
    has applied before and its condition holds; the condition is not looked at otherwise. -/
def ofWhen (i : Interpreter) (nested : Text → Scope → Plan) (test matchName : Option Text)
    (body : Text) (scope : Scope) : Plan :=
  if scope.hasOwn matchesName then nothing scope []
  else
    match test with
    | none => nothing scope [.warn "<esi:when> without a test attribute".toList]
    | some test =>
      let found := (Condition.ofText test).decide (i.context scope)
      if found.verdict.holds then
        after found.events (nested body (bindMatch matchName found.verdict.value scope))
      else nothing scope found.events

/-- Plans a choice (the case `choose` of `Processor::tag_receiver`). Whether a case applies is kept
    apart from a choice around it. -/
def ofChoose (nested : Text → Scope → Plan) (body : Text) (scope : Scope) : Plan :=
  let p := nested body (scope.removeOwn matchesName)
  { p with scope := p.scope.restoreOwn matchesName (scope.own matchesName) }

/-- Plans a block that is tried (the planning half of `Processor::try_block`). What it attempts is
    planned as part of the document around it, whether or not it will fail. -/
def ofTry (i : Interpreter) (cell : Cell) (nested : Text → Scope → Plan) (body : Text)
    (scope : Scope) : Plan :=
  let parts := TryParts.ofBody i.settings.ns body
  let p := nested parts.attempt scope
  { p with elements := [.attempt p.queue parts.except cell] }

/-- The log line about a tag that is not known (the last case of `Processor::tag_receiver`). -/
def unsupported (i : Interpreter) (name : Text) : Event :=
  .warn ("unsupported tag <".toList ++ i.settings.ns ++ ':' :: name ++
    ">, passing it through".toList)

/-- Plans a directive, where `nested` plans the document in its body (`Processor::tag_receiver`). -/
def ofDirective (i : Interpreter) (cell : Cell) (nested : Text → Scope → Plan) (d : Directive)
    (scope : Scope) : Plan :=
  let ctx := i.context scope
  match d with
  | .include src alt reprocess continueOnError =>
    ofInclude i cell src alt reprocess continueOnError scope
  | .tryBlock body => ofTry i cell nested body scope
  | .show template => text (Template.render ctx template) scope (Template.events ctx template)
  | .vars body => nested body scope
  | .choose body => ofChoose nested body scope
  | .when test matchName body => ofWhen i nested test matchName body scope
  | .otherwise body =>
    if scope.hasOwn matchesName then nothing scope [] else nested body scope
  | .assign name value => ofAssign i name value scope
  | .verbatim body => text body scope []
  | .nothing => nothing scope []
  | .unknown name raw => text raw scope [unsupported i name]

/-! ## Documents -/

/-- Plans a fragment of a document. Text is a template if `substitute` says so. -/
def ofFragment (i : Interpreter) (cell : Cell) (nested : Text → Scope → Plan)
    (substitute : Bool) (f : Fragment) (scope : Scope) : Plan :=
  match f with
  | .text s =>
    if substitute then
      text (Template.render (i.context scope) s) scope (Template.events (i.context scope) s)
    else text s scope []
  | .tag t => ofDirective i cell nested (Directive.ofTag t) scope

/-- Plans fragments in order, each under the variables that those before it leave (the loop of
    `Processor::append_document`). -/
def ofFragments (i : Interpreter) (cell : Cell) (nested : Text → Scope → Plan)
    (substitute : Bool) : List Fragment → Scope → Plan
  | [], scope => nothing scope []
  | f :: fs, scope =>
    append (ofFragment i cell nested substitute f scope) (ofFragments i cell nested substitute fs)

/-- The fragments of a document. -/
def fragmentsOf (settings : Settings) (document : Text) : List Fragment :=
  let unwrapped := if settings.comments then Comment.unwrap settings.ns document else document
  (Markup.scan settings.ns unwrapped).fragments

/-- Plans a document whose directives are nested no deeper than `depth`
    (`Processor::append_document`). -/
def ofNested (i : Interpreter) (cell : Cell) :
    (depth : Nat) → (substitute : Bool) → Text → Scope → Plan
  | 0, _, _, scope => nothing scope []
  | depth + 1, substitute, document, scope =>
    ofFragments i cell (ofNested i cell depth true) substitute (fragmentsOf i.settings document) scope

/-- Plans a document for the level with the given cell. Directives cannot be nested deeper
    than the document is long. -/
def ofDocument (i : Interpreter) (cell : Cell) (substitute : Bool) (document : Text)
    (scope : Scope) : Plan :=
  ofNested i cell (document.length + 1) substitute document scope

end Plan

/-! ## Levels -/

/-- A level as planning leaves it: its plan, its cell, and all cells (what `Processor::build_task`
    leaves). -/
structure Pass where
  plan : Plan
  cell : Cell
  store : Store

namespace Pass

/-- Plans a document as a level of its own (`Processor::build_task`). Its cell is sealed once the
    whole of it is planned. -/
def ofDocument (i : Interpreter) (store : Store) (substitute : Bool) (document : Text)
    (scope : Scope) : Pass :=
  let cell := store.nextCell
  let plan := Plan.ofDocument i cell substitute document scope
  { plan := plan, cell := cell, store := store.allocate.fill cell plan.scope }

end Pass

end EdgeInclude
