import EdgeInclude.Event
import EdgeInclude.Store
import EdgeInclude.Text.Utf8

/-!
# Elements

The output of a document before its requests are made: final text, and elements
whose text depends on requests.

A model of `document::Element` and of the queue of a `document::Task`.
-/

namespace EdgeInclude

/-- An include with its URLs substituted (what `Processor::include` makes). -/
structure Include where
  src : Text
  alt : Option Text
  /-- Whether the content is a document that is to be processed itself. -/
  reprocess : Bool
  /-- Whether a failure counts as empty content. -/
  continueOnError : Bool
  deriving DecidableEq

/-- A part of the output (`document::Element`, with what is pending in place of a future). What is
    processed later reads its variables from the cell of the level. -/
inductive Element where
  /-- Final text. -/
  | text (s : Text)
  /-- Content that a request brings. -/
  | pending (i : Include) (cell : Cell)
  /-- A queue of elements, and a document that is processed if one of them fails. -/
  | attempt (queue : List Element) (except : Option Text) (cell : Cell)

namespace Element

/-- Joins texts that follow one another, and drops empty ones (`Task::push_raw`). -/
def merge : List Element → List Element
  | [] => []
  | text s :: rest =>
    match merge rest with
    | text t :: rest => text (s ++ t) :: rest
    | rest => if s.isEmpty then rest else text s :: rest
  | e :: rest => e :: merge rest

/-- The log's word for an element (the `Debug` of `document::Element`). -/
def describe : Element → Text
  | text s => "Raw(".toList ++ Text.ofNat s.byteCount ++ " bytes)".toList
  | pending _ _ => "Pending".toList
  | attempt _ _ _ => "Pending".toList

/-- The log line about a queue whose requests are about to be made (the log line of
    `Processor::interpret`). -/
def queueLine (queue : List Element) : Event :=
  .debug ("Elements to fetch: [".toList ++ Text.joinWith [',', ' '] (queue.map describe) ++ [']'])

end Element

end EdgeInclude
