import EdgeInclude.Error
import EdgeInclude.Library.Basic

/-!
# Events

What processing does besides producing text: the requests that it makes, the
lines that it writes to the log, and the faults that break it off.

That is what is seen of a run from the outside: the calls of `Fetcher::fetch`,
the lines of the `log` package, and panics.
-/

namespace EdgeInclude

/-- The weight of a log line (`log::Level`). -/
inductive Level where
  | debug
  | warn
  | error
  deriving DecidableEq, Repr

/-- Something that happens while a document is processed. -/
inductive Event where
  | request (url : Text)
  | line (level : Level) (text : Text)
  | fault (f : Fault)
  deriving DecidableEq

namespace Event

/-- The URL that an event requests. -/
def request? : Event → Option Text
  | request url => some url
  | _ => none

/-- Whether an event is a fault. -/
def isFault : Event → Bool
  | fault _ => true
  | _ => false

/-- The URLs requested, in order. -/
def requests (events : List Event) : List Text := events.filterMap request?

/-- A log line of weight `debug`. -/
def debug (text : Text) : Event := line .debug text

/-- A log line of weight `warn`. -/
def warn (text : Text) : Event := line .warn text

end Event

end EdgeInclude
