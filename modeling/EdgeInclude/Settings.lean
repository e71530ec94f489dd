import EdgeInclude.Expression.Basic

/-!
# Settings

What can be chosen about the processing of documents.

A model of `config::Configuration`.
-/

namespace EdgeInclude

/-- The settings of a processor (`config::Configuration`). -/
structure Settings where
  /-- The namespace of the tags that are instructions. -/
  ns : Text := ['e', 's', 'i']
  /-- Whether the URLs in attributes are written with character references. -/
  escaped : Bool := true
  /-- Whether comment wrappers are unwrapped. -/
  comments : Bool := true
  /-- Whether a document that cannot be assembled is answered as it is. -/
  passthrough : Bool := false

/-- What the meaning of a document depends on besides its variables: the settings and the library of
    functions (the fields of `Processor` but the fetcher). -/
structure Interpreter where
  settings : Settings
  library : Library

namespace Interpreter

/-- The context in which expressions are evaluated under a scope (`EvalContext::new`). -/
def context (i : Interpreter) (scope : Scope) : Context := ⟨i.library, scope⟩

end Interpreter

end EdgeInclude
