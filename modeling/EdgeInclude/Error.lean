import EdgeInclude.Text.Basic

/-!
# Errors

Why a document, or a part of it, cannot be assembled.

A model of `error::ExecutionError`.
-/

namespace EdgeInclude

/-- Why a request or the processing of a document failed (`error::ExecutionError`). -/
inductive Error where
  /-- The response had a status that is an error. -/
  | unexpectedStatus (url : Text) (status : Nat)
  /-- The request could not be sent, or its response not be read. -/
  | requestFailed (url reason : Text)
  /-- The URL is none that a request can be made of. -/
  | invalidUrl (url : Text)
  /-- An include failed for the given reason and nothing recovered it. -/
  | unresolvedInclude (url : Text) (source : Error)
  /-- A library function refused its arguments. -/
  | function (message : Text)
  /-- A call could not be read. -/
  | expression (message : Text)
  deriving DecidableEq

namespace Error

/-- A text between grave accents. -/
def ticked (s : Text) : Text := '\x60' :: s ++ ['\x60']

/-- The wording of an error (the `Display` of `error::ExecutionError`). -/
def message : Error → Text
  | unexpectedStatus url status =>
    "received unexpected status code for fragment ".toList ++ ticked url ++ [':', ' '] ++
      Text.ofNat status
  | requestFailed url reason =>
    "error sending fragment request ".toList ++ ticked url ++ [':', ' '] ++ reason
  | invalidUrl url => "invalid request URL provided: ".toList ++ ticked url
  | unresolvedInclude url _ => "unresolved include ".toList ++ ticked url
  | function message => "error in function: ".toList ++ message
  | expression message => "expression error: ".toList ++ message

/-- The URL of the request that an error is about (`ExecutionError::url`). -/
def url? : Error → Option Text
  | unexpectedStatus url _ => some url
  | requestFailed url _ => some url
  | invalidUrl url => some url
  | unresolvedInclude url _ => some url
  | function _ => none
  | expression _ => none

end Error

end EdgeInclude
