import EdgeInclude.Error
import EdgeInclude.Url.Basic

/-!
# Requests over HTTP

Which URLs can be requested over HTTP, and why the others are refused before
anything is sent.

A model of what `fetch::HttpFetcher` does before a request is sent.
-/

namespace EdgeInclude

namespace Http

/-- A URL as it is shown in a refusal: without its user name and password, unless the name or
    a password that stands alone cannot be read. -/
def shownUrl (u : Url) : Url :=
  match u.authority with
  | none => u
  | some a =>
    let readable := a.user.isPercentDecodable &&
      (!a.user.isEmpty || (a.password.map Text.isPercentDecodable).getD false)
    if readable then u.withoutUser else u

/-- The URL of a request, or the reason why the request is not sent: its text is no absolute URL, or
    the scheme is another than `http` and `https` (`HttpFetcher::resolve_url`, and the refusals of
    the package `reqwest`). -/
def requestUrl (url : Text) : Except Error Url :=
  match Url.parse? url with
  | none => .error (.invalidUrl url)
  | some u =>
    if u.scheme = "http".toList ∨ u.scheme = "https".toList then .ok u
    else
      .error (.requestFailed url
        ("builder error for url (".toList ++ (shownUrl u).toText ++ [')']))

/-- The URL that others can be resolved against, which has to be absolute
    (`HttpFetcher::with_base_url`). -/
def baseUrl (url : Text) : Except Error Url :=
  match Url.parse? url with
  | none => .error (.invalidUrl url)
  | some u => .ok u

end Http

end EdgeInclude
