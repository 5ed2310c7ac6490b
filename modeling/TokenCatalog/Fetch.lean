import TokenCatalog.Text.Bytes

namespace TokenCatalog

/-!
# Fetching — conditional requests and their answers

* `Request` — a URL, and the etag of what the caller already has;
* `Response` — a body with its etag; no body when the caller's copy is still good;
* `FetchError` — why there is neither.
-/

/-- A conditional request; an empty etag asks for the body whatever it is. -/
structure Request where
  url : String
  etag : String := ""
  deriving DecidableEq, Repr, Inhabited

/-- A successful answer. -/
structure Response where
  /-- None if it has not changed. -/
  body : Option Bytes
  etag : String
  deriving DecidableEq, Repr, Inhabited

/-- Why a request has no answer. -/
inductive FetchError where
  /-- It could not be sent, or its answer broke off. -/
  | failed
  | timeout
  | badStatus (status : Nat)
  | cancelled
  deriving DecidableEq, Repr, Inhabited

/-- What a request comes to. -/
abbrev Answer := Except FetchError Response

namespace FetchError

/-- The status that a server answered with, if that is the error. -/
def status? : FetchError → Option Nat
  | badStatus n => some n
  | _ => none

/-- The text of an error, where it does not depend on the transport. -/
def message? (url : String) : FetchError → Option String
  | failed => none
  | timeout => some s!"request to {url} timed out"
  | badStatus n => some s!"unexpected status {n} from {url}"
  | cancelled => some s!"request to {url} cancelled"

end FetchError

end TokenCatalog
