import TokenCatalog.Fetch

namespace TokenCatalog.Simulation

/-!
# Routes — what a scripted network answers
-/

/-- What a route answers with. -/
inductive Reply where
  | timeout
  | status (n : Nat)
  | notModified
  | body (raw : Bytes)
  deriving DecidableEq, Repr, Inhabited

/-- The answer of a URL, and how long it takes. -/
structure Route where
  reply : Reply
  etag : String := ""
  /-- In milliseconds. -/
  delay : Nat := 0
  deriving DecidableEq, Repr, Inhabited

/-- What a route answers to a request: nothing new to one that has its etag. -/
def Route.answer (r : Route) (etag : String) : Answer :=
  match r.reply with
  | .timeout => .error .timeout
  | .status n => .error (.badStatus n)
  | .notModified => .ok ⟨none, etag⟩
  | .body raw => .ok (if etag ≠ "" ∧ etag = r.etag then ⟨none, etag⟩ else ⟨some raw, r.etag⟩)

/-- The route of a URL that nobody serves. -/
def Route.unknown : Route := { reply := .status 404 }

end TokenCatalog.Simulation
