import TokenCatalog.Fetch
import TokenCatalog.Http.Target
import TokenCatalog.SortedMap

namespace TokenCatalog.Http

/-!
# Clients — conditional requests of one host

* `Page`, `Site.answer` — what a host serves, and how it answers a request for a copy that the client
  already has;
* `receive` — what an answer comes to;
* `fetch` — a request with its redirections, at most `maxRequests` of them.
-/

/-- A header; the value need not be text. -/
structure Header where
  name : String
  value : Bytes
  deriving DecidableEq, Repr

/-- What a host serves under a target. -/
structure Page where
  status : Nat := 200
  headers : List Header := []
  body : Bytes := []
  /-- Whether the body is compressed on its way. -/
  compressed : Bool := false
  /-- The length it says its body has, if that is not the true one. -/
  declaredLength : Option Nat := none
  /-- Whether the answer never arrives. -/
  hangs : Bool := false
  deriving DecidableEq, Repr

/-- The pages of a host by the target as it is sent. -/
abbrev Site := SortedMap String Page

/-- A request as the host sees it. -/
structure Visit where
  target : String
  ifNoneMatch : Option Bytes := none
  deriving DecidableEq, Repr

/-! ### Headers -/

/-- A byte that may stand in a header value. -/
def isLegal (b : UInt8) : Bool := b == Ascii.tab || (Ascii.space ≤ b && b ≠ 0x7F)

/-- A byte of a header value that is text. -/
def isVisible (b : UInt8) : Bool := isLegal b && b < 0x7F

/-- A header value without the blanks around it. -/
def trimValue (v : Bytes) : Bytes :=
  let isBlank (b : UInt8) : Bool := b == Ascii.tab || b == Ascii.space
  ((v.dropWhile isBlank).reverse.dropWhile isBlank).reverse

namespace Page

/-- The values of a header, whose name has no case. -/
def values (p : Page) (name : String) : List Bytes :=
  (p.headers.filter fun h => h.name.toLower = name).map fun h => trimValue h.value

/-- The etag that comes with a page; one that is not text counts as none. -/
def etag (p : Page) : String :=
  match (p.values "etag").head? with
  | some v => if v.all isVisible then (Bytes.text? v).getD "" else ""
  | none => ""

/-- The body as it arrives; none if it breaks off or cannot be unpacked. -/
def receivedBody? (p : Page) : Option Bytes :=
  let isPacked := p.compressed || (p.values "content-encoding").contains (Bytes.ofText "gzip")
  match p.declaredLength with
  | some 0 => some []
  | some n => if isPacked || p.body.length < n then none else some (p.body.take n)
  | none => if isPacked && !p.compressed && p.body ≠ [] then none else some p.body

/-- Where a page sends the client, if it is a redirection that says where. -/
def redirection (p : Page) (origin : Target) : Option Link :=
  if [301, 302, 303, 307, 308].contains p.status then
    match (p.values "location").head?.bind Bytes.text? with
    | some reference =>
      match Link.follow origin reference with
      | .broken => none
      | link => some link
    | none => none
  else none

end Page

/-- How a host answers a visit: a client that has the page's etag is told that its copy is good. -/
def Site.answer (site : Site) (v : Visit) : Page :=
  match site.get? v.target with
  | none => { status := 404 }
  | some p =>
    if v.ifNoneMatch.any (p.values "etag").contains then { p with status := 304 } else p

/-! ### Requests -/

/-- What an answer comes to that is no redirection. -/
def receive (etag : String) (p : Page) : Answer :=
  if p.status = 304 then .ok ⟨none, etag⟩
  else if p.status = 200 then
    match p.receivedBody? with
    | some body => .ok ⟨some body, p.etag⟩
    | none => .error .failed
  else .error (.badStatus p.status)

/-- What a request says that the client already has; nothing for the empty etag. -/
def condition (etag : String) : Option Bytes :=
  if etag = "" then none else some (trimValue (Bytes.ofText etag))

/-- How many requests a fetch may take. -/
def maxRequests : Nat := 10

/-- Request a target and follow its redirections with the requests that are `left`. -/
def visit (site : Site) (etag : String) : Nat → Target → List Visit × Answer
  | 0, _ => ([], .error .failed)
  | left + 1, target =>
    let v : Visit := { target := target.text, ifNoneMatch := condition etag }
    let p := site.answer v
    -- A page that never arrives has no headers to object to.
    if p.hangs then ([v], .error .timeout)
    else if !p.headers.all fun h => h.value.all isLegal then ([v], .error .failed)
    else
      match p.redirection target with
      | some (.here next) =>
        let (visits, answer) := visit site etag left next
        (v :: visits, answer)
      | some _ => ([v], .error .failed)
      | none => ([v], receive etag p)

/-- When a fetch is given up by the one who asked for it. -/
inductive Patience where
  | endless
  /-- Before it begins. -/
  | none
  /-- While it still waits, after so many milliseconds. -/
  | milliseconds (n : Nat)
  deriving DecidableEq, Repr

/-- A conditional request of a URL on the site, given by what stands behind its port, or of a URL
    elsewhere, where there is none; with the requests that the site sees. -/
def fetch (site : Site) (timeout : Nat) (patience : Patience) (suffix : Option String)
    (etag : String) : List Visit × Answer :=
  match patience, suffix.bind Target.ofSuffix? with
  | .none, _ => ([], .error .cancelled)
  | _, none => ([], .error .failed)
  | patience, some target =>
    if (Bytes.ofText etag).all isLegal then
      match visit site etag maxRequests target, patience with
      | (visits, .error .timeout), .milliseconds n =>
        (visits, .error (if n < timeout then .cancelled else .timeout))
      | outcome, _ => outcome
    else ([], .error .failed)

/-! ### Examples -/

-- Two requests: of the page that has moved, and of the one it has moved to.
example :
    let site : Site := .ofList [
      ("/new", { body := [0x31] }),
      ("/old", { status := 301, headers := [⟨"Location", Bytes.ofText "new"⟩] })]
    let outcome := fetch site 5000 .endless (some "/old") ""
    outcome.1 = [⟨"/old", none⟩, ⟨"/new", none⟩] ∧
      outcome.2.toOption = some ⟨some [0x31], ""⟩ := by
  decide +kernel

end TokenCatalog.Http
