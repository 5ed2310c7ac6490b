import TokenCatalog.Snapshot.Build

namespace TokenCatalog

/-!
# The world — what the application provides to an engine

* `World` — the stores, the privacy guard and the clock on the wall, any of whose operations may
  fail, and the order in which hash maps come;
* reading — `content?`, `etagOf`, `sources`, `refreshTime?`, `isPrivate?`, `isOffline`;
* writing — `write`, `recordRefresh`; a failed write leaves the world as it was.
-/

/-- An operation of the world that may fail. -/
inductive Operation where
  | readContent
  | readEtag
  | writeContent
  | writeContentOf (id : String)
  | readContents
  | readCustomTokens
  | readRefreshTime
  | writeRefreshTime
  | readPrivacy
  deriving DecidableEq, Repr

namespace Operation

/-- The name of an operation. -/
def name : Operation → String
  | readContent => "content.get"
  | readEtag => "content.get_etag"
  | writeContent => "content.set"
  | writeContentOf id => s!"content.set:{id}"
  | readContents => "content.get_all"
  | readCustomTokens => "custom.get_all"
  | readRefreshTime => "last.get"
  | writeRefreshTime => "last.set"
  | readPrivacy => "privacy"

/-- What is reported when an operation fails. -/
def failure (o : Operation) : String := s!"{o.name} failed"

end Operation

/-- What the application provides. -/
structure World where
  contents : ContentStore := ∅
  custom : CustomTokens := {}
  /-- When the last refresh ended, in seconds since 1970. -/
  lastRefresh : Int64 := 0
  /-- The user wants nothing to go over the network. -/
  privacy : Bool := false
  failing : List Operation := []
  /-- The clock on the wall, in seconds since 1970. -/
  now : Int64 := 0
  /-- The time of fetching that the content store notes, if it does not take the engine's. -/
  stamp : Option Moment := none
  /-- The orders in which hash maps come when a snapshot is built next. -/
  orders : Snapshot.Orders := .standing
  deriving Inhabited

namespace World

/-- Whether an operation fails. -/
def fails (w : World) (o : Operation) : Bool := w.failing.contains o

/-! ### Reading -/

/-- The cached content of an id, none if it cannot be read. -/
def content? (w : World) (id : String) : Option Content :=
  if w.fails .readContent then none else w.contents.get? id

/-- The cached etag of an id, empty if there is none or it cannot be read. -/
def etagOf (w : World) (id : String) : String :=
  if w.fails .readEtag then "" else (ContentStore.etag? w.contents id).getD ""

/-- What a snapshot is built from. -/
def sources (w : World) : Sources where
  contents := if w.fails .readContents then none else some w.contents.entries
  custom := if w.fails .readCustomTokens then none else some w.custom.all

/-- When the last refresh ended, if that can be read. -/
def refreshTime? (w : World) : Option Int64 :=
  if w.fails .readRefreshTime then none else some w.lastRefresh

/-- Whether the user wants privacy, if that can be read. -/
def isPrivate? (w : World) : Option Bool :=
  if w.fails .readPrivacy then none else some w.privacy

/-- Whether nothing may go over the network; so it is if nobody can tell. -/
def isOffline (w : World) : Bool := w.isPrivate?.getD true

/-- The time of fetching for what arrives now. -/
def moment (w : World) : Moment := ⟨w.now.toInt, false⟩

/-! ### Writing -/

/-- Whether the content of an id can be written. -/
def canWrite (w : World) (id : String) : Bool :=
  !w.fails .writeContent && !w.fails (.writeContentOf id)

/-- Write the content of an id, if that can be done. -/
def write (w : World) (id : String) (c : Content) : World :=
  if w.canWrite id then
    { w with contents := w.contents.insert id { c with fetchedAt := w.stamp.getD c.fetchedAt } }
  else w

/-- Note that a refresh ended now, if that can be done. -/
def recordRefresh (w : World) : World :=
  if w.fails .writeRefreshTime then w else { w with lastRefresh := w.now }

end World

end TokenCatalog
