import TokenCatalog.Content
import TokenCatalog.Fetch

namespace TokenCatalog

/-!
# Events — what an engine does that others can see
-/

/-- A worker of an engine, by the order in which they were spawned. -/
abbrev WorkerId := Nat

/-- Who asks the network for something. -/
inductive Fetcher where
  /-- A worker asks for the manifest. -/
  | manifest (worker : WorkerId)
  /-- A task of a worker asks for its list or its schema. -/
  | task (worker : WorkerId) (index : Nat)
  deriving DecidableEq, Repr

/-- The worker on whose behalf something is asked. -/
def Fetcher.worker : Fetcher → WorkerId
  | manifest w => w
  | task w _ => w

/-- Something that others can see. -/
inductive Event where
  /-- A worker passed its gates and begins a refresh. -/
  | refreshBegan (worker : WorkerId)
  /-- A request is issued, possibly under a token that is already cancelled. -/
  | requested (fetcher : Fetcher) (request : Request) (cancelled : Bool)
  /-- A content is written, unless that fails. -/
  | wrote (id : String) (content : Content) (ok : Bool)
  /-- The end of a refresh is noted, unless that fails. -/
  | refreshRecorded (worker : WorkerId) (time : Int64) (ok : Bool)
  /-- A snapshot is published. -/
  | published
  /-- A notification is put into the channel. -/
  | notified
  /-- The consumer takes a notification out of the channel. -/
  | received
  deriving DecidableEq, Repr

end TokenCatalog
