import TokenCatalog.Engine.Channel
import TokenCatalog.Refresh.Crew

namespace TokenCatalog

/-!
# Engines — the published snapshot and what keeps it fresh

An engine is started once and stopped once.  Calls are serialized by a lock that is given to those
who wait for it in order.  While it runs, a worker refreshes in the background unless privacy is on;
a listener publishes a new snapshot after every refresh and notifies the consumer.

* `Engine` — its state between two steps;
* `Call`, `CallError` — what can be asked of it, and what it may answer;
* `Engine.publish`, `Engine.release`, `Engine.enqueue` — what calls and listeners share.
-/

/-- How far an engine's life is. -/
inductive Lifecycle where
  | unstarted
  | started
  | stopped
  deriving DecidableEq, Repr, Inhabited

/-- What can be asked of an engine. -/
inductive Call where
  /-- Publish a first snapshot and start refreshing. -/
  | start (token : TokenId)
  /-- Stop refreshing for good. -/
  | stop
  /-- Refresh now, whatever the time of the last refresh. -/
  | refreshNow (token : TokenId)
  /-- Look at the privacy guard again. -/
  | privacyModeUpdated (token : TokenId)
  deriving DecidableEq, Repr, Inhabited

/-- Why a call is refused. -/
inductive CallError where
  | alreadyStarted
  | notStarted
  | alreadyStopped
  /-- A store failed, for a reason of its own. -/
  | store (reason : String)
  deriving DecidableEq, Repr

/-- The text of a refusal. -/
def CallError.message : CallError → String
  | alreadyStarted => "token lists already started"
  | notStarted => "token lists not started"
  | alreadyStopped => "token lists already stopped"
  | store reason => s!"store error: {reason}"

/-- What a call does once a worker has left. -/
inductive AfterLeave where
  /-- It is done. -/
  | done
  /-- The engine stops. -/
  | stop
  /-- A new worker starts with a refresh. -/
  | restart
  /-- Local data is published, unless privacy was on before. -/
  | goPrivate (wasPrivate : Bool)
  deriving DecidableEq, Repr

/-- Where a call waits. -/
inductive CallStage where
  /-- For the lock. -/
  | locking
  /-- For a worker to leave; it has the lock. -/
  | joining (worker : WorkerId) (next : AfterLeave)
  /-- For room in the notification channel. -/
  | sending
  | returned (result : Except CallError Unit)
  /-- Its caller has lost interest. -/
  | abandoned
  deriving Inhabited

/-- A call and where it waits. -/
structure PendingCall where
  call : Call
  stage : CallStage := .locking
  deriving Inhabited

/-- Where a listener waits. -/
inductive ListenerStage where
  /-- For its worker's next result. -/
  | receiving
  /-- For the lock; it has a result. -/
  | locking
  /-- For room for a notification; it has a result. -/
  | sending
  /-- For room for the one after it; it has a result. -/
  | reserving
  | ended
  deriving DecidableEq, Repr, Inhabited

/-- The listener of a worker. -/
structure Listener where
  worker : WorkerId
  stage : ListenerStage := .receiving
  deriving DecidableEq, Repr, Inhabited

/-- The state of an engine. -/
structure Engine where
  crew : Crew
  channel : Channel
  snapshot : Snapshot := {}
  lifecycle : Lifecycle := .unstarted
  /-- Privacy, as a call saw it last. -/
  wasPrivate : Bool := false
  /-- The token under which workers are spawned. -/
  token : TokenId := 0
  /-- The worker that the engine knows of. -/
  worker : Option WorkerId := none
  /-- The listener that the engine knows of. -/
  listener : Option ListenerId := none
  /-- Who waits for the lock, in order; the first one has it. -/
  lock : List Process := []
  /-- Every call that ever came. -/
  calls : List PendingCall := []
  /-- Every listener that was ever spawned. -/
  listeners : List Listener := []
  deriving Inhabited

namespace Engine

/-- What a step leaves. -/
abbrev Turn := Engine × List Event

/-- Whether somebody has the lock. -/
def holds (e : Engine) (p : Process) : Bool := e.lock.head? = some p

/-- Give up the lock, or the place in its queue. -/
def release (e : Engine) (p : Process) : Engine := { e with lock := e.lock.erase p }

/-- The snapshot of what is known without the network. -/
def localSnapshot (c : Config) (e : Engine) : Snapshot :=
  .buildInOrder c e.crew.world.orders e.crew.world.sources

/-- Publish the snapshot of what is known without the network. -/
def publish (c : Config) (e : Engine) : Engine := { e with snapshot := e.localSnapshot c }

/-- Move a call. -/
def setCall (e : Engine) (id : CallId) (s : CallStage) : Engine :=
  { e with calls := e.calls.modify id ({ · with stage := s }) }

/-- Move a listener. -/
def setListener (e : Engine) (id : ListenerId) (s : ListenerStage) : Engine :=
  { e with listeners := e.listeners.modify id ({ · with stage := s }) }

/-- Whether a live worker is known. -/
def hasLiveWorker (e : Engine) : Bool := e.worker.any e.crew.isLive

/-- Use the room one has waited for; nothing is sent to a consumer that has hung up. -/
def enqueue (e : Engine) (p : Process) : Turn :=
  if e.channel.isOpen then ({ e with channel := e.channel.put p }, [.notified])
  else ({ e with channel := e.channel.quit p }, [])

/-- When the last refresh ended: seconds since 1970, or their beginning if the store holds no moment
    of the calendar. -/
def lastRefreshTime (e : Engine) : Except CallError Int :=
  match e.crew.world.refreshTime? with
  | none => .error (.store (Operation.readRefreshTime.failure))
  | some t => .ok (if Moment.isInCalendar t.toInt then t.toInt else 0)

end Engine

end TokenCatalog
