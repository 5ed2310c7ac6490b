import TokenCatalog.Engine.Listener

namespace TokenCatalog

/-!
# Calls — starting, stopping and refreshing

A call waits for the lock, may wait for a worker to leave, and may wait for room in the notification
channel after it has given up the lock.

* `Engine.resumeCall?` — a call runs from one wait to the next;
* `Engine.abandonCall` — its caller loses interest where it waits.
-/

namespace Engine

/-- A call returns and gives up the lock. -/
def answer (e : Engine) (id : CallId) (r : Except CallError Unit) : Turn :=
  ((e.release (.call id)).setCall id (.returned r), [])

/-- Publish local data, give up the lock, and notify the consumer once. -/
def publishPrivately (c : Config) (e : Engine) (id : CallId) : Turn :=
  let e := (e.publish c).release (.call id)
  let e := { e with channel := e.channel.join (.call id) }
  if e.channel.isReady (.call id) then
    let (e, events) := e.enqueue (.call id)
    (e.setCall id (.returned (.ok ())), .published :: events)
  else (e.setCall id .sending, [.published])

/-- Start a worker with its listener, unless one is live. -/
def startWorker (e : Engine) (force : Bool) : Engine :=
  if e.hasLiveWorker then e
  else
    let (crew, worker) := e.crew.spawn e.token force
    { e with
      crew, worker := some worker, listener := some e.listeners.length
      listeners := e.listeners ++ [{ worker }] }

/-- What a call does once the worker has left: the listener ends, and then what was planned. -/
def afterLeave (c : Config) (e : Engine) (id : CallId) (next : AfterLeave) : Turn :=
  let e := { e.listener.elim e e.abort with listener := none }
  match next with
  | .done => e.answer id (.ok ())
  | .stop => { e with lifecycle := .stopped }.answer id (.ok ())
  | .restart => (e.startWorker true).answer id (.ok ())
  | .goPrivate wasPrivate =>
    if wasPrivate then e.answer id (.ok ()) else e.publishPrivately c id

/-- Tell the worker to stop and wait until it has left. -/
def stopWorker (c : Config) (e : Engine) (id : CallId) (next : AfterLeave) : Turn :=
  match e.worker with
  | none => e.afterLeave c id next
  | some worker =>
    -- The engine forgets the worker before it has left, even if the call is dropped meanwhile.
    let e := { e with worker := none, crew := e.crew.stop worker }
    if e.crew.isLive worker then (e.setCall id (.joining worker next), [])
    else e.afterLeave c id next

/-- See to it that a worker runs exactly if privacy is off; by force, a new one that refreshes at
    once. -/
def manageWorker (c : Config) (e : Engine) (id : CallId) (force : Bool) : Turn :=
  if e.crew.world.isOffline then e.stopWorker c id .done
  else if force then e.stopWorker c id .restart
  else (e.startWorker false).answer id (.ok ())

/-- Why an engine that must be started refuses. -/
def refusal? (e : Engine) : Option CallError :=
  match e.lifecycle with
  | .unstarted => some .notStarted
  | .started => none
  | .stopped => some .alreadyStopped

/-- What a call does once it has the lock. -/
def runCall (c : Config) (e : Engine) (id : CallId) (call : Call) : Turn :=
  let offline := e.crew.world.isOffline
  match call with
  | .start token =>
    match e.lifecycle with
    | .started => e.answer id (.error .alreadyStarted)
    | .stopped => e.answer id (.error .alreadyStopped)
    | .unstarted =>
      -- The first snapshot is published before anything can touch the network.
      let e := { e.publish c with wasPrivate := offline, token, lifecycle := .started }
      let (e, events) := e.manageWorker c id false
      (e, .published :: events)
  | .stop =>
    match e.refusal? with
    | some error => e.answer id (.error error)
    | none => e.stopWorker c id .stop
  | .refreshNow token =>
    match e.refusal? with
    | some error => e.answer id (.error error)
    | none =>
      let e := { e with wasPrivate := offline }
      if offline then e.publishPrivately c id else { e with token }.manageWorker c id true
  | .privacyModeUpdated token =>
    match e.refusal? with
    | some error => e.answer id (.error error)
    | none =>
      let wasPrivate := e.wasPrivate
      let e := { e with token, wasPrivate := offline }
      if offline then e.stopWorker c id (.goPrivate wasPrivate)
      else if e.hasLiveWorker then e.answer id (.ok ())
      else e.manageWorker c id true

/-- Run a call from one wait to the next; none if it still has to wait. -/
def resumeCall? (c : Config) (e : Engine) (id : CallId) : Option Turn :=
  match e.calls[id]? with
  | none => none
  | some p =>
    match p.stage with
    | .locking => if e.holds (.call id) then some (e.runCall c id p.call) else none
    | .joining worker next =>
      if e.crew.isLive worker then none else some (e.afterLeave c id next)
    | .sending =>
      if e.channel.isReady (.call id) then
        let (e, events) := e.enqueue (.call id)
        some (e.setCall id (.returned (.ok ())), events)
      else none
    | .returned _ | .abandoned => none

/-- A new call asks for the lock. -/
def invoke (e : Engine) (call : Call) : Engine :=
  { e with calls := e.calls ++ [{ call }], lock := e.lock ++ [Process.call e.calls.length] }

/-- A caller loses interest in a call where it waits. -/
def abandonCall? (e : Engine) (id : CallId) : Option Engine :=
  match e.calls[id]? with
  | none => none
  | some p =>
    match p.stage with
    | .locking | .joining .. => some ((e.release (.call id)).setCall id .abandoned)
    | .sending =>
      some { e.setCall id .abandoned with channel := e.channel.quit (.call id) }
    | .returned _ | .abandoned => none

end Engine

end TokenCatalog
