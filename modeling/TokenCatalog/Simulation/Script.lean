import TokenCatalog.Simulation.Basic

namespace TokenCatalog.Simulation

/-!
# Scripts — what an application does in a simulation

Each of these takes the simulation to the end of what the application asked for; an answer that is
waited for may take as long as `patience`.

* `call` — a call of the facade;
* `receive` — the next notification;
* `startWorker`, `takeResult`, `stopWorker` — a worker of one's own;
* `resolveManifest`, `fetchLists`, `buildSnapshot` — a refresh step by step;
* `refreshTime` — how a time of refresh is shown.
-/

/-- How many milliseconds a call or a message is waited for. -/
def patience : Nat := 50

/-- More milliseconds than anything takes that is sure to end. -/
def ages : Nat := 1000000000000000

/-- The token of a name, which is made on first use. -/
def token (s : Simulation) (name : String) : Simulation × TokenId :=
  match s.tokens.get? name with
  | some t => (s, t)
  | none =>
    ({ s with tokens := s.tokens.insert name s.nextToken, nextToken := s.nextToken + 1 },
      s.nextToken)

/-- Give a name a token that is not cancelled. -/
def renewToken (s : Simulation) (name : String) : Simulation :=
  { s with tokens := s.tokens.insert name s.nextToken, nextToken := s.nextToken + 1 }

/-- Cancel the token of a name. -/
def cancel (s : Simulation) (name : String) : Simulation :=
  let (s, t) := s.token name
  s.fire (.cancel t)

/-- Cancel a token some milliseconds from now. -/
def cancelAfter (s : Simulation) (t : TokenId) (milliseconds : Option Nat) : Simulation :=
  match milliseconds with
  | some ms => { s with alarms := s.alarms ++ [(s.clock + ms * 1000000, t)] }
  | none => s

/-- Change what the application provides. -/
def alter (s : Simulation) (f : World → World) : Simulation := s.fire (.alter (f s.world))

/-! ### The facade -/

/-- What a call has come to, if it has returned. -/
def returned? (s : Simulation) (id : CallId) : Option (Except CallError Unit) :=
  match s.engine.calls[id]? with
  | some { stage := .returned r, .. } => some r
  | _ => none

/-- Call the facade; none if the caller loses patience. -/
def call (s : Simulation) (c : Call) : Simulation × Option (Except CallError Unit) :=
  let id := s.engine.calls.length
  let s := (s.fire (.invoke c)).run patience fun s => (s.returned? id).isSome
  match s.returned? id with
  | some r => (s, some r)
  | none => (s.fire (.abandon id), none)

/-- What a wait for a message comes to. -/
inductive Message where
  | received
  | nothing
  /-- Nobody can send one any more. -/
  | closed
  /-- There is no receiver. -/
  | dropped
  deriving DecidableEq, Repr

/-- Take the next notification. -/
def receive (s : Simulation) : Simulation × Message :=
  if !s.engine.channel.isOpen then (s, .dropped)
  else
    let s := s.run patience fun s => 0 < s.engine.channel.unread
    match s.fire? .receive with
    | some s => (s, .received)
    | none => (s, .nothing)

/-! ### A worker of one's own -/

/-- Change the crew. -/
def alterCrew (s : Simulation) (f : Crew → Crew) : Simulation :=
  { s with engine := { s.engine with crew := f s.engine.crew } }

/-- Whether the application's worker is live. -/
def isWorkerLive (s : Simulation) : Bool := s.worker.any s.engine.crew.isLive

/-- Let go of the results of the application's worker. -/
def dropSource (s : Simulation) : Simulation :=
  { s.alterCrew (fun crew => s.source.elim crew crew.leave) with source := none }

/-- Start a worker under a token, unless it is live; whether it was started. -/
def startWorker (s : Simulation) (t : TokenId) (force : Bool) : Simulation × Bool :=
  if s.isWorkerLive then (s, false)
  else
    let s := s.dropSource
    let (crew, id) := s.engine.crew.spawn t force
    ({ s.alterCrew fun _ => crew with worker := some id, source := some id }, true)

/-- Stop the worker and wait until it has left. -/
def stopWorker (s : Simulation) : Simulation :=
  match s.worker with
  | none => s
  | some id =>
    let s := { s.alterCrew (·.stop id) with worker := none }
    s.run ages fun s => !s.engine.crew.isLive id

/-- Take the next result of the worker, and acknowledge it or throw it away. -/
def takeResult (s : Simulation) (acknowledge : Bool) : Simulation × Message :=
  match s.source with
  | none => (s, .dropped)
  | some id =>
    let s := s.run patience fun s => s.engine.crew.offers id || !s.engine.crew.isLive id
    if s.engine.crew.offers id then
      let handle (crew : Crew) := if acknowledge then crew.acknowledge id else crew.throwAway id
      (s.alterCrew fun crew => handle (crew.take id), .received)
    else (s, if s.engine.crew.isLive id then .nothing else .closed)

/-! ### A refresh step by step -/

/-- Resolve the manifest under a token. -/
def resolveManifest (s : Simulation) (t : TokenId) : Simulation × Manifest :=
  let fallback := Manifest.fallback s.config s.world
  match s.config.manifestUrl with
  | none => ({ s with manifest := fallback }, fallback)
  | some url =>
    let s := { s with errand := .resolve t fallback }
    let s := s.send .manifest (Manifest.request s.config s.world url)
    let s := s.run ages fun s => s.errand matches .none
    (s, s.manifest)

/-- Fetch the lists of the manifest that was resolved last, under a token; how many were stored. -/
def fetchLists (s : Simulation) (t : TokenId) : Simulation × Nat :=
  let isDone (s : Simulation) : Bool :=
    match s.errand with
    | .fetch _ f => f.isFinished
    | _ => true
  let s := { s with errand := .fetch t (.ofEntries s.manifest.entries) }.run ages isDone
  match s.errand with
  | .fetch _ f =>
    let (world, stored) := f.persist s.world
    ({ s.alter (fun _ => world) with errand := .none }, stored)
  | _ => (s, 0)

/-- Build a snapshot on the side; whether it is the same as the one before, if there was one. -/
def buildSnapshot (s : Simulation) : Simulation × Snapshot × Option Bool :=
  let snapshot := Snapshot.buildInOrder s.config (.turned s.builds) s.world.sources
  ({ s with previous := some snapshot, builds := s.builds + 1 }, snapshot,
    s.previous.map snapshot.same)

/-! ### The time of the last refresh -/

/-- A time of refresh. -/
inductive RefreshTime where
  /-- Some seconds ago. -/
  | ago (seconds : Int)
  /-- In seconds since 1970. -/
  | moment (seconds : Int64)
  deriving DecidableEq, Repr

/-- Set the time of the last refresh. -/
def setRefreshTime (s : Simulation) (t : RefreshTime) : Simulation :=
  match t with
  | .ago n =>
    let time := Int64.ofInt (s.world.now.toInt - n)
    { s.alter ({ · with lastRefresh := time }) with refreshAge := some (n, time) }
  | .moment time => { s.alter ({ · with lastRefresh := time }) with refreshAge := none }

/-- How a time of refresh is shown: as the application set it, as the present if it is within ten
    minutes of it, or as it is. -/
def refreshTime (s : Simulation) (time : Int) : String ⊕ Int :=
  let asSet := s.refreshAge.bind fun (n, t) => if t.toInt = time then some n else none
  match asSet with
  | some n => .inl s!"ago:{n}"
  | none => if (s.world.now.toInt - time).natAbs ≤ 600 then .inl "now" else .inr time

end TokenCatalog.Simulation
