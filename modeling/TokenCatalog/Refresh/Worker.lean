import TokenCatalog.Refresh.Event
import TokenCatalog.Refresh.FanOut
import TokenCatalog.Refresh.Resolution

namespace TokenCatalog

/-!
# Workers — refreshing in the background

A worker checks at once and then on every tick whether a refresh is due: privacy must be off, and the
refresh interval must have passed since the last one unless the check is forced.  A refresh resolves
the manifest, fetches its lists, writes what arrived and notes the time.  Then the worker hands the
result to its consumer and does nothing more until that is acknowledged.  Cancellation makes it leave
at its next wait.

* `Worker.isDue` — whether the refresh interval has passed;
* `Worker.Action` and `Worker.act?` — what a worker can do from one wait to the next.

A step runs from one point at which the worker waits to the next and is not interrupted.
-/

/-- A cancellation token. -/
abbrev TokenId := Nat

namespace Worker

/-- Where a worker waits. -/
inductive Stage where
  /-- It has not run yet. -/
  | spawned (force : Bool)
  /-- For the next tick. -/
  | idle
  /-- For the manifest; the given one is used if no new one comes. -/
  | resolving (fallback : Manifest)
  /-- For the tasks that fetch the lists. -/
  | fetching (f : FanOut)
  /-- For the consumer to acknowledge a result. -/
  | awaiting
  | exited
  deriving DecidableEq, Repr, Inhabited

/-- Where the result of a refresh is. -/
inductive Handover where
  /-- There is none, or the last one is done with. -/
  | none
  /-- In the channel between worker and consumer, which has room for one. -/
  | offered
  /-- With the consumer. -/
  | taken
  | acknowledged
  /-- Thrown away without an acknowledgement. -/
  | dropped
  deriving DecidableEq, Repr, Inhabited

end Worker

/-- A worker. -/
structure Worker where
  /-- The token whose cancellation cancels the worker too. -/
  parent : TokenId
  /-- It has been told to stop. -/
  stopped : Bool := false
  stage : Worker.Stage
  /-- When the next tick is due. -/
  nextTick : Nat := 0
  handover : Worker.Handover := .none
  /-- Its consumer still listens. -/
  hasConsumer : Bool := true
  deriving Inhabited

namespace Worker

/-- Whether a worker has not left. -/
def isLive (w : Worker) : Bool := w.stage ≠ .exited

/-- A worker that has left. -/
def exit (w : Worker) : Worker := { w with stage := .exited }

/-! ### Time -/

/-- The seconds since the last refresh, clamped to 64 bits. -/
def elapsed (now last : Int64) : Int64 := .ofIntClamp (now.toInt - last.toInt)

/-- An interval in seconds, as a signed number of 64 bits; it wraps. -/
def intervalSeconds (d : Duration) : Int64 := .ofNat d.seconds

/-- Whether the refresh interval has passed; a time that cannot be read counts as long ago. -/
def isDue (c : Config) (w : World) : Bool :=
  !(elapsed w.now (w.refreshTime?.getD 0) < intervalSeconds c.interval)

/-- Instants have seconds of 63 bits. -/
def instantLimit : Nat := 9223372036854775808 * 1000000000

/-- How late a tick may come and still be followed by one at its due time. -/
def tolerance : Nat := 5000000

/-- When the tick after one due at `due` is due, if that one comes at `clock`. -/
def tickAfter (due clock period : Nat) : Nat :=
  if due + tolerance < clock then clock + period else due + period

/-! ### Steps -/

/-- What a worker finds when it runs. -/
structure Surroundings where
  config : Config
  world : World
  /-- A steady clock, in nanoseconds. -/
  clock : Nat
  /-- The worker's token is cancelled. -/
  cancelled : Bool
  id : WorkerId

/-- What a step leaves. -/
structure Turn where
  worker : Worker
  world : World
  events : List Event

/-- Note the time of a finished refresh and offer its result.  If the worker is cancelled, `heed`
    says whether it notices that first. -/
def finish (w : Worker) (s : Surroundings) (heed : Bool) : Turn :=
  let event := .refreshRecorded s.id s.world.now (!s.world.fails .writeRefreshTime)
  let next :=
    if (s.cancelled && heed) || !w.hasConsumer then w.exit
    else { w with
      handover := .offered
      stage := if s.cancelled then .exited else .awaiting }
  ⟨next, s.world.recordRefresh, [event]⟩

/-- Fetch the lists of a manifest; without one, the refresh is finished. -/
def fetchLists (w : Worker) (s : Surroundings) (m : Manifest) (heed : Bool) : Turn :=
  if m.entries = [] then w.finish s heed
  else ⟨{ w with stage := .fetching (.ofEntries m.entries) }, s.world, []⟩

/-- Begin a refresh. -/
def refresh (w : Worker) (s : Surroundings) : Turn :=
  let fallback := Manifest.fallback s.config s.world
  let began := Event.refreshBegan s.id
  match s.config.manifestUrl with
  | none =>
    let t := w.fetchLists s fallback true
    { t with events := began :: t.events }
  | some url =>
    let request := Manifest.request s.config s.world url
    ⟨{ w with stage := .resolving fallback }, s.world,
      [began, .requested (.manifest s.id) request s.cancelled]⟩

/-- Check whether a refresh is due, and begin one. -/
def check (w : Worker) (s : Surroundings) (force : Bool) : Turn :=
  if s.cancelled then ⟨w.exit, s.world, []⟩
  else if s.world.isOffline || !(force || isDue s.config s.world) then
    ⟨{ w with stage := .idle }, s.world, []⟩
  else w.refresh s

/-- What a worker can do. -/
inductive Action where
  /-- Run for the first time. -/
  | start
  /-- Notice a tick that is due. -/
  | tick
  /-- Notice that it is cancelled. -/
  | quit
  /-- Take the answer to the request for the manifest. -/
  | manifestAnswered (a : Answer) (heed : Bool)
  /-- Let a task ask for its list. -/
  | poll (index : Nat)
  /-- Give a task the answer it waits for. -/
  | taskAnswered (index : Nat) (a : Answer)
  /-- Notice that every task has finished. -/
  | collect (heed : Bool)
  /-- Notice what became of the result. -/
  | resume

/-- Whether a fetch can be answered in a way: under a cancelled token it is cancelled at once. -/
def admits (cancelled : Bool) : Answer → Bool
  | .error .cancelled => true
  | _ => !cancelled

/-- The event of a write. -/
def wrote (w : World) (id : String) (c : Content) : Event := .wrote id c (w.canWrite id)

/-- The event of a task's request. -/
def taskRequest (s : Surroundings) (index : Nat) (r : Request) : Event :=
  .requested (.task s.id index) r s.cancelled

/-- Run a worker from one wait to the next; none if it cannot do that. -/
def act? (w : Worker) (s : Surroundings) (a : Action) : Option Turn :=
  let period := s.config.checkInterval.nanoseconds
  match w.stage, a with
  | .spawned force, .start =>
    -- The first check is at once, but a first tick beyond the last instant ends the worker.
    if instantLimit ≤ s.clock + period then some ⟨w.exit, s.world, []⟩
    else some ({ w with nextTick := s.clock + period }.check s force)
  | .idle, .tick =>
    if w.nextTick ≤ s.clock then
      some ({ w with nextTick := tickAfter w.nextTick s.clock period }.check s false)
    else none
  | .idle, .quit => if s.cancelled then some ⟨w.exit, s.world, []⟩ else none
  | .awaiting, .quit => if s.cancelled then some ⟨w.exit, s.world, []⟩ else none
  | .awaiting, .resume =>
    match w.handover with
    | .acknowledged => some ⟨{ w with stage := .idle, handover := .none }, s.world, []⟩
    | .dropped => some ⟨w.exit, s.world, []⟩
    | _ => none
  | .resolving fallback, .manifestAnswered a heed =>
    match s.config.manifestUrl with
    | none => none
    | some url =>
      if admits s.cancelled a then
        -- The new manifest is used even if it could not be cached.
        let (m, world) := Manifest.resolve s.config s.world url fallback a
        let writes := (Manifest.fresh? s.config s.world url a).toList.map fun (_, content) =>
          wrote s.world ContentStore.manifestId content
        let t := w.fetchLists { s with world } m heed
        some { t with events := writes ++ t.events }
      else none
  | .fetching f, .poll index =>
    (f.poll? index s.world).map fun (f, r) =>
      ⟨{ w with stage := .fetching f }, s.world, [taskRequest s index r]⟩
  | .fetching f, .taskAnswered index a =>
    if admits s.cancelled a then
      (f.answer? index s.config.validator s.world.moment a).map fun (f, r) =>
        ⟨{ w with stage := .fetching f }, s.world, r.toList.map (taskRequest s index)⟩
    else none
  | .fetching f, .collect heed =>
    if f.isFinished then
      let writes := f.arrived.map fun (id, content) => wrote s.world id content
      let t := w.finish { s with world := (f.persist s.world).1 } heed
      some { t with events := writes ++ t.events }
    else none
  | _, _ => none

end Worker

end TokenCatalog
