import TokenCatalog.Engine.Step
import TokenCatalog.Simulation.Route

namespace TokenCatalog

/-!
# Simulations — an engine on a scripted network and a virtual clock

A simulation resolves every choice that an engine leaves open: who can run runs at once, in a fixed
order; requests are answered by routes; and time passes only when nobody can run.  Beside the engine
the application may have a worker of its own and run an errand of its own.

* `Simulation` — the engine, the routes, and what is on its way;
* `Simulation.settle` — let everybody run who can;
* `Simulation.run` — let time pass.
-/

namespace Simulation

/-- Who a request is answered to. -/
inductive Asker where
  | worker (f : Fetcher)
  /-- The errand, for the manifest. -/
  | manifest
  /-- The errand, for a list or a schema. -/
  | task (index : Nat)
  deriving DecidableEq, Repr

/-- A request on its way. -/
structure Flight where
  asker : Asker
  /-- When the answer arrives. -/
  due : Nat
  answer : Answer

/-- What the application runs itself, under a token. -/
inductive Errand where
  | none
  | resolve (token : TokenId) (fallback : Manifest)
  | fetch (token : TokenId) (f : FanOut)
  deriving Inhabited

end Simulation

open Simulation in
/-- An engine with its surroundings. -/
structure Simulation where
  config : Config
  engine : Engine
  routes : SortedMap String Route := ∅
  flights : List Flight := []
  /-- Every request since it was last asked for. -/
  requests : List Request := []
  /-- Tokens to be cancelled, and when. -/
  alarms : List (Nat × TokenId) := []
  /-- Tokens by name. -/
  tokens : SortedMap String TokenId := ∅
  nextToken : TokenId := 1
  errand : Errand := .none
  /-- The manifest that the last errand resolved. -/
  manifest : Manifest := {}
  /-- The application's own worker. -/
  worker : Option WorkerId := none
  /-- The worker whose results the application takes itself. -/
  source : Option WorkerId := none
  /-- How the application set the time of the last refresh, while it is the one stored. -/
  refreshAge : Option (Int × Int64) := none
  /-- The snapshot that was last built on the side. -/
  previous : Option Snapshot := none
  /-- How many were; each goes through hash maps in another order. -/
  builds : Nat := 0
  deriving Inhabited

namespace Simulation

/-- The steady clock. -/
def clock (s : Simulation) : Nat := s.engine.crew.clock

/-- What the application provides. -/
def world (s : Simulation) : World := s.engine.crew.world

/-! ### Requests -/

/-- Send a request. -/
def send (s : Simulation) (asker : Asker) (r : Request) : Simulation :=
  let route := (s.routes.get? r.url).getD .unknown
  let flight : Flight := ⟨asker, s.clock + route.delay * 1000000, route.answer r.etag⟩
  { s with requests := s.requests ++ [r], flights := s.flights ++ [flight] }

/-- Take note of an event. -/
def observe (s : Simulation) : Event → Simulation
  | .requested f r _ => s.send (.worker f) r
  | .refreshRecorded _ _ true => { s with refreshAge := none }
  | _ => s

/-- Let an action happen, if it can. -/
def fire? (s : Simulation) (a : Engine.Action) : Option Simulation :=
  (s.engine.step? s.config a).map fun (engine, events) =>
    events.foldl observe { s with engine }

/-- Let an action happen that always can. -/
def fire (s : Simulation) (a : Engine.Action) : Simulation := (s.fire? a).getD s

/-- Whether the token of an asker is cancelled. -/
def isCancelled (s : Simulation) (asker : Asker) : Bool :=
  let crew := s.engine.crew
  match asker, s.errand with
  | .worker f, _ => crew.workers[f.worker]?.any crew.isCancelled
  | _, .resolve token _ | _, .fetch token _ => crew.cancelled.contains token
  | _, .none => false

/-- What an asker is told now, if anything. -/
def Flight.arrival? (s : Simulation) (f : Flight) : Option Answer :=
  if s.isCancelled f.asker then some (.error .cancelled)
  else if f.due ≤ s.clock then some f.answer
  else none

/-- Tell an asker what its request came to. -/
def deliver (s : Simulation) (asker : Asker) (a : Answer) : Simulation :=
  match asker, s.errand with
  | .worker (.manifest w), _ => s.fire (.work w (.manifestAnswered a true))
  | .worker (.task w i), _ => s.fire (.work w (.taskAnswered i a))
  | .manifest, .resolve _ fallback =>
    let (manifest, world) := match s.config.manifestUrl with
      | some url => Manifest.resolve s.config s.world url fallback a
      | none => (fallback, s.world)
    { s.fire (.alter world) with manifest, errand := .none }
  | .task i, .fetch token f =>
    match f.answer? i s.config.validator s.world.moment a with
    | some (f, r) =>
      let s := { s with errand := .fetch token f }
      r.elim s (s.send (.task i))
    | none => s
  | _, _ => s

/-- Deliver the first answer that arrives. -/
def deliverFirst? (s : Simulation) : Option Simulation :=
  let arrives (f : Flight) := (f.arrival? s).isSome
  match s.flights.find? arrives with
  | some f =>
    (f.arrival? s).map ({ s with flights := s.flights.eraseP arrives }.deliver f.asker)
  | none => none

/-! ### Running -/

/-- What a worker might do by itself. -/
def workerActions (w : Worker) : List Worker.Action :=
  match w.stage with
  | .spawned _ => [.start]
  | .idle => [.quit, .tick]
  | .awaiting => [.quit, .resume]
  | .fetching f => .collect true :: (List.range f.tasks.length).map .poll
  | .resolving _ | .exited => []

/-- What the parts of the engine might do by themselves. -/
def ownActions (e : Engine) : List Engine.Action :=
  let calls := (List.range e.calls.length).map fun i => .resume (.call i)
  let listeners := (List.range e.listeners.length).map fun i => .resume (.listener i)
  let workers := e.crew.workers.zipIdx.flatMap fun (w, i) => (workerActions w).map (.work i)
  calls ++ listeners ++ workers

/-- Let the first task of the errand that can ask for its list do so. -/
def pollErrand? (s : Simulation) : Option Simulation :=
  match s.errand with
  | .fetch token f =>
    (List.range f.tasks.length).findSome? fun i =>
      (f.poll? i s.world).map fun (f, r) => { s with errand := .fetch token f }.send (.task i) r
  | _ => none

/-- Let somebody run who can. -/
def advance? (s : Simulation) : Option Simulation :=
  ((ownActions s.engine).findSome? s.fire?).or (s.pollErrand?.or s.deliverFirst?)

/-- Let everybody run who can, at most `fuel` times. -/
def settleWithin (fuel : Nat) (s : Simulation) : Simulation :=
  match fuel with
  | 0 => s
  | fuel + 1 =>
    match s.advance? with
    | some s => settleWithin fuel s
    | none => s

/-- Let everybody run who can.  Nobody runs for ever at one instant, and far fewer steps than these
    are ever needed. -/
def settle (s : Simulation) : Simulation := settleWithin 10000000 s

/-! ### Time -/

/-- When a worker wants to run next. -/
def workerDue? (w : Worker) : Option Nat :=
  match w.stage with
  | .idle => some w.nextTick
  | _ => none

/-- The next instant at which something happens. -/
def nextInstant? (s : Simulation) : Option Nat :=
  (s.flights.map (·.due) ++ s.engine.crew.workers.filterMap workerDue? ++
    s.alarms.map (·.1)).min?

/-- Let the clock move to an instant, and cancel the tokens whose time has come. -/
def moveTo (s : Simulation) (instant : Nat) : Simulation :=
  let s := s.fire (.elapse (instant - s.clock))
  let (due, later) := s.alarms.partition (·.1 ≤ s.clock)
  due.foldl (fun s (_, token) => s.fire (.cancel token)) { s with alarms := later }

/-- Let time pass up to an instant, or until something holds; at most `fuel` instants long. -/
def runWithin (fuel : Nat) (s : Simulation) (limit : Nat) (until? : Simulation → Bool) :
    Simulation :=
  match fuel with
  | 0 => s
  | fuel + 1 =>
    let s := s.settle
    -- What is due at the limit itself still happens.
    if until? s || limit ≤ s.clock then s
    else runWithin fuel (s.moveTo (min limit ((s.nextInstant?).getD limit))) limit until?

/-- Let some milliseconds pass, or fewer if something holds before that.  Every instant at which
    something happens is a whole millisecond. -/
def run (s : Simulation) (milliseconds : Nat) (until? : Simulation → Bool) : Simulation :=
  runWithin (milliseconds + 2) s (s.clock + milliseconds * 1000000) until?

/-- Let some milliseconds pass. -/
def wait (s : Simulation) (milliseconds : Nat) : Simulation := s.run milliseconds fun _ => false

end Simulation

end TokenCatalog
