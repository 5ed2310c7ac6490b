import TokenCatalog.Refresh.Worker

namespace TokenCatalog

/-!
# Crews — the workers of an engine in one world

* `Crew.spawn`, `Crew.stop` — a worker comes, a worker is told to go;
* `Crew.take`, `Crew.acknowledge`, `Crew.throwAway`, `Crew.leave` — what a consumer does;
* `Crew.act?` — a worker runs.
-/

/-- Workers, the world they share, and which tokens are cancelled. -/
structure Crew where
  world : World
  /-- A steady clock, in nanoseconds. -/
  clock : Nat := 0
  cancelled : List TokenId := []
  /-- Every worker that was ever spawned. -/
  workers : List Worker := []
  deriving Inhabited

namespace Crew

/-- Whether a worker is cancelled: told to stop, or under a cancelled token. -/
def isCancelled (k : Crew) (w : Worker) : Bool := w.stopped || k.cancelled.contains w.parent

/-- Whether a worker exists and has not left. -/
def isLive (k : Crew) (id : WorkerId) : Bool := k.workers[id]?.any Worker.isLive

/-- Change a worker. -/
def modify (k : Crew) (id : WorkerId) (f : Worker → Worker) : Crew :=
  { k with workers := k.workers.modify id f }

/-- A new worker under a token, and its id. -/
def spawn (k : Crew) (parent : TokenId) (force : Bool) : Crew × WorkerId :=
  ({ k with workers := k.workers ++ [{ parent, stage := .spawned force }] }, k.workers.length)

/-- Tell a worker to stop. -/
def stop (k : Crew) (id : WorkerId) : Crew := k.modify id ({ · with stopped := true })

/-- Whether a worker offers a result. -/
def offers (k : Crew) (id : WorkerId) : Bool := k.workers[id]?.any (·.handover = .offered)

/-- The consumer takes a result. -/
def take (k : Crew) (id : WorkerId) : Crew := k.modify id ({ · with handover := .taken })

/-- The consumer acknowledges a result. -/
def acknowledge (k : Crew) (id : WorkerId) : Crew :=
  k.modify id ({ · with handover := .acknowledged })

/-- The consumer throws a result away. -/
def throwAway (k : Crew) (id : WorkerId) : Crew := k.modify id ({ · with handover := .dropped })

/-- The consumer leaves; a result that it has, or that was on its way, is lost. -/
def leave (k : Crew) (id : WorkerId) : Crew :=
  k.modify id fun w =>
    { w with
      hasConsumer := false
      handover := if w.handover = .offered ∨ w.handover = .taken then .dropped else w.handover }

/-- Run a worker from one wait to the next; none if it cannot do that. -/
def act? (k : Crew) (c : Config) (id : WorkerId) (a : Worker.Action) :
    Option (Crew × List Event) :=
  match k.workers[id]? with
  | none => none
  | some w =>
    (w.act? ⟨c, k.world, k.clock, k.isCancelled w, id⟩ a).map fun t =>
      ({ k with world := t.world, workers := k.workers.set id t.worker }, t.events)

end Crew

end TokenCatalog
