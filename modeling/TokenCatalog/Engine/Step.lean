import TokenCatalog.Engine.Call

namespace TokenCatalog

/-!
# Steps — everything that can happen to an engine

* `Engine.Action` — what can happen between two waits, by the application, the clock, the network,
  the consumer, a caller, or a part of the engine itself;
* `Engine.step?` — what an action does, none if it cannot happen;
* `Engine.Run` — actions one after the other, with everything others can see of them;
* `Engine.Reachable` — the states of all runs of a new engine.
-/

namespace Engine

/-- What can happen to an engine. -/
inductive Action where
  /-- The application changes what it provides, the clock on the wall moves, or hash maps come in
      another order. -/
  | alter (w : World)
  /-- The steady clock moves. -/
  | elapse (nanoseconds : Nat)
  /-- A token is cancelled. -/
  | cancel (token : TokenId)
  /-- Somebody calls. -/
  | invoke (call : Call)
  /-- A caller loses interest. -/
  | abandon (id : CallId)
  /-- A call or a listener runs. -/
  | resume (p : Process)
  /-- A worker runs. -/
  | work (id : WorkerId) (a : Worker.Action)
  /-- The consumer takes a notification. -/
  | receive
  /-- The consumer hangs up. -/
  | hangUp

/-- What an action does, with what others can see of it; none if it cannot happen. -/
def step? (c : Config) (e : Engine) : Action → Option Turn
  | .alter world => some ({ e with crew := { e.crew with world } }, [])
  | .elapse n => some ({ e with crew := { e.crew with clock := e.crew.clock + n } }, [])
  | .cancel token =>
    some ({ e with crew := { e.crew with cancelled := token :: e.crew.cancelled } }, [])
  | .invoke call => some (e.invoke call, [])
  | .abandon id => (e.abandonCall? id).map (·, [])
  | .resume (.call id) => e.resumeCall? c id
  | .resume (.listener id) => e.resumeListener? c id
  | .work id a => (e.crew.act? c id a).map fun (crew, events) => ({ e with crew }, events)
  | .receive => e.channel.take?.map fun channel => ({ e with channel }, [.received])
  | .hangUp => some ({ e with channel := e.channel.hangUp }, [])

/-- An engine in a world, before anything happened. -/
def initial (world : World) (capacity : Nat) : Engine :=
  { crew := { world }, channel := { capacity } }

/-- A run: each action with the state it leads to and what others can see of it. -/
inductive Run (c : Config) (start : Engine) : List (Action × Engine × List Event) → Engine → Prop
  | nil : Run c start [] start
  | snoc {steps : List (Action × Engine × List Event)} {e e' : Engine} {a : Action}
      {events : List Event} (run : Run c start steps e) (h : e.step? c a = some (e', events)) :
      Run c start (steps ++ [(a, e', events)]) e'

/-- A state that some run of a new engine leads to. -/
def Reachable (c : Config) (e : Engine) : Prop :=
  ∃ world capacity steps, Run c (initial world capacity) steps e

end Engine

end TokenCatalog
