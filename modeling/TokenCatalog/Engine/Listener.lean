import TokenCatalog.Engine.Basic

namespace TokenCatalog

/-!
# Listeners — publishing after every refresh

A listener takes a result of its worker, publishes a snapshot under the lock, notifies the consumer,
waits for room for one notification more, and then acknowledges the result.  So a worker refreshes
again only after the consumer has made room.

* `Engine.resumeListener?` — a listener runs from one wait to the next;
* `Engine.abort` — a listener ends where it waits, and the result it has is lost.
-/

namespace Engine

/-- Acknowledge the result, whether or not the consumer has heard of it, and wait for the next. -/
def settle (e : Engine) (id : ListenerId) (worker : WorkerId) : Engine :=
  { e.setListener id .receiving with
    crew := e.crew.acknowledge worker, channel := e.channel.quit (.listener id) }

/-- Wait for room for one notification more. -/
def reserve (e : Engine) (id : ListenerId) (worker : WorkerId) : Engine :=
  let e := { e with channel := e.channel.join (.listener id) }
  -- Room that is there at once is given back at once: it was only asked for.
  if e.channel.isReady (.listener id) then e.settle id worker else e.setListener id .reserving

/-- Send the notification one has room for. -/
def deliver (e : Engine) (id : ListenerId) (worker : WorkerId) : Turn :=
  if e.channel.isOpen then
    let (e, events) := e.enqueue (.listener id)
    (e.reserve id worker, events)
  else (e.settle id worker, [])

/-- Publish under the lock, give it up, and notify. -/
def announce (c : Config) (e : Engine) (id : ListenerId) (worker : WorkerId) : Turn :=
  let e := (e.publish c).release (.listener id)
  let e := { e with channel := e.channel.join (.listener id) }
  if e.channel.isReady (.listener id) then
    let (e, events) := e.deliver id worker
    (e, .published :: events)
  else (e.setListener id .sending, [.published])

/-- Take a result and ask for the lock. -/
def accept (c : Config) (e : Engine) (id : ListenerId) (worker : WorkerId) : Turn :=
  let e := { e with crew := e.crew.take worker, lock := e.lock ++ [Process.listener id] }
  if e.holds (.listener id) then e.announce c id worker else (e.setListener id .locking, [])

/-- Run a listener from one wait to the next; none if it still has to wait. -/
def resumeListener? (c : Config) (e : Engine) (id : ListenerId) : Option Turn :=
  match e.listeners[id]? with
  | none => none
  | some l =>
    match l.stage with
    | .receiving =>
      -- A result that was offered outlives its worker.
      if e.crew.offers l.worker then some (e.accept c id l.worker)
      else if e.crew.isLive l.worker then none
      else some (e.setListener id .ended, [])
    | .locking => if e.holds (.listener id) then some (e.announce c id l.worker) else none
    | .sending =>
      if e.channel.isReady (.listener id) then some (e.deliver id l.worker) else none
    | .reserving =>
      if e.channel.isReady (.listener id) then some (e.settle id l.worker, []) else none
    | .ended => none

/-- End a listener where it waits. -/
def abort (e : Engine) (id : ListenerId) : Engine :=
  match e.listeners[id]? with
  | none => e
  | some l =>
    if l.stage = .ended then e
    else
      { (e.release (.listener id)).setListener id .ended with
        crew := e.crew.leave l.worker, channel := e.channel.quit (.listener id) }

end Engine

end TokenCatalog
