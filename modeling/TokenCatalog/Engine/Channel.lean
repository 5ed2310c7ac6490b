namespace TokenCatalog

/-!
# The notification channel — bounded, first come first served

A sender that finds no room waits in a queue.  Room belongs to whoever waits longest, so the sender
at place `i` may go on as soon as more than `i` places are free; once the consumer has hung up,
everybody may.  A sender can also wait for room without using it.

* `Channel.isReady` — whether a waiting sender may go on;
* `Channel.join`, `Channel.quit`, `Channel.put`, `Channel.take?`, `Channel.hangUp`.
-/

/-- A call of the facade, by the order in which they came. -/
abbrev CallId := Nat

/-- A listener, by the order in which they were spawned. -/
abbrev ListenerId := Nat

/-- Somebody who waits for a lock or for room in a channel. -/
inductive Process where
  | call (id : CallId)
  | listener (id : ListenerId)
  deriving DecidableEq, Repr

/-- A bounded channel of notifications. -/
structure Channel where
  capacity : Nat
  /-- How many notifications wait for the consumer. -/
  unread : Nat := 0
  /-- Who waits for room, longest first. -/
  waiting : List Process := []
  /-- The consumer has not hung up. -/
  isOpen : Bool := true
  deriving DecidableEq, Repr, Inhabited

namespace Channel

/-- How many notifications the channel has room for. -/
def room (c : Channel) : Nat := c.capacity - c.unread

/-- Whether one who waits for room may go on. -/
def isReady (c : Channel) (p : Process) : Bool :=
  !c.isOpen || (c.waiting.take c.room).contains p

/-- Wait for room behind everybody who does. -/
def join (c : Channel) (p : Process) : Channel := { c with waiting := c.waiting ++ [p] }

/-- Wait no longer. -/
def quit (c : Channel) (p : Process) : Channel := { c with waiting := c.waiting.erase p }

/-- Use the room one has waited for. -/
def put (c : Channel) (p : Process) : Channel := { c.quit p with unread := c.unread + 1 }

/-- The consumer takes a notification. -/
def take? (c : Channel) : Option Channel :=
  if 0 < c.unread then some { c with unread := c.unread - 1 } else none

/-- The consumer hangs up; what it has not read is lost. -/
def hangUp (c : Channel) : Channel := { c with isOpen := false, unread := 0 }

end Channel

end TokenCatalog
