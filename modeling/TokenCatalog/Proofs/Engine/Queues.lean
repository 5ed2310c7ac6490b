import TokenCatalog.Proofs.Engine.Custody
import TokenCatalog.Proofs.Engine.Delivery

namespace TokenCatalog

/-!
# Queues — who stands where

Two queues order the parts of an engine: one for the lock, one for room in the channel.  Whoever
waits for either stands in its queue once, and nobody else does.

* `CallStage.inLock`, `CallStage.inRoom` and those of listeners — how many places a wait takes;
* `Queued` — the queues hold exactly those who wait, and `queued_of_reachable`, which says that they
  always do;
* `Engine.Apart` — a step in which nobody else moves, the way to prove it.
-/

/-- How many places a call that waits there has in the queue for the lock. -/
def CallStage.inLock : CallStage → Nat
  | .locking | .joining .. => 1
  | .sending | .returned _ | .abandoned => 0

/-- How many places a call that waits there has in the queue for room. -/
def CallStage.inRoom : CallStage → Nat
  | .sending => 1
  | .locking | .joining .. | .returned _ | .abandoned => 0

/-- How many places a listener that waits there has in the queue for the lock. -/
def ListenerStage.inLock : ListenerStage → Nat
  | .locking => 1
  | .receiving | .sending | .reserving | .ended => 0

/-- How many places a listener that waits there has in the queue for room. -/
def ListenerStage.inRoom : ListenerStage → Nat
  | .sending | .reserving => 1
  | .receiving | .locking | .ended => 0

/-- A listener stands in the queue for the lock once at most. -/
theorem ListenerStage.inLock_le_one (s : ListenerStage) : s.inLock ≤ 1 := by
  cases s <;> decide

/-- A listener stands in the queue for room once at most. -/
theorem ListenerStage.inRoom_le_one (s : ListenerStage) : s.inRoom ≤ 1 := by
  cases s <;> decide

/-! ### Places in the channel -/

namespace Channel

variable {ch ch' : Channel} {p q : Process} {events : List Event}

/-- Joining adds one place, at the end. -/
theorem count_join (ch : Channel) (p q : Process) :
    (ch.join p).waiting.count q = ch.waiting.count q + if p = q then 1 else 0 := by
  show (ch.waiting ++ [p]).count q = _
  rw [List.count_append, List.count_singleton]
  by_cases hpq : p = q <;> simp [hpq]

/-- Quitting gives up one place. -/
theorem count_quit (ch : Channel) (p q : Process) :
    (ch.quit p).waiting.count q = ch.waiting.count q - if p = q then 1 else 0 := by
  show (ch.waiting.erase p).count q = _
  rw [List.count_erase]
  by_cases hpq : p = q <;> simp [hpq]

/-- A notification gives up the place it was sent from. -/
theorem count_put (ch : Channel) (p q : Process) :
    (ch.put p).waiting.count q = ch.waiting.count q - if p = q then 1 else 0 :=
  count_quit ch p q

/-- A listener that relays takes the places of where it waits then, and those of nobody else. -/
theorem Relays.count {s : ListenerStage} (h : ch.Relays p s ch' events)
    (hp : ch.waiting.count p = 1) :
    ch'.waiting.count p = s.inRoom ∧ ∀ q, q ≠ p → ch'.waiting.count q = ch.waiting.count q := by
  cases h with
  | waits => exact ⟨hp, fun q _ => rfl⟩
  | unheard =>
    refine ⟨by rw [count_quit, hp]; simp [ListenerStage.inRoom], fun q hq => ?_⟩
    rw [count_quit, if_neg (Ne.symm hq), Nat.sub_zero]
  | parks =>
    refine ⟨by rw [count_join, count_put, hp]; simp [ListenerStage.inRoom], fun q hq => ?_⟩
    rw [count_join, count_put, if_neg (Ne.symm hq), Nat.sub_zero, Nat.add_zero]
  | settles =>
    refine ⟨by rw [count_quit, count_join, count_put, hp]; simp [ListenerStage.inRoom], ?_⟩
    intro q hq
    rw [count_quit, count_join, count_put, if_neg (Ne.symm hq)]
    simp

/-- A call that sends takes the places of where it waits then, and those of nobody else. -/
theorem Sends.count {s : CallStage} (h : ch.Sends p s ch' events) (hp : ch.waiting.count p = 1) :
    ch'.waiting.count p = s.inRoom ∧ ∀ q, q ≠ p → ch'.waiting.count q = ch.waiting.count q := by
  cases h with
  | waits => exact ⟨hp, fun q _ => rfl⟩
  | unheard =>
    refine ⟨by rw [count_quit, hp]; simp [CallStage.inRoom], fun q hq => ?_⟩
    rw [count_quit, if_neg (Ne.symm hq), Nat.sub_zero]
  | notifies =>
    refine ⟨by rw [count_put, hp]; simp [CallStage.inRoom], fun q hq => ?_⟩
    rw [count_put, if_neg (Ne.symm hq), Nat.sub_zero]

/-- A call that has sent, or waits to, has given up the lock. -/
theorem Sends.inLock {s : CallStage} (h : ch.Sends p s ch' events) : s.inLock = 0 := by
  cases h <;> rfl

/-- A listener that has sent, or waits to, has given up the lock. -/
theorem Relays.inLock {s : ListenerStage} (h : ch.Relays p s ch' events) : s.inLock = 0 := by
  cases h <;> rfl

end Channel

namespace Engine

variable {c : Config} {e e' e'' : Engine} {p q : Process} {id : CallId} {l : ListenerId}

/-- Where a listener waits. -/
def listenerStage? (e : Engine) (l : ListenerId) : Option ListenerStage :=
  e.listeners[l]?.map (·.stage)

/-- How many places a process is due in the queue for the lock. -/
def inLock (e : Engine) : Process → Nat
  | .call id => (e.stage? id).elim 0 CallStage.inLock
  | .listener l => (e.listenerStage? l).elim 0 ListenerStage.inLock

/-- How many places a process is due in the queue for room. -/
def inRoom (e : Engine) : Process → Nat
  | .call id => (e.stage? id).elim 0 CallStage.inRoom
  | .listener l => (e.listenerStage? l).elim 0 ListenerStage.inRoom

/-- Whoever waits for the lock or for room has one place in the queue for it, and nobody else
    has. -/
structure Queued (e : Engine) : Prop where
  lock : ∀ p, e.lock.count p = e.inLock p
  room : ∀ p, e.channel.waiting.count p = e.inRoom p

/-! ### Nobody else moves -/

/-- From one state to another, everybody but one process stays where it was. -/
structure Apart (p : Process) (e e' : Engine) : Prop where
  lock : ∀ q, q ≠ p → e'.lock.count q = e.lock.count q
  room : ∀ q, q ≠ p → e'.channel.waiting.count q = e.channel.waiting.count q
  inLock : ∀ q, q ≠ p → e'.inLock q = e.inLock q
  inRoom : ∀ q, q ≠ p → e'.inRoom q = e.inRoom q

/-- Nobody moves in no step. -/
theorem Apart.refl (e : Engine) : Apart p e e :=
  ⟨fun _ _ => rfl, fun _ _ => rfl, fun _ _ => rfl, fun _ _ => rfl⟩

/-- Whoever stays where it was twice stays where it was. -/
theorem Apart.trans (h : Apart p e e') (h' : Apart p e' e'') : Apart p e e'' where
  lock q hq := (h'.lock q hq).trans (h.lock q hq)
  room q hq := (h'.room q hq).trans (h.room q hq)
  inLock q hq := (h'.inLock q hq).trans (h.inLock q hq)
  inRoom q hq := (h'.inRoom q hq).trans (h.inRoom q hq)

/-- If the one that moves is where it is due, and nobody else has moved, the queues are in order. -/
theorem Queued.of_apart (h : Queued e) (ha : Apart p e e') (hlock : e'.lock.count p = e'.inLock p)
    (hroom : e'.channel.waiting.count p = e'.inRoom p) : Queued e' := by
  constructor
  · intro q
    by_cases hq : q = p
    · rw [hq, hlock]
    · rw [ha.lock q hq, ha.inLock q hq, h.lock q]
  · intro q
    by_cases hq : q = p
    · rw [hq, hroom]
    · rw [ha.room q hq, ha.inRoom q hq, h.room q]

/-- Putting a listener elsewhere is putting it elsewhere, and no other. -/
theorem listenerStage?_modify {s : ListenerStage}
    (h : e'.listeners = e.listeners.modify l ({ · with stage := s })) (j : ListenerId) :
    e'.listenerStage? j = if l = j then (e.listenerStage? j).map fun _ => s
      else e.listenerStage? j := by
  rw [listenerStage?, listenerStage?, h, List.getElem?_modify]
  by_cases hj : l = j
  · rw [if_pos hj]
    cases e.listeners[j]? <;> simp [hj]
  · rw [if_neg hj]
    cases e.listeners[j]? <;> simp [hj]

/-- Where listeners wait depends on the listeners alone. -/
theorem listenerStage?_of_listeners (h : e'.listeners = e.listeners) (j : ListenerId) :
    e'.listenerStage? j = e.listenerStage? j := by
  rw [listenerStage?, listenerStage?, h]

/-- Only a call moves. -/
theorem apart_call {s : CallStage} (hcalls : e'.calls = e.calls.modify id ({ · with stage := s }))
    (hlisteners : e'.listeners = e.listeners)
    (hlock : ∀ q, q ≠ .call id → e'.lock.count q = e.lock.count q)
    (hroom : ∀ q, q ≠ .call id → e'.channel.waiting.count q = e.channel.waiting.count q) :
    Apart (.call id) e e' := by
  have hstage : ∀ j, Process.call j ≠ .call id → e'.stage? j = e.stage? j := by
    intro j hj
    rw [stage?_modify hcalls, if_neg fun h => hj (by rw [h])]
  refine ⟨hlock, hroom, fun q hq => ?_, fun q hq => ?_⟩
  · cases q with
    | call j => simp only [Engine.inLock, hstage j hq]
    | listener j => simp only [Engine.inLock, listenerStage?_of_listeners hlisteners]
  · cases q with
    | call j => simp only [Engine.inRoom, hstage j hq]
    | listener j => simp only [Engine.inRoom, listenerStage?_of_listeners hlisteners]

/-- Only a listener moves. -/
theorem apart_listener {s : ListenerStage}
    (hlisteners : e'.listeners = e.listeners.modify l ({ · with stage := s }))
    (hcalls : e'.calls = e.calls)
    (hlock : ∀ q, q ≠ .listener l → e'.lock.count q = e.lock.count q)
    (hroom : ∀ q, q ≠ .listener l → e'.channel.waiting.count q = e.channel.waiting.count q) :
    Apart (.listener l) e e' := by
  have hstage : ∀ j, Process.listener j ≠ .listener l →
      e'.listenerStage? j = e.listenerStage? j := by
    intro j hj
    rw [listenerStage?_modify hlisteners, if_neg fun h => hj (by rw [h])]
  refine ⟨hlock, hroom, fun q hq => ?_, fun q hq => ?_⟩
  · cases q with
    | call j => simp only [Engine.inLock, stage?_of_calls hcalls]
    | listener j => simp only [Engine.inLock, hstage j hq]
  · cases q with
    | call j => simp only [Engine.inRoom, stage?_of_calls hcalls]
    | listener j => simp only [Engine.inRoom, hstage j hq]

/-- Where a call waits settles which places it is due. -/
theorem places_of_pending {s : CallStage} (h : e.stage? id = some s) :
    e.inLock (.call id) = s.inLock ∧ e.inRoom (.call id) = s.inRoom := by
  rw [Engine.inLock, Engine.inRoom, h]
  exact ⟨rfl, rfl⟩

/-- Where a call is due depends on the calls alone. -/
theorem places_of_calls (h : e'.calls = e.calls) (id : CallId) :
    e'.inLock (.call id) = e.inLock (.call id) ∧ e'.inRoom (.call id) = e.inRoom (.call id) := by
  rw [Engine.inLock, Engine.inRoom, stage?_of_calls h]
  exact ⟨rfl, rfl⟩

/-- A call that has the lock is due what the place where it waits then takes. -/
theorem inLock_of_modify {s : CallStage}
    (h : e'.calls = e.calls.modify id ({ · with stage := s })) (hlock : e.inLock (.call id) = 1) :
    e'.inLock (.call id) = s.inLock ∧ e'.inRoom (.call id) = s.inRoom := by
  rw [Engine.inLock] at hlock
  rw [Engine.inLock, Engine.inRoom, stage?_modify h, if_pos rfl]
  cases hs : e.stage? id with
  | none =>
    rw [hs] at hlock
    cases hlock
  | some s' => exact ⟨rfl, rfl⟩

/-- Where a listener has come to wait settles which places it is due. -/
theorem places_relayed (e : Engine) (w : WorkerId) (s : ListenerStage) (ch : Channel)
    (h : e.listeners[l]?.isSome) :
    (e.relayed l w s ch).inLock (.listener l) = s.inLock ∧
      (e.relayed l w s ch).inRoom (.listener l) = s.inRoom := by
  obtain ⟨li, hli⟩ := Option.isSome_iff_exists.1 h
  rw [Engine.inLock, Engine.inRoom, listenerStage?_modify (e := e) rfl, if_pos rfl, listenerStage?,
    hli]
  exact ⟨rfl, rfl⟩

/-- A new listener waits where it was put, and all others where they were. -/
theorem listenerStage?_snoc {li : Listener} (h : e'.listeners = e.listeners ++ [li])
    (j : ListenerId) :
    e'.listenerStage? j =
      if j = e.listeners.length then some li.stage else e.listenerStage? j := by
  simp only [listenerStage?, h]
  rw [getElem?_snoc]
  split <;> rfl

/-- A new listener waits for a result, and so is due no place. -/
theorem places_of_newcomer {w : WorkerId}
    (hlisteners : e'.listeners = e.listeners ++ [⟨w, .receiving⟩])
    (hcalls : e'.calls = e.calls) (p : Process) :
    e'.inLock p = e.inLock p ∧ e'.inRoom p = e.inRoom p := by
  cases p with
  | call id => exact places_of_calls hcalls id
  | listener j =>
    rw [Engine.inLock, Engine.inRoom, Engine.inLock, Engine.inRoom, listenerStage?_snoc hlisteners]
    by_cases hj : j = e.listeners.length
    · -- No listener had this number before.
      have hold : e.listenerStage? j = none := by
        rw [listenerStage?, List.getElem?_eq_none (Nat.le_of_eq hj.symm)]
        rfl
      rw [if_pos hj, hold]
      exact ⟨rfl, rfl⟩
    · rw [if_neg hj]
      exact ⟨rfl, rfl⟩

/-- A release takes one place out of the queue for the lock, that of the one that releases. -/
theorem count_release (e : Engine) (p q : Process) :
    (e.release p).lock.count q = e.lock.count q - if p = q then 1 else 0 := by
  show (e.lock.erase p).count q = _
  rw [List.count_erase]
  by_cases hpq : p = q <;> simp [hpq]

/-- A release takes nobody else's place. -/
theorem count_release_of_ne (e : Engine) (hq : q ≠ p) :
    (e.release p).lock.count q = e.lock.count q := by
  rw [count_release, if_neg (Ne.symm hq), Nat.sub_zero]

/-! ### Parts of a call -/

namespace Queued

/-- It matters only who waits where, and who stands in the queues. -/
theorem congr (h : Queued e) (hlock : e'.lock = e.lock)
    (hroom : e'.channel.waiting = e.channel.waiting) (hcalls : e'.calls = e.calls)
    (hlisteners : e'.listeners = e.listeners) : Queued e' := by
  have hstage := stage?_of_calls hcalls
  have hlistening := listenerStage?_of_listeners hlisteners
  constructor
  · intro p
    rw [hlock, h.lock]
    cases p <;> simp only [Engine.inLock, hstage, hlistening]
  · intro p
    rw [hroom, h.room]
    cases p <;> simp only [Engine.inRoom, hstage, hlistening]

/-- A call that notes what it sees leaves the queues as they are. -/
theorem note (h : Queued e) (c : Config) (call : Call) : Queued (call.note c e) := by
  rw [note_eq]
  exact h.congr rfl rfl rfl rfl

/-- Forgetting the worker leaves the queues as they are. -/
theorem forget (h : Queued e) : Queued e.forget := by
  unfold Engine.forget
  split
  · exact h
  · exact h.congr rfl rfl rfl rfl

/-- Starting a worker leaves the queues as they are: its listener waits for a result. -/
theorem startWorker (h : Queued e) (force : Bool) : Queued (e.startWorker force) := by
  unfold Engine.startWorker
  split
  · exact h
  · constructor
    · intro p
      exact (h.lock p).trans (places_of_newcomer (by rfl) (by rfl) p).1.symm
    · intro p
      exact (h.room p).trans (places_of_newcomer (by rfl) (by rfl) p).2.symm

/-- What was planned for after the worker has left leaves the queues as they are. -/
theorem heed (h : Queued e) (next : AfterLeave) : Queued (e.heed next) := by
  cases next with
  | restart => exact h.startWorker true
  | stop => exact h.congr rfl rfl rfl rfl
  | done | goPrivate => exact h

/-- A listener that is ended gives up its places. -/
theorem abort (h : Queued e) (l : ListenerId) : Queued (e.abort l) := by
  unfold Engine.abort
  split
  · exact h
  · rename_i li hli
    split
    · exact h
    -- It stands in each queue once at most, so giving up one place gives up all.
    · have hlocked : e.lock.count (.listener l) ≤ 1 := by
        rw [h.lock]
        simp only [Engine.inLock, listenerStage?, hli]
        exact li.stage.inLock_le_one
      have hroomed : e.channel.waiting.count (.listener l) ≤ 1 := by
        rw [h.room]
        simp only [Engine.inRoom, listenerStage?, hli]
        exact li.stage.inRoom_le_one
      have hstage : ((e.release (.listener l)).setListener l .ended).listenerStage? l =
          some .ended := by
        rw [listenerStage?_modify (e := e) rfl, if_pos rfl, listenerStage?, hli]
        rfl
      refine h.of_apart (apart_listener rfl rfl (fun q hq => count_release_of_ne e hq) ?_) ?_ ?_
      · intro q hq
        show (e.channel.quit _).waiting.count q = _
        rw [Channel.count_quit, if_neg (Ne.symm hq), Nat.sub_zero]
      · show (e.release _).lock.count _ = (Engine.listenerStage? _ l).elim 0 _
        rw [count_release, if_pos rfl]
        refine (by omega : _ = 0).trans ?_
        exact (congrArg (Option.elim · 0 ListenerStage.inLock) hstage).symm
      · show (e.channel.quit _).waiting.count _ = (Engine.listenerStage? _ l).elim 0 _
        rw [Channel.count_quit, if_pos rfl]
        refine (by omega : _ = 0).trans ?_
        exact (congrArg (Option.elim · 0 ListenerStage.inRoom) hstage).symm

/-- The listener that is dropped gives up its places. -/
theorem dropListener (h : Queued e) : Queued e.dropListener := by
  have helim : Queued (e.listener.elim e e.abort) := by
    cases e.listener with
    | none => exact h
    | some l => exact h.abort l
  exact helim.congr rfl rfl rfl rfl

/-! ### A call moves -/

/-- A call that gives up the lock for good, and waits for nothing any more. -/
theorem answer (h : Queued e) (hlock : e.inLock (.call id) = 1) (hroom : e.inRoom (.call id) = 0)
    (r : Except CallError Unit) : Queued (e.answer id r).1 := by
  have hcalls : (e.answer id r).1.calls =
      e.calls.modify id ({ · with stage := .returned r }) := rfl
  obtain ⟨hlock', hroom'⟩ := inLock_of_modify hcalls hlock
  refine h.of_apart (apart_call hcalls rfl (fun q hq => count_release_of_ne e hq) fun q _ => rfl) ?_ ?_
  · show (e.release _).lock.count _ = _
    rw [count_release, if_pos rfl, h.lock, hlock, hlock']
    rfl
  · show e.channel.waiting.count _ = _
    rw [h.room, hroom, hroom']
    rfl

/-- A call that publishes exchanges its place for the lock for one in the channel, or for none. -/
theorem publishPrivately (h : Queued e) (hlock : e.inLock (.call id) = 1)
    (hroom : e.inRoom (.call id) = 0) (c : Config) : Queued (e.publishPrivately c id).1 := by
  obtain ⟨s, ch, events, hsends, heq⟩ := publishPrivately_sends c e id
  have hjoined : (e.channel.join (.call id)).waiting.count (.call id) = 1 := by
    rw [Channel.count_join, if_pos rfl, h.room, hroom]
  -- The call exchanges its place for the lock for one in the channel.
  obtain ⟨hself, hothers⟩ := hsends.count hjoined
  have hcalls : (e.publishPrivately c id).1.calls =
      e.calls.modify id ({ · with stage := s }) := by
    rw [heq]
    rfl
  obtain ⟨hlock', hroom'⟩ := inLock_of_modify hcalls hlock
  refine h.of_apart (apart_call hcalls (by rw [heq]; rfl) (fun q hq => ?_) fun q hq => ?_) ?_ ?_
  · rw [heq]
    exact count_release_of_ne e hq
  · rw [heq]
    show ch.waiting.count q = _
    rw [hothers q hq, Channel.count_join, if_neg (Ne.symm hq), Nat.add_zero]
  · rw [hlock', hsends.inLock, heq]
    show (e.release _).lock.count _ = _
    rw [count_release, if_pos rfl, h.lock, hlock]
  · rw [hroom', heq]
    exact hself

/-- A call that waits for a worker keeps its place for the lock. -/
theorem joining (h : Queued e) (hlock : e.inLock (.call id) = 1) (hroom : e.inRoom (.call id) = 0)
    (w : WorkerId) (next : AfterLeave) : Queued (e.setCall id (.joining w next)) := by
  have hcalls : (e.setCall id (.joining w next)).calls =
      e.calls.modify id ({ · with stage := .joining w next }) := rfl
  obtain ⟨hlock', hroom'⟩ := inLock_of_modify hcalls hlock
  refine h.of_apart (apart_call hcalls rfl (fun q _ => rfl) fun q _ => rfl) ?_ ?_
  · rw [hlock']
    exact (h.lock _).trans hlock
  · rw [hroom']
    exact (h.room _).trans hroom

/-- What is done after the worker has left leaves the queues in order. -/
theorem afterLeave (h : Queued e) (hlock : e.inLock (.call id) = 1)
    (hroom : e.inRoom (.call id) = 0) (c : Config) (next : AfterLeave) :
    Queued (e.afterLeave c id next).1 := by
  have hheed := h.dropListener.heed next
  have hcalls : (e.dropListener.heed next).calls = e.calls := by
    rw [calls_heed, (keeps_dropListener e).calls]
  obtain ⟨hlock', hroom'⟩ := places_of_calls hcalls id
  rw [hlock] at hlock'
  rw [hroom] at hroom'
  cases next with
  | done | stop | restart => exact hheed.answer hlock' hroom' _
  | goPrivate wasPrivate =>
    cases wasPrivate with
    | true => exact hheed.answer hlock' hroom' _
    | false => exact hheed.publishPrivately hlock' hroom' c

/-- A call that does its duty leaves the queues in order. -/
theorem perform (h : Queued e) (hlock : e.inLock (.call id) = 1) (hroom : e.inRoom (.call id) = 0)
    (c : Config) (d : Duty) : Queued (e.perform c id d).1 := by
  cases d with
  | refuse | keep => exact h.answer hlock hroom _
  | publish => exact h.publishPrivately hlock hroom c
  | hire =>
    obtain ⟨hlock', hroom'⟩ := places_of_calls (calls_startWorker e false) id
    exact (h.startWorker false).answer (hlock'.trans hlock) (hroom'.trans hroom) _
  | dismiss next =>
    obtain ⟨hlock', hroom'⟩ := places_of_calls (calls_forget e) id
    rw [hlock] at hlock'
    rw [hroom] at hroom'
    rw [Engine.perform]
    -- The call goes on, or waits for the worker with the lock.
    rcases stopWorker_eq c e id next with heq | ⟨worker, -, -, heq⟩
    · rw [heq]
      exact h.forget.afterLeave hlock' hroom' c next
    · rw [heq]
      exact h.forget.joining hlock' hroom' worker next

/-- A call that has sent gives up its place in the channel. -/
theorem sent (h : Queued e) (hlock : e.inLock (.call id) = 0) (hroom : e.inRoom (.call id) = 1)
    (ready : e.channel.isReady (.call id) = true) :
    Queued ((e.enqueue (.call id)).1.setCall id (.returned (.ok ()))) := by
  obtain ⟨ch, hsends, heq⟩ := enqueue_sends e id ready
  obtain ⟨hself, hothers⟩ := hsends.count ((h.room _).trans hroom)
  rw [heq]
  refine h.of_apart (apart_call (s := .returned (.ok ())) rfl rfl (fun q _ => rfl) hothers) ?_ ?_
  · show e.lock.count _ = _
    rw [h.lock, hlock, Engine.inLock, stage?_modify (e := e) rfl, if_pos rfl]
    cases e.stage? id <;> rfl
  · show ch.waiting.count _ = _
    rw [hself, Engine.inRoom, stage?_modify (e := e) rfl, if_pos rfl]
    cases e.stage? id <;> rfl

/-- A call's step leaves the queues in order. -/
theorem resumeCall? {t : Turn} (h : Queued e) (hr : e.resumeCall? c id = some t) :
    Queued t.1 := by
  cases callStep_of_resumeCall? hr with
  | @run call hpending =>
    obtain ⟨hlock, hroom⟩ := places_of_pending (e := e) (stage?_of_getElem? hpending)
    obtain ⟨hlock', hroom'⟩ := places_of_calls (calls_note c e call) id
    rw [runCall_eq]
    exact (h.note c call).perform (hlock'.trans hlock) (hroom'.trans hroom) c _
  | @left call worker next hpending =>
    obtain ⟨hlock, hroom⟩ := places_of_pending (e := e) (stage?_of_getElem? hpending)
    exact h.afterLeave hlock hroom c next
  | sent hpending hready =>
    obtain ⟨hlock, hroom⟩ := places_of_pending (e := e) (stage?_of_getElem? hpending)
    exact h.sent hlock hroom hready

/-- A new call joins the queue for the lock. -/
theorem invoke (h : Queued e) (call : Call) : Queued (e.invoke call) := by
  have hnew : e.stage? e.calls.length = none := by
    rw [stage?, List.getElem?_eq_none (Nat.le_refl _)]
    rfl
  -- Nobody else moves, and the new call has just joined the queue for the lock.
  have happart : Apart (.call e.calls.length) e (e.invoke call) := by
    refine ⟨fun q hq => ?_, fun q _ => rfl, fun q hq => ?_, fun q hq => ?_⟩
    · show (e.lock ++ [_]).count q = _
      rw [List.count_append, List.count_singleton, if_neg (by simpa using Ne.symm hq), Nat.add_zero]
    · cases q with
      | call j => rw [Engine.inLock, stage?_invoke, if_neg fun hj => hq (by rw [hj])]; rfl
      | listener j => rfl
    · cases q with
      | call j => rw [Engine.inRoom, stage?_invoke, if_neg fun hj => hq (by rw [hj])]; rfl
      | listener j => rfl
  refine h.of_apart happart ?_ ?_
  · show (e.lock ++ [_]).count _ = _
    rw [List.count_append, h.lock, Engine.inLock, Engine.inLock, hnew, stage?_invoke, if_pos rfl]
    simp [CallStage.inLock]
  · show e.channel.waiting.count _ = _
    rw [h.room, Engine.inRoom, Engine.inRoom, hnew, stage?_invoke, if_pos rfl]
    rfl

/-- A call that is abandoned gives up its places. -/
theorem abandonCall? (h : Queued e) (ha : e.abandonCall? id = some e') : Queued e' := by
  unfold Engine.abandonCall? at ha
  split at ha
  · cases ha
  · rename_i p hp
    obtain ⟨hlock, hroom⟩ := places_of_pending (e := e) (s := p.stage) (stage?_of_getElem? hp)
    have hself : ∀ e'' : Engine, e''.calls = e.calls.modify id ({ · with stage := .abandoned }) →
        e''.inLock (.call id) = 0 ∧ e''.inRoom (.call id) = 0 := fun e'' hcalls =>
      places_of_pending (stage?_modify_self hp hcalls)
    -- Who waits for the lock, or has it, gives up a place there; who sends, one in the channel.
    have hgives : p.stage.inLock = 1 → p.stage.inRoom = 0 →
        Queued ((e.release (.call id)).setCall id .abandoned) := by
      intro hone hzero
      obtain ⟨hlock', hroom'⟩ := hself ((e.release (.call id)).setCall id .abandoned) rfl
      refine h.of_apart
        (apart_call rfl rfl (fun q hq => count_release_of_ne e hq) fun q _ => rfl) ?_ ?_
      · show (e.release _).lock.count _ = _
        rw [count_release, if_pos rfl, h.lock, hlock, hone, hlock']
      · rw [hroom']
        exact (h.room _).trans (hroom.trans hzero)
    split at ha
    · rename_i hstage
      cases ha
      exact hgives (by rw [hstage]; rfl) (by rw [hstage]; rfl)
    · rename_i hstage
      cases ha
      exact hgives (by rw [hstage]; rfl) (by rw [hstage]; rfl)
    · rename_i hstage
      cases ha
      rw [hstage] at hlock hroom
      obtain ⟨hlock', hroom'⟩ := hself
        { e.setCall id .abandoned with channel := e.channel.quit (.call id) } rfl
      refine h.of_apart (apart_call rfl rfl (fun q _ => rfl) fun q hq => ?_) ?_ ?_
      · show (e.channel.quit _).waiting.count q = _
        rw [Channel.count_quit, if_neg (Ne.symm hq), Nat.sub_zero]
      · rw [hlock']
        exact (h.lock _).trans hlock
      · rw [hroom']
        show (e.channel.quit _).waiting.count _ = _
        rw [Channel.count_quit, if_pos rfl, h.room, hroom]
        rfl
    · cases ha
    · cases ha

/-! ### A listener moves -/

/-- A listener that relays leaves the queues in order, as long as the channel has its places
    right. -/
theorem relayed {w : WorkerId} {s : ListenerStage} {ch : Channel} (h : Queued e)
    (ha : Apart (.listener l) e e') (hl : e'.listeners[l]?.isSome)
    (hlock : e'.lock.count (.listener l) = s.inLock)
    (hself : ch.waiting.count (.listener l) = s.inRoom)
    (hothers : ∀ q, q ≠ .listener l → ch.waiting.count q = e.channel.waiting.count q) :
    Queued (e'.relayed l w s ch) := by
  obtain ⟨hlock', hroom'⟩ := places_relayed e' w s ch hl
  have hapart : Apart (.listener l) e' (e'.relayed l w s ch) :=
    apart_listener rfl rfl (fun q _ => rfl) fun q hq => (hothers q hq).trans (ha.room q hq).symm
  refine h.of_apart (ha.trans hapart) ?_ ?_
  · rw [hlock']
    exact hlock
  · rw [hroom']
    exact hself

/-- A listener that announces gives up the lock and stands where the channel puts it. -/
theorem announce (h : Queued e) (ha : Apart (.listener l) e e') (hl : e'.listeners[l]?.isSome)
    (hlock : e'.lock.count (.listener l) = 1)
    (hroom : e'.channel.waiting.count (.listener l) = 0) (c : Config) (w : WorkerId) :
    Queued (e'.announce c l w).1 := by
  obtain ⟨s, ch, events, hrelays, heq⟩ := announce_eq c e' l w
  have hjoined : (e'.channel.join (.listener l)).waiting.count (.listener l) = 1 := by
    rw [Channel.count_join, if_pos rfl, hroom]
  -- The listener exchanges its place for the lock for one in the channel.
  obtain ⟨hself, hothers⟩ := hrelays.count hjoined
  have hothers' : ∀ q, q ≠ .listener l → ch.waiting.count q = e'.channel.waiting.count q := by
    intro q hq
    rw [hothers q hq, Channel.count_join, if_neg (Ne.symm hq), Nat.add_zero]
  have hgathered : Apart (.listener l) e' (e'.gathered c (.listener l)) := by
    refine ⟨fun q hq => count_release_of_ne e' hq, fun q hq => ?_, fun q _ => ?_, fun q _ => ?_⟩
    · show (e'.channel.join _).waiting.count q = _
      rw [Channel.count_join, if_neg (Ne.symm hq), Nat.add_zero]
    · cases q <;> rfl
    · cases q <;> rfl
  rw [heq]
  refine h.relayed (ha.trans hgathered) hl ?_ hself fun q hq => ?_
  · rw [hrelays.inLock]
    show (e'.release _).lock.count _ = 0
    rw [count_release, if_pos rfl, hlock]
  · rw [hothers' q hq, ha.room q hq]

/-- A listener's step leaves the queues in order. -/
theorem resumeListener? {t : Turn} (h : Queued e) (hr : e.resumeListener? c l = some t) :
    Queued t.1 := by
  have hsome : ∀ {li : Listener}, e.listeners[l]? = some li → e.listeners[l]?.isSome := by
    intro li hli
    rw [hli]
    rfl
  -- Before the step the listener stands where it is due.
  have hlock : ∀ {w : WorkerId} {s : ListenerStage}, e.listeners[l]? = some ⟨w, s⟩ →
      e.lock.count (.listener l) = s.inLock := by
    intro w s hli
    rw [h.lock, Engine.inLock, listenerStage?, hli]
    rfl
  have hroom : ∀ {w : WorkerId} {s : ListenerStage}, e.listeners[l]? = some ⟨w, s⟩ →
      e.channel.waiting.count (.listener l) = s.inRoom := by
    intro w s hli
    rw [h.room, Engine.inRoom, listenerStage?, hli]
    rfl
  have hfetched : ∀ w, Apart (.listener l) e (e.fetched l w) := by
    intro w
    refine ⟨fun q hq => ?_, fun q _ => rfl, fun q _ => ?_, fun q _ => ?_⟩
    · show (e.lock ++ [_]).count q = _
      rw [List.count_append, List.count_singleton, if_neg (by simpa using Ne.symm hq), Nat.add_zero]
    · cases q <;> rfl
    · cases q <;> rfl
  have hasked : ∀ {w : WorkerId}, e.listeners[l]? = some ⟨w, .receiving⟩ →
      (e.fetched l w).lock.count (.listener l) = 1 := by
    intro w hli
    show (e.lock ++ [_]).count _ = 1
    rw [List.count_append, hlock hli, List.count_singleton_self]
    rfl
  cases listenerStep_of_resumeListener? hr with
  | ends hli =>
    have hunlocked := hlock hli
    have hgone := hroom hli
    exact h.relayed (w := 0) (s := .ended) (.refl e) (hsome hli) hunlocked hgone fun _ _ => rfl
  | @queues w hli =>
    have haside := hroom hli
    exact h.relayed (w := 0) (s := .locking) (hfetched w) (hsome hli) (hasked hli) haside
      fun _ _ => rfl
  | @takes w hli => exact h.announce (hfetched w) (hsome hli) (hasked hli) (hroom hli) c w
  | @announces w hli => exact h.announce (.refl e) (hsome hli) (hlock hli) (hroom hli) c w
  | @delivers w hli hready =>
    obtain ⟨s, ch, events, hrelays, -, heq⟩ := deliver_eq e l w hready
    obtain ⟨hself, hothers⟩ := hrelays.count (hroom hli)
    rw [heq]
    refine h.relayed (.refl e) (hsome hli) ?_ hself hothers
    rw [hrelays.inLock]
    exact hlock hli
  | @settles w hli =>
    have hunlocked := hlock hli
    rw [settle_eq]
    refine h.relayed (.refl e) (hsome hli) hunlocked ?_ fun q hq => ?_
    · rw [Channel.count_quit, if_pos rfl, hroom hli]
      rfl
    · rw [Channel.count_quit, if_neg (Ne.symm hq), Nat.sub_zero]

/-! ### From step to step -/

/-- Every step leaves the queues in order. -/
theorem step {a : Action} {events : List Event} (h : Queued e)
    (hs : e.step? c a = some (e', events)) : Queued e' := by
  cases a with
  -- These do not touch the queues.
  | alter | elapse | cancel | hangUp =>
    cases hs
    exact h.congr rfl rfl rfl rfl
  | invoke call =>
    cases hs
    exact h.invoke call
  | abandon i =>
    obtain ⟨e₁, he₁, heq⟩ := Option.map_eq_some_iff.1 hs
    cases heq
    exact h.abandonCall? he₁
  | resume p =>
    cases p with
    | call i => exact h.resumeCall? hs
    | listener i => exact h.resumeListener? hs
  | work i wa =>
    obtain ⟨⟨crew, evs⟩, -, heq⟩ := Option.map_eq_some_iff.1 hs
    cases heq
    exact h.congr rfl rfl rfl rfl
  | receive =>
    obtain ⟨ch, hch, heq⟩ := Option.map_eq_some_iff.1 hs
    cases heq
    exact h.congr rfl (Channel.waiting_take? hch) rfl rfl

end Queued

/-- **Whoever waits stands in one queue, and once.** -/
theorem queued_of_reachable (hr : Reachable c e) : Queued e := by
  refine hr.invariant (fun world capacity => ?_) fun _ _ _ _ h hs => h.step hs
  constructor <;> intro p <;> cases p <;> rfl

end Engine

end TokenCatalog
