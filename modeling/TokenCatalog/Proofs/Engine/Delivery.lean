import TokenCatalog.Proofs.Engine.Call

namespace TokenCatalog

/-!
# Deliveries — how notifications get into the channel

Who has published waits for room and sends a notification.  A call returns then; a listener waits
for room for one more, and acknowledges.  How far each gets in one step is a matter of the channel
alone.

* `Channel.Relays`, `Channel.Sends` — where a listener and a call come to wait, with the channel they
  leave and what others see;
* `Engine.announce_eq`, `Engine.deliver_eq` — what a listener does, in these terms;
* `Engine.publishPrivately_sends`, `Engine.enqueue_sends` — what a call does;
* `Engine.ListenerStep` — everything a step of a listener can be.
-/

/-! ### The channel -/

namespace Channel

variable {ch ch' : Channel} {p q : Process} {s : ListenerStage} {events : List Event}

/-- What comes of a listener in the queue for room that has published. -/
inductive Relays (ch : Channel) (p : Process) : ListenerStage → Channel → List Event → Prop
  /-- It waits for room for its notification. -/
  | waits (full : ch.isReady p = false) : Relays ch p .sending ch []
  /-- Nobody is there to be notified, and the result is acknowledged. -/
  | unheard (closed : ch.isOpen = false) : Relays ch p .receiving (ch.quit p) []
  /-- It has notified, and waits for room for one more. -/
  | parks (isOpen : ch.isOpen = true) (ready : ch.isReady p = true)
      (full : ((ch.put p).join p).isReady p = false) :
      Relays ch p .reserving ((ch.put p).join p) [.notified]
  /-- It has notified, there is room for one more, and the result is acknowledged. -/
  | settles (isOpen : ch.isOpen = true) (ready : ch.isReady p = true)
      (room : ((ch.put p).join p).isReady p = true) :
      Relays ch p .receiving (((ch.put p).join p).quit p) [.notified]

/-- What comes of a call in the queue for room that has published. -/
inductive Sends (ch : Channel) (p : Process) : CallStage → Channel → List Event → Prop
  /-- It waits for room. -/
  | waits (full : ch.isReady p = false) : Sends ch p .sending ch []
  /-- Nobody is there to be notified. -/
  | unheard (closed : ch.isOpen = false) : Sends ch p (.returned (.ok ())) (ch.quit p) []
  | notifies (isOpen : ch.isOpen = true) (ready : ch.isReady p = true) :
      Sends ch p (.returned (.ok ())) (ch.put p) [.notified]

/-- While there is room, whoever waits longest may go on. -/
theorem isReady_head {rest : List Process} (hwaiting : ch.waiting = p :: rest)
    (hroom : ch.unread < ch.capacity) : ch.isReady p = true := by
  have hpos : ch.room = ch.room - 1 + 1 := by
    rw [room]
    omega
  rw [isReady, hwaiting, hpos, List.take_succ_cons, Bool.or_eq_true]
  exact .inr (List.contains_iff_mem.2 List.mem_cons_self)

/-- The consumer takes no place away. -/
theorem waiting_take? (h : ch.take? = some ch') : ch'.waiting = ch.waiting := by
  unfold take? at h
  split at h
  · cases h
    rfl
  · cases h

/-- Nobody has room in a channel that has none, unless the consumer has hung up. -/
theorem room_pos_of_isReady (hopen : ch.isOpen = true) (h : ch.isReady p = true) :
    ch.unread < ch.capacity := by
  rw [isReady, hopen, Bool.not_true, Bool.false_or, List.contains_iff_mem] at h
  have hroom : ch.room ≠ 0 := by
    intro hroom
    rw [hroom, List.take_zero] at h
    cases h
  rw [room] at hroom
  omega

end Channel

namespace Engine

variable {c : Config} {e : Engine}

/-- An engine after somebody who has the lock has published, given it up, and joined the queue for
    room. -/
def gathered (c : Config) (e : Engine) (p : Process) : Engine :=
  { (e.publish c).release p with channel := e.channel.join p }

/-! ### Calls -/

/-- A call that has got room sends. -/
theorem enqueue_sends (e : Engine) (id : CallId) (ready : e.channel.isReady (.call id) = true) :
    ∃ ch, e.channel.Sends (.call id) (.returned (.ok ())) ch (e.enqueue (.call id)).2 ∧
      (e.enqueue (.call id)).1 = { e with channel := ch } := by
  cases hopen : e.channel.isOpen with
  | false => exact ⟨_, by simpa [enqueue, hopen] using .unheard hopen, by simp [enqueue, hopen]⟩
  | true =>
    exact ⟨_, by simpa [enqueue, hopen] using .notifies hopen ready, by simp [enqueue, hopen]⟩

/-- A call that publishes gives up the lock, and notifies if there is room. -/
theorem publishPrivately_sends (c : Config) (e : Engine) (id : CallId) :
    ∃ s ch events, (e.channel.join (.call id)).Sends (.call id) s ch events ∧
      e.publishPrivately c id =
        ({ (e.gathered c (.call id)).setCall id s with channel := ch }, .published :: events) := by
  cases hready : (e.channel.join (.call id)).isReady (.call id) with
  | false =>
    have hfull : ¬ (e.gathered c (.call id)).channel.isReady (.call id) = true :=
      Bool.not_eq_true _ ▸ hready
    exact ⟨_, _, _, .waits hready, if_neg hfull⟩
  | true =>
    have hpublish : e.publishPrivately c id =
        (((e.gathered c (.call id)).enqueue (.call id)).1.setCall id (.returned (.ok ())),
          .published :: ((e.gathered c (.call id)).enqueue (.call id)).2) := if_pos hready
    obtain ⟨ch, hsends, henqueue⟩ := enqueue_sends (e.gathered c (.call id)) id hready
    rw [hpublish, henqueue]
    exact ⟨_, ch, _, hsends, rfl⟩

/-! ### Listeners -/

variable {id : ListenerId} {w : WorkerId}

/-- An engine after a listener has come to wait somewhere; where it waits for the next result, it
    has acknowledged the last one. -/
def relayed (e : Engine) (id : ListenerId) (w : WorkerId) (s : ListenerStage) (ch : Channel) :
    Engine :=
  { e.setListener id s with
    channel := ch, crew := if s = .receiving then e.crew.acknowledge w else e.crew }

@[simp] theorem settle_eq (e : Engine) (id : ListenerId) (w : WorkerId) :
    e.settle id w = e.relayed id w .receiving (e.channel.quit (.listener id)) := rfl

theorem reserve_eq (e : Engine) (id : ListenerId) (w : WorkerId) :
    e.reserve id w =
      if (e.channel.join (.listener id)).isReady (.listener id) then
        e.relayed id w .receiving ((e.channel.join (.listener id)).quit (.listener id))
      else e.relayed id w .reserving (e.channel.join (.listener id)) := rfl

/-- A listener that has room sends. -/
theorem deliver_eq (e : Engine) (id : ListenerId) (w : WorkerId)
    (ready : e.channel.isReady (.listener id) = true) :
    ∃ s ch events, e.channel.Relays (.listener id) s ch events ∧ s ≠ .sending ∧
      e.deliver id w = (e.relayed id w s ch, events) := by
  -- With nobody listening any more, the listener goes back to wait for results.
  cases hopen : e.channel.isOpen with
  | false =>
    refine ⟨_, _, _, .unheard hopen, nofun, ?_⟩
    rw [deliver, if_neg (by simp [hopen]), settle_eq]
  | true =>
    have hdeliver : e.deliver id w =
        ({ e with channel := e.channel.put (.listener id) }.reserve id w, [.notified]) := by
      simp only [deliver, enqueue, hopen, if_true]
    rw [hdeliver, reserve_eq]
    cases hroom : ((e.channel.put (.listener id)).join (.listener id)).isReady (.listener id) with
    | true =>
      exact ⟨_, _, _, .settles hopen ready hroom, nofun, rfl⟩
    | false =>
      exact ⟨_, _, _, .parks hopen ready hroom, nofun, rfl⟩

/-- A listener that has the lock publishes, gives it up, and notifies if there is room. -/
theorem announce_eq (c : Config) (e : Engine) (id : ListenerId) (w : WorkerId) :
    ∃ s ch events, (e.channel.join (.listener id)).Relays (.listener id) s ch events ∧
      e.announce c id w = ((e.gathered c (.listener id)).relayed id w s ch, .published :: events) := by
  cases hready : (e.channel.join (.listener id)).isReady (.listener id) with
  | true =>
    obtain ⟨s, ch, events, hrelays, -, hdeliver⟩ := deliver_eq (e.gathered c (.listener id)) id w hready
    refine ⟨s, ch, events, hrelays, ?_⟩
    have hannounce : e.announce c id w =
        (((e.gathered c (.listener id)).deliver id w).1,
          .published :: ((e.gathered c (.listener id)).deliver id w).2) :=
      if_pos hready
    rw [hannounce, hdeliver]
  | false =>
    have hfull : ¬ (e.gathered c (.listener id)).channel.isReady (.listener id) = true :=
      Bool.not_eq_true _ ▸ hready
    exact ⟨_, _, _, .waits hready, if_neg hfull⟩

/-- An engine after a listener has taken the result of its worker and asked for the lock. -/
def fetched (e : Engine) (id : ListenerId) (w : WorkerId) : Engine :=
  { e with crew := e.crew.take w, lock := e.lock ++ [Process.listener id] }

/-- Everything a step of a listener can be. -/
inductive ListenerStep (c : Config) (e : Engine) (id : ListenerId) : Turn → Prop
  /-- Its worker has left, and no result is on its way. -/
  | ends {w : WorkerId} (listener : e.listeners[id]? = some ⟨w, .receiving⟩)
      (none : e.crew.offers w = false) (gone : e.crew.isLive w = false) :
      ListenerStep c e id (e.setListener id .ended, [])
  /-- It takes a result, and waits for the lock. -/
  | queues {w : WorkerId} (listener : e.listeners[id]? = some ⟨w, .receiving⟩)
      (offers : e.crew.offers w = true) (busy : (e.fetched id w).holds (.listener id) = false) :
      ListenerStep c e id ((e.fetched id w).setListener id .locking, [])
  /-- It takes a result, finds the lock free, and publishes. -/
  | takes {w : WorkerId} (listener : e.listeners[id]? = some ⟨w, .receiving⟩)
      (offers : e.crew.offers w = true) (free : (e.fetched id w).holds (.listener id) = true) :
      ListenerStep c e id ((e.fetched id w).announce c id w)
  /-- It has got the lock, and publishes. -/
  | announces {w : WorkerId} (listener : e.listeners[id]? = some ⟨w, .locking⟩)
      (holds : e.holds (.listener id) = true) : ListenerStep c e id (e.announce c id w)
  /-- It has got room, and sends. -/
  | delivers {w : WorkerId} (listener : e.listeners[id]? = some ⟨w, .sending⟩)
      (ready : e.channel.isReady (.listener id) = true) : ListenerStep c e id (e.deliver id w)
  /-- It has got room for one more, and acknowledges. -/
  | settles {w : WorkerId} (listener : e.listeners[id]? = some ⟨w, .reserving⟩)
      (ready : e.channel.isReady (.listener id) = true) : ListenerStep c e id (e.settle id w, [])

/-- A listener's step is one of the steps a listener can take. -/
theorem listenerStep_of_resumeListener? {t : Turn} (h : e.resumeListener? c id = some t) :
    ListenerStep c e id t := by
  unfold resumeListener? at h
  split at h
  · cases h
  · rename_i l hl
    obtain ⟨w, stage⟩ := l
    -- What a listener does depends on where it waits; it stays there until that is granted.
    cases stage with
    | receiving =>
      dsimp only at h
      split at h
      · rename_i hoffers
        cases h
        have haccept : e.accept c id w =
            if (e.fetched id w).holds (.listener id) then (e.fetched id w).announce c id w
            else ((e.fetched id w).setListener id .locking, []) := rfl
        rw [haccept]
        split
        · exact .takes hl hoffers ‹_›
        · exact .queues hl hoffers (Bool.eq_false_iff.2 ‹_›)
      · rename_i hoffers
        split at h <;> cases h
        exact .ends hl (Bool.eq_false_iff.2 hoffers) (Bool.eq_false_iff.2 ‹_›)
    | locking =>
      dsimp only at h
      split at h <;> cases h
      exact .announces hl ‹_›
    | sending =>
      dsimp only at h
      split at h <;> cases h
      exact .delivers hl ‹_›
    | reserving =>
      dsimp only at h
      split at h <;> cases h
      exact .settles hl ‹_›
    | ended => cases h

end Engine

end TokenCatalog
