import TokenCatalog.Proofs.Engine.Undisturbed

namespace TokenCatalog.Engine

/-!
# Forced refreshes — from a call to the snapshot

A call to refresh that nobody disturbs comes to a published snapshot: the worker that was live
leaves, a new one refreshes once, and its listener publishes what that has left.

* `Attains` — the result can be published without any help from the application or the network;
  `Waits.attains`, `Joins.attains`, `Underway.attains` say that this is so all the way;
* `ForcedRefresh`, `forced_refresh` — all that can be said of such a call, in every state in which
  it can be made.
-/

variable {c : Config} {e e' : Engine} {a : Action} {events log : List Event}
  {done : List Worker.Act} {id : CallId}
  {token : TokenId} {w old : WorkerId} {w₀ : World} {v : Worker} {l : ListenerStage}
  {ts : List Transition}

/-! ### That the result can be published -/

/-- Nobody disturbs a call, and the listener of a worker does not run. -/
def Unheard (c : Config) (id : CallId) (token : TokenId) (w : WorkerId) (e : Engine) (a : Action) :
    Prop :=
  Undisturbed c id token e a ∧ ∀ i, a = .resume (.listener i) → i ≠ w

/-- The result of a worker can be published, if nobody disturbs the call meanwhile. -/
def Attains (c : Config) (id : CallId) (token : TokenId) (w : WorkerId) (e : Engine) : Prop :=
  ∃ us e₁ e₂ events, Path c (Unheard c id token w) e us e₁ ∧
    e₁.step? c (.resume (.listener w)) = some (e₂, events) ∧ .published ∈ events

/-- What can be published after a step can be published before it. -/
theorem Attains.cons (ok : Unheard c id token w e a) (hs : e.step? c a = some (e', events))
    (h : Attains c id token w e') : Attains c id token w e := by
  obtain ⟨us, e₁, e₂, evs, hpath, hstep, hpublished⟩ := h
  exact ⟨_, e₁, e₂, evs, hpath.cons ok hs, hstep, hpublished⟩

/-- What can be published after a path can be published before it. -/
theorem Attains.of_path (hp : Path c (Unheard c id token w) e ts e')
    (h : Attains c id token w e') : Attains c id token w e := by
  induction hp with
  | nil => exact h
  | snoc _ ok hs ih => exact ih (h.cons ok hs)

/-- No other call has the lock or waits for it. -/
def Alone (id : CallId) (e : Engine) : Prop := ∀ j, j ≠ id → e.inLock (.call j) = 0

/-- Whether a call is alone depends on the calls. -/
theorem Alone.of_calls (h : Alone id e) (hcalls : e'.calls = e.calls) : Alone id e' :=
  fun j hj => (places_of_calls hcalls j).1.trans (h j hj)

/-- Moving the call itself leaves it alone. -/
theorem Alone.of_modify {s : CallStage} (h : Alone id e)
    (hcalls : e'.calls = e.calls.modify id ({ · with stage := s })) : Alone id e' := by
  intro j hj
  have hplace := h j hj
  rw [inLock] at hplace ⊢
  rw [stage?_modify hcalls, if_neg (Ne.symm hj)]
  exact hplace

/-- Of those who wait for the lock, a call is the one, and a listener waits for nothing else. -/
theorem Alone.mem_lock (h : Alone id e) (hq : Queued e) {p : Process} (hp : p ∈ e.lock) :
    p = .call id ∨ ∃ i li, p = .listener i ∧ e.listeners[i]? = some li ∧ li.stage = .locking := by
  -- A place in the queue for the lock is due only to one who waits for it.
  have hplace : 0 < e.inLock p := by
    rw [← hq.lock]
    exact List.count_pos_iff.2 hp
  cases p with
  | call j =>
    by_cases hj : j = id
    · exact .inl (by rw [hj])
    · rw [h j hj] at hplace
      exact absurd hplace (Nat.lt_irrefl 0)
  | listener i =>
    rw [inLock, listenerStage?] at hplace
    cases hli : e.listeners[i]? with
    | none =>
      rw [hli] at hplace
      exact absurd hplace (Nat.lt_irrefl 0)
    | some li =>
      refine .inr ⟨i, li, rfl, hli, ?_⟩
      rw [hli] at hplace
      cases hstage : li.stage with
      | locking => rfl
      | receiving | sending | reserving | ended =>
        rw [Option.map_some, hstage] at hplace
        exact absurd hplace (Nat.lt_irrefl 0)

/-- Whether the guard is off, and what the clock and the tokens say, is the same in two crews. -/
theorem Spares.congr {b : Action} (h : Spares c token e a)
    (hoff : e'.crew.world.isOffline = e.crew.world.isOffline)
    (hclock : e'.crew.clock = e.crew.clock) (hcancelled : e'.crew.cancelled = e.crew.cancelled) :
    Spares c token e' b :=
  ⟨hoff.trans h.1, hcancelled ▸ h.2.1, hclock ▸ h.2.2⟩

/-- What is spared depends on the crew's bare part. -/
theorem Spares.of_bare {b : Action} (h : Spares c token e a)
    (hcrew : e'.crew.bare = e.crew.bare) : Spares c token e' b :=
  h.congr (by rw [Crew.world_of_bare hcrew]) (Crew.clock_of_bare hcrew)
    (Crew.cancelled_of_bare hcrew)

/-- A listener that has the lock publishes, and gives it up. -/
theorem exists_announced {i : ListenerId} {li : Listener} (hli : e.listeners[i]? = some li)
    (hstage : li.stage = .locking) (hheld : e.holds (.listener i) = true) :
    ∃ e' events, e.step? c (.resume (.listener i)) = some (e', events) ∧ .published ∈ events ∧
      e'.lock = e.lock.erase (.listener i) := by
  obtain ⟨s, ch, news, -, heq⟩ := announce_eq c e i li.worker
  have hstep : e.step? c (.resume (.listener i)) = some (e.announce c i li.worker) := by
    show e.resumeListener? c i = _
    simp only [resumeListener?, hli, hstage, hheld, if_true]
  rw [heq] at hstep
  exact ⟨_, _, hstep, List.mem_cons_self, rfl⟩

namespace Underway

/-- A result that is there can be published at once: nobody else waits for the lock. -/
theorem exists_published (h : Underway c id token w w₀ done log e v l) (hr : Reachable c e)
    (halone : Alone id e) (hawaits : v.stage = .awaiting) :
    ∃ e' events, e.step? c (.resume (.listener w)) = some (e', events) ∧ .published ∈ events := by
  have hq := queued_of_reachable hr
  have hp := paired_of_reachable hr
  -- The call has returned, and no other listener waits for anything.
  have hlock : ∀ p ∈ e.lock, p = .listener w ∧ l = .locking := by
    intro p hmem
    rcases halone.mem_lock hq hmem with rfl | ⟨i, li, rfl, hli, hstage⟩
    · have hplace := hq.lock (.call id)
      rw [(places_of_pending h.returned).1] at hplace
      exact absurd hmem (List.count_eq_zero.1 hplace)
    · obtain rfl := h.listens hp hli (by rw [hstage]; nofun)
      rw [h.listener] at hli
      cases hli
      exact ⟨rfl, hstage⟩
  rcases h.pends.waits with rfl | rfl
  · have hnone : e.lock = [] :=
      List.eq_nil_iff_forall_not_mem.2 fun p hmem => nomatch (hlock p hmem).2
    have hoffers : e.crew.offers w = true := by
      rw [Crew.offers, h.worker, Option.any_some]
      exact decide_eq_true (h.pends.offered_of_receiving hawaits)
    obtain ⟨s, ch, news, -, heq⟩ := announce_eq c (e.fetched w w) w w
    have hstep : e.step? c (.resume (.listener w)) = some ((e.fetched w w).announce c w w) := by
      have hheld : (e.fetched w w).holds (.listener w) = true := by
        rw [holds, fetched, hnone]
        exact decide_eq_true rfl
      have haccept : e.accept c w w = (e.fetched w w).announce c w w := if_pos hheld
      show e.resumeListener? c w = _
      simp only [resumeListener?, h.listener, hoffers, if_true, haccept]
    rw [heq] at hstep
    exact ⟨_, _, hstep, List.mem_cons_self⟩
  · have hheld : e.holds (.listener w) = true := by
      have hone : e.lock.count (.listener w) = 1 := by
        rw [hq.lock, inLock, listenerStage?, h.listener]
        rfl
      cases hlk : e.lock with
      | nil =>
        rw [hlk] at hone
        cases hone
      | cons p rest =>
        rw [holds, hlk, (hlock p (by rw [hlk]; exact List.mem_cons_self)).1]
        exact decide_eq_true rfl
    obtain ⟨e', events, hstep, hpublished, -⟩ := exists_announced (c := c) h.listener rfl hheld
    exact ⟨e', events, hstep, hpublished⟩

end Underway

/-- Calls leave the guard, the clock and the tokens alone. -/
theorem callInvariant_spares (c : Config) (token : TokenId) (a : Action) :
    CallInvariant (Spares c token · a) := by
  refine callInvariant_crew (P := fun k => k.world.isOffline = false ∧
    k.cancelled.contains token = false ∧
      k.clock + c.checkInterval.nanoseconds < Worker.instantLimit)
    (fun _ _ h => h) (fun _ _ _ h => h) fun k k' hbare h => ?_
  rw [Crew.world_of_bare hbare, Crew.clock_of_bare hbare, Crew.cancelled_of_bare hbare]
  exact h

/-! ### On the way to it -/

/-- Nothing is in the way of a call: the guard is off, its token is not cancelled, the clock can
    hold the next tick, and no other call has the lock or waits for it. -/
structure Unhindered (c : Config) (id : CallId) (token : TokenId) (e : Engine) : Prop where
  reachable : Reachable c e
  succession : Succession e
  spares : ∀ a, Spares c token e a
  alone : Alone id e

namespace Unhindered

/-- A worker's step disturbs nobody while nothing is in the way. -/
theorem unheard_work (h : Unhindered c id token e) (i : WorkerId) (wa : Worker.Action) :
    Unheard c id token w e (.work i wa) :=
  ⟨⟨h.spares _, trivial, trivial⟩, nofun⟩

/-- The call's own step disturbs nobody while nothing is in the way. -/
theorem unheard_call (h : Unhindered c id token e) : Unheard c id token w e (.resume (.call id)) :=
  ⟨⟨h.spares _, trivial, .inl rfl⟩, nofun⟩

/-- The step of another listener disturbs nobody while nothing is in the way. -/
theorem unheard_listener (h : Unhindered c id token e) {i : ListenerId} (hi : i ≠ w) :
    Unheard c id token w e (.resume (.listener i)) := by
  refine ⟨⟨h.spares _, trivial, trivial⟩, fun j hj => ?_⟩
  cases hj
  exact hi

/-- What lies between two states with the same calls is not in the way. -/
theorem step (h : Unhindered c id token e) (hs : e.step? c a = some (e', events))
    (hpatient : Patient e a) (hspares : ∀ b, Spares c token e' b)
    (halone : Alone id e') : Unhindered c id token e' :=
  ⟨h.reachable.step hs, h.succession.step (custody_of_reachable h.reachable) hpatient hs, hspares,
    halone⟩

/-- The call's own step puts nothing in the way. -/
theorem call (h : Unhindered c id token e)
    (hs : e.step? c (.resume (.call id)) = some (e', events)) : Unhindered c id token e' := by
  have hresume : e.resumeCall? c id = some (e', events) := hs
  obtain ⟨s, hcalls⟩ := calls_resumeCall? hresume
  have hspares : ∀ b, Spares c token e' b := fun b =>
    (callInvariant_spares c token b).resumeCall? (h.spares b)
      (fun call => (h.spares b).of_bare (by rw [crew_note])) hresume
  exact h.step hs trivial hspares (h.alone.of_modify hcalls)

/-- A listener's step puts nothing in the way. -/
theorem listener (h : Unhindered c id token e) {i : ListenerId}
    (hs : e.step? c (.resume (.listener i)) = some (e', events)) : Unhindered c id token e' := by
  have hkeeps := Keeps.resumeListener? (show e.resumeListener? c i = _ from hs)
  exact h.step hs trivial (fun b => (h.spares b).of_bare hkeeps.crew)
    (h.alone.of_calls hkeeps.calls)

end Unhindered

/-- **A refresh that has begun comes to a published result.** -/
theorem Underway.attains (h : Underway c id token w w₀ done log e v l)
    (hfree : Unhindered c id token e) : Attains c id token w e := by
  -- By induction on how far the refresh is from its end.
  generalize hn : v.stage.ahead = n
  induction n using Worker.wellFounded_nearer.induction generalizing e v l done log with
  | h n ih =>
    by_cases hawaits : v.stage = .awaiting
    · obtain ⟨e', events, hstep, hpublished⟩ :=
        h.exists_published hfree.reachable hfree.alone hawaits
      exact ⟨[], e, e', events, .nil, hstep, hpublished⟩
    · obtain ⟨hoff, hheld, hclock⟩ := hfree.spares .receive
      have hcancelled : e.crew.isCancelled v = false := by
        rw [Crew.isCancelled, h.stopped, h.parent, hheld]
        rfl
      obtain ⟨wa, t, ht, hnearer⟩ := Worker.exists_advance
        (s := ⟨c, e.crew.world, e.crew.clock, false, w⟩) h.cycle hawaits rfl hoff hclock
      have hs := step?_work (c := c) h.worker (hcancelled.symm ▸ ht)
      obtain ⟨-, t', ht', -, h'⟩ := h.work hfree.succession (hfree.spares .receive) hs
      obtain rfl : t = t' := Option.some.inj (ht.symm.trans ht')
      have hworld := (Worker.lawful_of_act? ht).world
      have hfree' := hfree.step hs trivial
        (fun b => (hfree.spares b).congr hworld.isOffline_eq rfl rfl) (hfree.alone.of_calls rfl)
      exact (ih _ (hn ▸ hnearer) h' hfree' rfl).cons (hfree.unheard_work w wa) hs

/-- Once a worker has left, the call that waits for that comes to a published result. -/
theorem Joins.attains_of_left (h : Joins id token w old e) (hfree : Unhindered c id token e)
    (hleft : e.crew.isLive old = false) : Attains c id token w e := by
  have hs : e.step? c (.resume (.call id)) = some (e.afterLeave c id .restart) := by
    show e.resumeCall? c id = _
    simp only [resumeCall?, h.call, hleft, Bool.false_eq_true, if_false]
  obtain ⟨v, l, hunderway⟩ := h.run (custody_of_reachable hfree.reachable)
    (paired_of_reachable hfree.reachable) hs
  exact (hunderway.attains (hfree.call hs)).cons hfree.unheard_call hs

/-- **A call that waits for a worker to leave comes to a published result**: the worker has been
    told to stop, and can leave by itself. -/
theorem Joins.attains (h : Joins id token w old e) (hfree : Unhindered c id token e) :
    Attains c id token w e := by
  cases hlive : e.crew.isLive old with
  | false => exact h.attains_of_left hfree hlive
  | true =>
    -- The old worker has been told to stop, so it leaves by itself.
    obtain ⟨u, hu, hulive⟩ := Crew.isLive_iff.1 hlive
    have hstopped := stopped_of_joining (custody_of_reachable hfree.reachable) h.stage? hu hulive
    have hspares : ∀ k : Crew, e.crew.GoesOn old k → ∀ b, Spares c token { e with crew := k } b :=
      fun k hk b => (hfree.spares b).congr hk.world.isOffline_eq hk.clock hk.cancelled
    have hdeparts : ∃ us k, Path c (fun d b => Unheard c id token w d b ∧ Working old d b) e us
        { e with crew := k } ∧ k.isLive old = false ∧ e.crew.GoesOn old k :=
      exists_departure hfree.reachable hu hstopped fun k wa hk =>
        ⟨⟨⟨hspares k hk _, trivial, trivial⟩, nofun⟩, wa, rfl⟩
    obtain ⟨us, k, hpath, hleft, hgoes⟩ := hdeparts
    have hjoins : Joins id token w old { e with crew := k } := by
      refine hpath.invariant h fun d b d' evs hj ok hs => hj.aside (aside_of_step ok.1.1.2.2 ?_ hs)
      obtain ⟨-, wa, rfl⟩ := ok
      nofun
    have hpatient : Path c Patient e us { e with crew := k } :=
      hpath.weaken fun t ht => (hpath.step_of_mem ht).1.1.1.2.1
    have hfree' : Unhindered c id token { e with crew := k } :=
      ⟨hfree.reachable.path hpath, hfree.succession.path hfree.reachable hpatient,
        hspares k hgoes, hfree.alone.of_calls rfl⟩
    exact (hjoins.attains_of_left hfree' hleft).of_path
      (hpath.weaken fun t ht => (hpath.step_of_mem ht).1.1)

/-- **A call that waits for its turn comes to a published result**: only listeners are before it in
    the queue for the lock, and each of them publishes what it has and gives way. -/
theorem Waits.attains (h : Waits id token w e) (hfree : Unhindered c id token e) :
    Attains c id token w e := by
  -- By induction on how many wait for the lock: a listener before the call announces and goes.
  generalize hn : e.lock.length = n
  induction n using Nat.strongRecOn generalizing e with
  | ind n ih =>
    have hq := queued_of_reachable hfree.reachable
    have hp := paired_of_reachable hfree.reachable
    have hplace : e.lock.count (.call id) = 1 := by
      rw [hq.lock, inLock, Engine.stage?, h.call]
      rfl
    cases hlock : e.lock with
    | nil =>
      rw [hlock] at hplace
      cases hplace
    | cons p rest =>
      have hfirst : p ∈ e.lock := hlock ▸ List.mem_cons_self
      have hheld : e.holds p = true := by
        rw [holds, hlock]
        exact decide_eq_true rfl
      rcases hfree.alone.mem_lock hq hfirst with rfl | ⟨i, li, rfl, hli, hstage⟩
      · have hs : e.step? c (.resume (.call id)) = some (e.runCall c id (.refreshNow token)) := by
          show e.resumeCall? c id = _
          simp only [resumeCall?, h.call, hheld, if_true]
        refine .cons hfree.unheard_call hs ?_
        rcases h.run hp (hfree.spares .receive).1 hs with ⟨old, hjoins⟩ | ⟨v, l, hunderway⟩
        · exact hjoins.attains (hfree.call hs)
        · exact hunderway.attains (hfree.call hs)
      · obtain ⟨e', events, hs, -, hlock'⟩ := exists_announced (c := c) hli hstage hheld
        -- The worker of the call is not there yet, so this listener is an older one.
        have hother : i ≠ w := by
          rintro rfl
          have hlt := (List.getElem?_eq_some_iff.1 hli).1
          rw [hp.length, h.length] at hlt
          exact Nat.lt_irrefl _ hlt
        have hshorter : e'.lock.length < n := by
          rw [hlock', List.length_erase_of_mem hfirst, ← hn]
          exact Nat.sub_lt (List.length_pos_of_mem hfirst) Nat.one_pos
        have hback : StandsBack id e (.resume (.listener i)) := trivial
        have hwaits : Waits id token w e' :=
          h.aside (aside_of_step hback (fun heq => by cases heq) hs)
        exact (ih _ hshorter hwaits (hfree.listener hs) rfl).cons (hfree.unheard_listener hother) hs

/-- However far the call has come, its result can be published. -/
theorem Course.attains (h : Course c id token w ts e) (hfree : Unhindered c id token e) :
    Attains c id token w e := by
  cases h with
  | waits _ hwaits => exact hwaits.attains hfree
  -- What is known of the call is how far its course has come.
  | joins _ hjoins => exact hjoins.attains hfree
  | underway _ _ hunderway => exact hunderway.attains hfree

/-! ### The whole refresh -/

/-- The listener of a worker that has not come yet does not run. -/
theorem not_step_of_length (hp : Paired e) (hlength : e.crew.workers.length = w) :
    e.step? c (.resume (.listener w)) ≠ some (e', events) := by
  have hnone : e.listeners[w]? = none :=
    List.getElem?_eq_none (Nat.le_of_eq (hp.length.trans hlength))
  show e.resumeListener? c w ≠ _
  simp only [resumeListener?, hnone]
  nofun

/-- What is known of a call to refresh that nobody has disturbed, after the steps `ts` since it was
    made; `w` is the next worker to come. -/
structure ForcedRefresh (c : Config) (id : CallId) (token : TokenId) (w : WorkerId)
    (ts : List Transition) (e : Engine) : Prop where
  /-- No worker has come, or only the worker `w`, once all others had left; and since then nothing
      has been published, and workers have done what is part of one refresh, and nothing else. -/
  course : (∀ t ∈ ts, ∀ i, ¬ t.Hires i) ∨
    ∃ us t vs v, ts = us ++ t :: vs ∧ Hired w us t vs ∧ e.crew.workers[w]? = some v ∧
      Worker.Cycle c w t.after.crew.world (acts vs) (deeds vs) v.stage e.crew.world
  /-- When the listener of the worker publishes, that refresh is complete, the stores hold what it
      has left, and the snapshot is the one built from them. -/
  published : ∀ e' events, e.step? c (.resume (.listener w)) = some (e', events) →
    .published ∈ events →
      (∃ us t vs world, ts = us ++ t :: vs ∧ Hired w us t vs ∧
        Worker.Completed c w t.after.crew.world (acts vs) (deeds vs) world ∧
        world.SameStores e'.crew.world) ∧
      e'.snapshot = e'.localSnapshot c
  /-- This can happen: nothing that anybody else has done stops it, unless the guard is on by now,
      the token is cancelled, the clock at its end, or another call in the queue for the lock. -/
  attainable : (∀ a, Spares c token e a) → (∀ j, .call j ∈ e.lock → j = id) →
    ∃ us e₁ e' events, Path c (Undisturbed c id token) e us e₁ ∧
      (∀ t ∈ us, t.publishes w = false) ∧
      e₁.step? c (.resume (.listener w)) = some (e', events) ∧ .published ∈ events

/-- **A forced refresh, from the call to the snapshot.**  A call to refresh is made in an engine
    that has started, whatever it has done before and whatever time of a last refresh it has noted;
    only that no call has been given up while it waited for a worker to leave.  Then, as long as
    nobody disturbs the call and its result has not been published, at most one worker comes, after
    all others have left; it refreshes once, asks for the manifest and for what that announces and
    for nothing else, and writes what has come; what is published for it is built from the stores
    that it leaves; and it can always come to that. -/
theorem forced_refresh {world : World} {capacity : Nat} {us : List Transition} {e₀ : Engine}
    (before : Path c Patient (initial world capacity) us e₀) (started : e₀.lifecycle = .started)
    (called : e₀.calls[id]? = some ⟨.refreshNow token, .locking⟩)
    (after : Path c (Undisturbed c id token) e₀ ts e)
    (unpublished : ∀ t ∈ ts, t.publishes e₀.crew.workers.length = false) :
    ForcedRefresh c id token e₀.crew.workers.length ts e := by
  have hr : Reachable c e₀ := (reachable_initial c world capacity).path before
  have hsucc : Succession e₀ :=
    (succession_initial world capacity).path (reachable_initial c world capacity) before
  have hwaits : Waits id token e₀.crew.workers.length e₀ := ⟨rfl, started, called⟩
  have hstart : Course c id token e₀.crew.workers.length [] e₀ := .waits (by simp) hwaits
  obtain ⟨hcourse, hr', hsucc'⟩ := course_of_path hr hsucc hstart after unpublished
  have hp := paired_of_reachable hr'
  constructor
  case course =>
    cases hcourse with
    | waits hunhired | joins hunhired => exact .inl hunhired
    | underway hcut hhired hunderway =>
      exact .inr ⟨_, _, _, _, hcut, hhired, hunderway.worker, hunderway.cycle⟩
  case published =>
    intro e' events hs hev
    cases hcourse with
    | waits _ hwaits => exact (not_step_of_length hp hwaits.length hs).elim
    | joins _ hjoins => exact (not_step_of_length hp hjoins.length hs).elim
    | underway hcut hhired hunderway =>
      obtain ⟨⟨left, hcompleted, hstores⟩, hworld, hsnapshot⟩ := hunderway.published hp hs hev
      exact ⟨⟨_, _, _, left, hcut, hhired, hcompleted, hworld ▸ hstores⟩, hsnapshot⟩
  case attainable =>
    intro hspares hlock
    have halone : Alone id e := by
      intro j hj
      rw [← (queued_of_reachable hr').lock, List.count_eq_zero]
      exact fun hmem => hj (hlock j hmem)
    obtain ⟨vs, e₁, e', events, hpath, hs, hev⟩ :=
      hcourse.attains ⟨hr', hsucc', hspares, halone⟩
    have hunheard := fun t ht => (hpath.step_of_mem (t := t) ht).1
    refine ⟨vs, e₁, e', events, hpath.weaken fun t ht => (hunheard t ht).1, fun t ht => ?_, hs, hev⟩
    unfold Transition.publishes
    split
    · rename_i i heq
      simp [(hunheard t ht).2 i heq]
    · rfl

/-! ### A run to look at -/

/-- A worker waits for the manifest when a call to refresh comes. -/
def summoned : List Transition × Engine :=
  follow .remote (initial { now := 10000 } 2)
    [.invoke (.start 0), .resume (.call 0), .work 0 .start, .invoke (.refreshNow 1)]

/-- The call waits for that worker to leave, and starts another one, which refreshes. -/
def replacing : List Transition × Engine :=
  follow .remote summoned.2
    [.resume (.call 1), .work 0 (.manifestAnswered (.error .cancelled) true), .resume (.call 1),
      .work 1 .start,
      .work 1 (.manifestAnswered (.ok ⟨some (announcing "list" "https://a.example"), "m1"⟩) false),
      .work 1 (.poll 0), .work 1 (.taskAnswered 0 (.ok ⟨some (Bytes.ofText "[]"), "l1"⟩)),
      .work 1 (.collect false)]

/-- What is to be seen of the replacing run, checked by running it. -/
theorem replacing_facts : (∀ t ∈ summoned.1, Patient t.before t.action) ∧
    summoned.2.lifecycle = .started ∧ summoned.2.crew.workers.length = 1 ∧
    (∀ t ∈ replacing.1, Undisturbed .remote 1 1 t.before t.action) ∧
    (∀ t ∈ replacing.1, t.publishes 1 = false) ∧
    (replacing.2.step? .remote (.resume (.listener 1))).any (·.2.contains .published) = true := by
  decide +kernel

/-- The replacing run is a forced refresh, with a worker that is hired and completes one refresh. -/
theorem forced_refresh_replacing :
    ForcedRefresh .remote 1 1 1 replacing.1 replacing.2 ∧
      ∃ us t vs world, replacing.1 = us ++ t :: vs ∧ Hired 1 us t vs ∧
        Worker.Completed .remote 1 t.after.crew.world (acts vs) (deeds vs) world := by
  obtain ⟨hpatient, hstarted, hlength, hok, hunpublished, hpublishes⟩ := replacing_facts
  have hbefore : Path .remote Patient (initial { now := 10000 } 2) summoned.1 summoned.2 :=
    path_follow hpatient
  have hcalled : summoned.2.calls[1]? = some ⟨.refreshNow 1, .locking⟩ := rfl
  have hafter : Path .remote (Undisturbed .remote 1 1) summoned.2 replacing.1 replacing.2 :=
    path_follow hok
  have hrefresh := forced_refresh hbefore hstarted hcalled hafter (by rwa [hlength])
  rw [hlength] at hrefresh
  refine ⟨hrefresh, ?_⟩
  obtain ⟨⟨e', events⟩, hs, hev⟩ := (Option.any_eq_true _ _).1 hpublishes
  obtain ⟨⟨us, t, vs, world, hcut, hhired, hcompleted, -⟩, -⟩ :=
    hrefresh.published e' events hs (List.contains_iff_mem.1 hev)
  exact ⟨us, t, vs, world, hcut, hhired, hcompleted⟩

end TokenCatalog.Engine
