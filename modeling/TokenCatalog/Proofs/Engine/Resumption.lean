import TokenCatalog.Proofs.Engine.Calm
import TokenCatalog.Proofs.Engine.Privacy

namespace TokenCatalog.Engine

/-!
# Resumption — when the guard is turned off

A call that finds the guard off brings a worker that refreshes at once, but only where none is live.
A worker that outlived a private refresh is live, and keeps to its ticks.

* `wasPrivate_of_step` — what is recorded about privacy is what a call saw last;
* `Forced` — a known worker whose first check ignores the refresh interval;
* `Begins` — a refresh begins, and asks for the manifest at once if there is a URL for it;
* `Forced.begins`, `Forced.onwards` — such a worker begins a refresh whenever it runs, and nothing
  but its dismissal keeps it from that;
* `resumption` — a call that finds the guard off leaves such a worker exactly if there was one, or
  none was live.
-/

variable {c : Config} {e e' : Engine} {a : Action} {events : List Event} {id : CallId}

/-! ### What is recorded about privacy -/

/-- Of a call, only what it notes touches what is known of privacy. -/
theorem callInvariant_wasPrivate (b : Bool) : CallInvariant (·.wasPrivate = b) where
  forget e h := by
    unfold Engine.forget
    split <;> exact h
  startWorker e force h := by
    unfold Engine.startWorker
    split <;> exact h
  finish e h := h
  keeps e e' hk h := hk.wasPrivate.trans h
  closes id e e' hclose h := hclose.wasPrivate.trans h
  setCall e id s h := h

/-- A call that looks at the guard notes what it sees, and no other call does. -/
theorem wasPrivate_note (c : Config) (e : Engine) (call : Call) :
    (call.note c e).wasPrivate =
      if call.looks e.lifecycle then e.crew.world.isOffline else e.wasPrivate := by
  cases call <;> cases hl : e.lifecycle <;> simp [Call.note, Call.looks, refusal?, hl]

/-- **What is recorded about privacy is what the last call that looked at the guard saw.** -/
theorem wasPrivate_of_step (h : e.step? c a = some (e', events)) :
    e'.wasPrivate = if e.looks a then e.crew.world.isOffline else e.wasPrivate := by
  cases stepCase_of_step? h with
  | steady hsteady hother =>
    have hlooks : e.looks a = false := by
      unfold looks
      split
      · exact absurd rfl (hother _)
      · rfl
    rw [hsteady.wasPrivate, hlooks]
    rfl
  | invoke call => rfl
  | abandon habandon =>
    rw [habandon.eq]
    rfl
  | @resume i _ _ hresume =>
    have hcase := callStep_of_resumeCall? hresume
    -- Only a call that gets its turn looks at the guard.
    have hall : ∀ t, CallStep c e i t → t.1.wasPrivate =
        if e.looks (.resume (.call i)) then e.crew.world.isOffline else e.wasPrivate := by
      intro t ht
      cases ht with
      | @run call hpending hholds =>
        have hlooks : e.looks (.resume (.call i)) = call.looks e.lifecycle := by
          simp [looks, hpending, hholds]
        rw [runCall_eq, hlooks, ← wasPrivate_note c e call]
        exact (callInvariant_wasPrivate _).perform rfl c i _
      | left hpending =>
        have hlooks : e.looks (.resume (.call i)) = false := by simp [looks, hpending]
        rw [hlooks]
        exact (callInvariant_wasPrivate _).afterLeave rfl c i _
      | sent hpending =>
        have hlooks : e.looks (.resume (.call i)) = false := by simp [looks, hpending]
        rw [hlooks]
        exact (Keeps.enqueue e (.call i)).wasPrivate
    exact hall _ hcase

/-! ### Workers that refresh at once -/

/-- The engine knows a worker that has not run yet, is not cancelled, and whose first check ignores
    the refresh interval; the steady clock can hold its first tick. -/
structure Forced (c : Config) (e : Engine) (w : WorkerId) : Prop where
  known : e.worker = some w
  spawned : ∃ v, e.crew.workers[w]? = some v ∧ v.stage = .spawned true ∧
    e.crew.isCancelled v = false
  early : e.crew.clock + c.checkInterval.nanoseconds < Worker.instantLimit

/-- A worker begins a refresh, and asks for the manifest at once if there is a URL for it. -/
def Begins (c : Config) (w : WorkerId) (events : List Event) : Prop :=
  .refreshBegan w ∈ events ∧ ∀ url, c.manifestUrl = some url →
    ∃ etag, .requested (.manifest w) ⟨url, etag⟩ false ∈ events

/-- **A forced worker can run, and begins a refresh when it does.** -/
theorem Forced.begins {w : WorkerId} (h : Forced c e w) (hoff : e.crew.world.isOffline = false) :
    ∃ e' events, e.step? c (.work w .start) = some (e', events) ∧ Begins c w events := by
  obtain ⟨v, hv, hstage, hrun⟩ := h.spawned
  obtain ⟨t, ht, hbegan, hreq⟩ := Worker.act?_start_forced
    (s := ⟨c, e.crew.world, e.crew.clock, e.crew.isCancelled v, w⟩) hstage hrun h.early hoff
  exact ⟨_, _, step?_work hv ht, hbegan, fun url hurl => ⟨_, hreq url hurl⟩⟩

/-- The promise that the guard is off, a token is not cancelled, and the steady clock can hold the
    next tick. -/
def Spares (c : Config) (token : TokenId) (e : Engine) (_ : Action) : Prop :=
  e.crew.world.isOffline = false ∧ e.crew.cancelled.contains token = false ∧
    e.crew.clock + c.checkInterval.nanoseconds < Worker.instantLimit

/-- A worker under a token that has not run yet, whose first check ignores the refresh interval. -/
def IsFresh (token : TokenId) (w : WorkerId) (k : Crew) : Prop :=
  ∃ v, k.workers[w]? = some v ∧ v.parent = token ∧ v.stopped = false ∧ v.stage = .spawned true

/-- Whether a worker is fresh depends on the crew's bare part. -/
theorem isFresh_of_bare {k k' : Crew} {token : TokenId} {w : WorkerId} (h : k'.bare = k.bare)
    (hw : IsFresh token w k) : IsFresh token w k' := by
  obtain ⟨v, hv, hparent, hstopped, hstage⟩ := hw
  obtain ⟨v', hv', hbare⟩ := Crew.getElem?_of_bare h.symm hv
  obtain ⟨hparent', hstopped', hstage'⟩ := Crew.bare_inj hbare
  exact ⟨v', hv', hparent'.trans hparent, hstopped'.trans hstopped, hstage'.trans hstage⟩

/-- A fresh worker that is known is forced to refresh, if its token is spared. -/
theorem forced_of_isFresh {token : TokenId} {w : WorkerId} (hs : Spares c token e a)
    (hk : e.worker = some w) (hw : IsFresh token w e.crew) : Forced c e w := by
  obtain ⟨v, hv, rfl, hstopped, hstage⟩ := hw
  refine ⟨hk, ⟨v, hv, hstage, ?_⟩, hs.2.2⟩
  rw [Crew.isCancelled, hstopped, hs.2.1]
  rfl

/-- As long as a worker is known, no call touches it. -/
theorem callInvariant_isFresh (token : TokenId) (w : WorkerId) :
    CallInvariant fun e =>
      w < e.crew.workers.length ∧ (e.worker = some w → IsFresh token w e.crew) where
  forget e h := by
    refine ⟨?_, fun hk => ?_⟩
    · unfold Engine.forget
      split
      · exact h.1
      · simpa [Crew.stop, Crew.modify] using h.1
    · rw [worker_forget] at hk
      cases hk
  startWorker e force h := by
    unfold Engine.startWorker
    split
    · exact h
    · refine ⟨?_, fun hk => ?_⟩
      · show w < (e.crew.workers ++ [_]).length
        rw [List.length_append]
        exact Nat.lt_add_right _ h.1
      · -- The new worker is another one.
        have hnew : e.crew.workers.length = w := Option.some.inj hk
        exact absurd hnew (Nat.ne_of_gt h.1)
  finish e h := h
  keeps e e' hk h := by
    have hlength : e'.crew.workers.length = e.crew.workers.length := by
      have := congrArg (·.workers.length) hk.crew
      simpa [Crew.bare] using this
    refine ⟨by rw [hlength]; exact h.1, fun hknown => isFresh_of_bare hk.crew (h.2 ?_)⟩
    rwa [← hk.worker]
  closes id e e' hclose h := by
    rw [hclose.crew, hclose.worker]
    exact h
  setCall e id s h := h

/-- **A worker that is to refresh at once does so when it runs, unless it is dismissed first.** -/
theorem isFresh_step {token : TokenId} {w : WorkerId} (hspares : Spares c token e a)
    (hk : e.worker = some w) (hw : IsFresh token w e.crew)
    (hs : e.step? c a = some (e', events)) :
    Begins c w events ∨ e'.worker ≠ some w ∨ e'.worker = some w ∧ IsFresh token w e'.crew := by
  have hwait : e'.worker = e.worker → IsFresh token w e'.crew →
      e'.worker = some w ∧ IsFresh token w e'.crew := fun hworker hw' => ⟨hworker.trans hk, hw'⟩
  cases a with
  | alter | elapse | cancel | invoke | hangUp =>
    cases hs
    exact .inr (.inr (hwait rfl hw))
  | abandon i =>
    obtain ⟨e₁, he₁, heq⟩ := Option.map_eq_some_iff.1 hs
    cases heq
    have hab := abandons_of_abandonCall? he₁
    refine .inr (.inr (hwait hab.worker ?_))
    rw [hab.crew]
    exact hw
  | resume p =>
    cases p with
    | call i =>
      right
      -- A call may dismiss the worker; if it has not, it has not touched it.
      by_cases hk' : e'.worker = some w
      · right
        have hlt : w < e.crew.workers.length := by
          obtain ⟨v, hv, -⟩ := hw
          exact (List.getElem?_eq_some_iff.1 hv).1
        have hinv := (callInvariant_isFresh token w).resumeCall? ⟨hlt, fun _ => hw⟩
          (fun call => by rw [crew_note]; exact ⟨hlt, fun _ => hw⟩) hs
        exact ⟨hk', hinv.2 hk'⟩
      · exact .inl hk'
    | listener i =>
      have hkeeps := Keeps.resumeListener? hs
      exact .inr (.inr (hwait hkeeps.worker (isFresh_of_bare hkeeps.crew hw)))
  | work i wa =>
    obtain ⟨⟨crew, evs⟩, hact, heq⟩ := Option.map_eq_some_iff.1 hs
    cases heq
    obtain ⟨u, t, hu, ht, rfl, -⟩ := Crew.exists_turn_of_act? hact
    by_cases hi : i = w
    · -- It is this worker's turn, and the first one: it finds the guard off.
      left
      subst hi
      have hstart : wa = .start := by
        obtain ⟨v, hv, -, -, hstage⟩ := hw
        rw [hu] at hv
        cases hv
        exact Worker.eq_start_of_act? hstage ht
      obtain ⟨e₁, evs₁, hbegins, hev⟩ := (forced_of_isFresh hspares hk hw).begins hspares.1
      rw [← hstart, hs] at hbegins
      cases hbegins
      exact hev
    · refine .inr (.inr (hwait rfl ?_))
      obtain ⟨v, hv, hv'⟩ := hw
      exact ⟨v, (List.getElem?_set_ne hi).trans hv, hv'⟩
  | receive =>
    obtain ⟨channel, -, heq⟩ := Option.map_eq_some_iff.1 hs
    cases heq
    exact .inr (.inr (hwait rfl hw))

/-- On a path on which the guard stays off and the worker's token is not cancelled, a worker that is
    to refresh at once has begun, or has been dismissed, or still is to. -/
theorem isFresh_of_path {token : TokenId} {w : WorkerId} {us : List Transition}
    (hp : Path c (Spares c token) e us e') (hk : e.worker = some w)
    (hw : IsFresh token w e.crew) :
    (∃ t ∈ us, Begins c w t.events ∨ t.after.worker ≠ some w) ∨
      e'.worker = some w ∧ IsFresh token w e'.crew := by
  induction hp with
  | nil => exact .inr ⟨hk, hw⟩
  | snoc _ hspares hs ih =>
    rcases ih with ⟨t, ht, hdone⟩ | ⟨hk', hw'⟩
    · exact .inl ⟨t, List.mem_append_left _ ht, hdone⟩
    · rcases isFresh_step hspares hk' hw' hs with hbegan | hgone | hwaits
      · exact .inl ⟨_, List.mem_append_right _ (List.mem_singleton_self _), .inl hbegan⟩
      · exact .inl ⟨_, List.mem_append_right _ (List.mem_singleton_self _), .inr hgone⟩
      · exact .inr hwaits

/-- **A forced worker begins a refresh when it runs, and goes on being able to.** -/
theorem Forced.onwards {w : WorkerId} {v : Worker} (h : Forced c e w)
    (hoff : e.crew.world.isOffline = false) (hv : e.crew.workers[w]? = some v) :
    (∃ e' evs, e.step? c (.work w .start) = some (e', evs) ∧ Begins c w evs) ∧
      ∀ us e₂, Path c (Spares c v.parent) e us e₂ →
        (∃ t ∈ us, Begins c w t.events ∨ t.after.worker ≠ some w) ∨
          (Spares c v.parent e₂ (.work w .start) → Forced c e₂ w) := by
  refine ⟨h.begins hoff, fun us e₂ hpath => ?_⟩
  have hfresh : IsFresh v.parent w e.crew := by
    obtain ⟨u, hu, hstage, hrun⟩ := h.spawned
    cases hv.symm.trans hu
    rw [Crew.isCancelled, Bool.or_eq_false_iff] at hrun
    exact ⟨v, hv, rfl, hrun.1, hstage⟩
  rcases isFresh_of_path hpath h.known hfresh with hdone | ⟨hknown, hwaits⟩
  · exact .inl hdone
  · exact .inr fun hspares => forced_of_isFresh hspares hknown hwaits

/-! ### The call -/

/-- Calls leave the world as it is. -/
theorem callInvariant_world (world : World) : CallInvariant (·.crew.world = world) :=
  callInvariant_crew (fun _ _ h => h) (fun _ _ _ h => h)
    fun _ _ hbare h => (Crew.world_of_bare hbare).trans h

/-- Whether a worker is forced depends on which one is known, and on the crew. -/
theorem forced_congr {w : WorkerId} (hworker : e'.worker = e.worker) (hcrew : e'.crew = e.crew) :
    Forced c e' w ↔ Forced c e w := by
  constructor
  · intro h
    exact ⟨hworker ▸ h.known, hcrew ▸ h.spawned, hcrew ▸ h.early⟩
  · intro h
    exact ⟨hworker.trans h.known, hcrew.symm ▸ h.spawned, hcrew.symm ▸ h.early⟩

/-- What is left of the crew once the worker that the engine knew has left. -/
theorem clock_dropListener_forget (e : Engine) :
    e.forget.dropListener.crew.clock = e.crew.clock ∧
      e.forget.dropListener.crew.cancelled = e.crew.cancelled ∧
      e.forget.dropListener.worker = none ∧ e.forget.dropListener.token = e.token := by
  have hkeeps := keeps_dropListener e.forget
  have hforget : e.forget.crew.clock = e.crew.clock ∧ e.forget.crew.cancelled = e.crew.cancelled ∧
      e.forget.token = e.token := by
    unfold forget
    split <;> exact ⟨rfl, rfl, rfl⟩
  exact ⟨(Crew.clock_of_bare hkeeps.crew).trans hforget.1,
    (Crew.cancelled_of_bare hkeeps.crew).trans hforget.2.1,
    hkeeps.worker.trans (worker_forget e), hkeeps.token.trans hforget.2.2⟩

/-- A worker that starts by force under a token that is not cancelled is forced, if the clock can
    hold its first tick. -/
theorem forced_startWorker (hnone : e.worker = none)
    (htoken : e.crew.cancelled.contains e.token = false) :
    ((∃ w, Forced c (e.startWorker true) w) ↔
      e.crew.clock + c.checkInterval.nanoseconds < Worker.instantLimit) ∧
    ∀ w v, (e.startWorker true).worker = some w →
      (e.startWorker true).crew.workers[w]? = some v → v.parent = e.token := by
  -- No worker is known, so one is started.
  have hlive : e.hasLiveWorker = false := by
    rw [hasLiveWorker, hnone]
    rfl
  have hnew : (e.crew.spawn e.token true).1.workers[e.crew.workers.length]? =
      some { parent := e.token, stage := .spawned true } := by
    rw [Crew.getElem?_spawn, if_pos rfl]
  rw [startWorker, if_neg (by simp [hlive])]
  refine ⟨⟨fun hforced => ?_, fun hearly => ?_⟩, fun w v hw hv => ?_⟩
  · obtain ⟨w, hw⟩ := hforced
    exact hw.early
  · refine ⟨e.crew.workers.length, rfl, ⟨_, hnew, rfl, ?_⟩, hearly⟩
    show (false || e.crew.cancelled.contains e.token) = false
    rw [htoken]
    rfl
  -- The worker that is known is the new one.
  · cases hw
    cases hnew.symm.trans hv
    rfl

/-- The promise that the guard is off, and a token is not cancelled. -/
def Public (token : TokenId) (e : Engine) (_ : Action) : Prop :=
  e.crew.world.isOffline = false ∧ e.crew.cancelled.contains token = false

instance (token : TokenId) (e : Engine) (a : Action) : Decidable (Public token e a) :=
  inferInstanceAs (Decidable (_ ∧ _))

section

variable {token : TokenId}

/-- Where a worker is live, the call leaves everything as it is. -/
theorem runCall_of_hasLiveWorker (hl : e.lifecycle = .started)
    (hoff : e.crew.world.isOffline = false) (hlive : e.hasLiveWorker = true)
    (hrun : e.runCall c id (.privacyModeUpdated token) = (e', events)) :
    e'.worker = e.worker ∧ e'.crew = e.crew ∧
      e'.calls = e.calls.modify id ({ · with stage := .returned (.ok ()) }) := by
  have hduty : (Call.privacyModeUpdated token).duty e = .keep := by
    simp [Call.duty, refusal?, hl, hoff, hlive]
  rw [runCall_eq, hduty] at hrun
  obtain rfl : (((Call.privacyModeUpdated token).note c e).answer id (.ok ())).1 = e' :=
    congrArg (·.1) hrun
  have hclose := closes_answer ((Call.privacyModeUpdated token).note c e) id (.ok ())
  refine ⟨hclose.worker.trans (worker_note c e _), hclose.crew.trans (crew_note c e _), ?_⟩
  show ((Call.privacyModeUpdated token).note c e).calls.modify id _ = _
  rw [calls_note]

/-- Where no worker is live, the call starts one by force. -/
theorem runCall_of_not_hasLiveWorker (hl : e.lifecycle = .started) (hpublic : Public token e a)
    (hlive : e.hasLiveWorker = false)
    (hrun : e.runCall c id (.privacyModeUpdated token) = (e', events)) :
    ((∃ w, Forced c e' w) ↔
        e.crew.clock + c.checkInterval.nanoseconds < Worker.instantLimit) ∧
      (∀ w v, e'.worker = some w → e'.crew.workers[w]? = some v → v.parent = token) ∧
      e'.calls = e.calls.modify id ({ · with stage := .returned (.ok ()) }) := by
  have hduty : (Call.privacyModeUpdated token).duty e = .dismiss .restart := by
    simp [Call.duty, refusal?, hl, hpublic.1, hlive]
  have hnone : ((Call.privacyModeUpdated token).note c e).hasLiveWorker = false := by
    rw [hasLiveWorker, worker_note, crew_note]
    exact hlive
  rw [runCall_eq, hduty, perform, stopWorker_of_not_hasLiveWorker c id .restart hnone] at hrun
  have hnoted : ((Call.privacyModeUpdated token).note c e).token = token := by
    simp [Call.note, refusal?, hl]
  have hcrew := crew_note c e (.privacyModeUpdated token)
  have hcalls := calls_note c e (.privacyModeUpdated token)
  -- From here on the note does not matter: call what it leaves `n`.
  generalize (Call.privacyModeUpdated token).note c e = n at hrun hnoted hcrew hcalls
  obtain rfl : (n.forget.afterLeave c id .restart).1 = e' := congrArg (·.1) hrun
  obtain ⟨hclock, hcancelled, hworker, htoken⟩ := clock_dropListener_forget n
  have hclose := closes_afterLeave c n.forget id .restart
  have hfree : n.forget.dropListener.crew.cancelled.contains n.forget.dropListener.token =
      false := by
    rw [hcancelled, htoken, hnoted, hcrew]
    exact hpublic.2
  obtain ⟨hstart, hparent⟩ := forced_startWorker (c := c) hworker hfree
  rw [hclock, hcrew] at hstart
  rw [htoken, hnoted] at hparent
  refine ⟨?_, fun w v hw hv => hparent w v (hclose.worker.symm.trans hw) ?_, ?_⟩
  · rw [← hstart]
    exact exists_congr fun w => forced_congr hclose.worker hclose.crew
  · rw [hclose.crew] at hv
    exact hv
  · show (n.forget.dropListener.startWorker true).calls.modify id _ = _
    rw [calls_startWorker, (keeps_dropListener _).calls, calls_forget, hcalls]

/-- What the call does, whether or not a worker is live. -/
theorem runCall_privacyModeUpdated (hl : e.lifecycle = .started) (hpublic : Public token e a)
    (hrun : e.runCall c id (.privacyModeUpdated token) = (e', events)) :
    e'.calls = e.calls.modify id ({ · with stage := .returned (.ok ()) }) ∧
      ((∃ w, Forced c e' w) ↔
        e.hasLiveWorker = false ∧
            e.crew.clock + c.checkInterval.nanoseconds < Worker.instantLimit ∨
          ∃ w, Forced c e w) ∧
      (e.hasLiveWorker = true → e'.crew = e.crew) ∧
      (e.hasLiveWorker = false →
        ∀ w v, e'.worker = some w → e'.crew.workers[w]? = some v → v.parent = token) := by
  cases hlive : e.hasLiveWorker with
  | true =>
    -- With a live worker nobody is started.
    obtain ⟨hworker, hcrew, hcalls⟩ := runCall_of_hasLiveWorker hl hpublic.1 hlive hrun
    refine ⟨hcalls, ⟨fun ⟨w, hw⟩ => .inr ⟨w, (forced_congr hworker hcrew).1 hw⟩, ?_⟩,
      fun _ => hcrew, nofun⟩
    rintro (⟨hnone, -⟩ | ⟨w, hw⟩)
    · cases hnone
    · exact ⟨w, (forced_congr hworker hcrew).2 hw⟩
  | false =>
    -- Without one the call starts a worker.
    obtain ⟨hforced, hparent, hcalls⟩ := runCall_of_not_hasLiveWorker hl hpublic hlive hrun
    refine ⟨hcalls, ?_, nofun, fun _ => hparent⟩
    rw [hforced]
    refine ⟨fun hearly => .inl ⟨rfl, hearly⟩, ?_⟩
    rintro (⟨-, hearly⟩ | ⟨w, hw⟩)
    · exact hearly
    · exact hw.early

end

/-- **Turning public resumes with a refresh at once, unless a worker is live that is not about to.**
    When a call to look at the guard gets its turn in an engine that has started, and the guard is
    off and its token not cancelled, it returns at once.  Afterwards the engine has a worker that
    refreshes whatever the time of the last refresh exactly if no worker was live, or the one that
    was is such a worker itself; where one was live, the call leaves it as it is.  And such a worker
    begins its refresh when it runs, which nothing but its dismissal prevents. -/
theorem resumption {e₀ : Engine} {token : TokenId} {ts : List Transition}
    (started : e₀.lifecycle = .started)
    (during : Path c (Public token) (e₀.invoke (.privacyModeUpdated token)) ts e)
    (waits : e.calls[e₀.calls.length]? = some ⟨.privacyModeUpdated token, .locking⟩)
    (isPublic : Public token e (.resume (.call e₀.calls.length)))
    (turn : e.step? c (.resume (.call e₀.calls.length)) = some (e', events)) :
    e'.stage? e₀.calls.length = some (.returned (.error .alreadyStopped)) ∨
      e'.hasSucceeded e₀.calls.length = true ∧
      ((∃ w, Forced c e' w) ↔
        e.hasLiveWorker = false ∧
            e.crew.clock + c.checkInterval.nanoseconds < Worker.instantLimit ∨
          ∃ w, Forced c e w) ∧
      (e.hasLiveWorker = true → e'.crew = e.crew) ∧
      ∀ w v, Forced c e' w → e'.crew.workers[w]? = some v →
        (e.hasLiveWorker = false → v.parent = token) ∧
        (∃ e'' evs, e'.step? c (.work w .start) = some (e'', evs) ∧ Begins c w evs) ∧
        ∀ us e₂, Path c (Spares c v.parent) e' us e₂ →
          (∃ t ∈ us, Begins c w t.events ∨ t.after.worker ≠ some w) ∨
            (Spares c v.parent e₂ (.work w .start) → Forced c e₂ w) := by
  have hrun := (runCall_of_resumeCall? waits (show e.resumeCall? c _ = _ from turn)).2.symm
  have hlife : e.lifecycle ≠ .unstarted := by
    refine during.invariant (P := (·.lifecycle ≠ .unstarted)) (fun hl => ?_)
      fun _ _ _ _ h _ hs => lifecycle_of_step h hs
    rw [show e₀.lifecycle = .unstarted from hl] at started
    cases started
  cases hl : e.lifecycle with
  | unstarted => exact absurd hl hlife
  | stopped =>
    left
    rw [runCall_of_stopped hl] at hrun
    cases hrun
    exact stage?_modify_self waits rfl
  | started =>
    right
    obtain ⟨hcalls, hforced, hkept, hparent⟩ := runCall_privacyModeUpdated hl isPublic hrun
    have hok := hasSucceeded_iff.2 (stage?_modify_self waits hcalls)
    -- The call has not touched the guard, so a forced worker finds it off.
    have hoff : e'.crew.world.isOffline = false := by
      have hworld : e'.crew.world = e.crew.world :=
        (callInvariant_world e.crew.world).resumeCall? rfl (fun call => by rw [crew_note]) turn
      rw [hworld]
      exact isPublic.1
    refine ⟨hok, hforced, hkept, fun w v hw hv => ⟨fun hnone => ?_, hw.onwards hoff hv⟩⟩
    exact hparent hnone w v hw.known hv

/-! ### With and without a live worker -/

/-- An engine that has started while the guard was on, which is off now. -/
def withheld : Engine :=
  (follow .remote (initial { now := 10000, privacy := true } 1)
    [.invoke (.start 0), .resume (.call 0), .alter { now := 10000 }]).2

/-- Without a live worker a call to look at the guard brings a refresh at once. -/
theorem resumption_withheld : withheld.wasPrivate = true ∧
    ∃ e' events w, (withheld.invoke (.privacyModeUpdated 0)).step? .remote
        (.resume (.call withheld.calls.length)) = some (e', events) ∧ Forced .remote e' w ∧
      ∃ e'' evs, e'.step? .remote (.work w .start) = some (e'', evs) ∧ Begins .remote w evs := by
  refine ⟨by decide +kernel, ?_⟩
  have hreturns : ((withheld.invoke (.privacyModeUpdated 0)).step? .remote
      (.resume (.call withheld.calls.length))).any (·.1.hasSucceeded withheld.calls.length) =
        true := by decide +kernel
  obtain ⟨⟨e', events⟩, hturn, hok⟩ := (Option.any_eq_true _ _).1 hreturns
  have hpath : Path .remote (Public 0) (withheld.invoke (.privacyModeUpdated 0)) [] _ := .nil
  rcases resumption (by decide +kernel) hpath (getElem?_calls_invoke _ _) (by decide +kernel) hturn
    with hrefused | ⟨-, hforced, -, honwards⟩
  · rw [hasSucceeded_iff.1 hok] at hrefused
    cases hrefused
  · obtain ⟨w, hw⟩ := hforced.2 (.inl (by decide +kernel))
    obtain ⟨v, hv, -⟩ := hw.spawned
    exact ⟨e', events, w, hturn, hw, (honwards w v hw hv).2.1⟩

/-- A worker has found no refresh due and waits for its next tick; privacy was on for a refresh, and
    is off again. -/
def outlived : Engine :=
  (follow .remote (initial { now := 10000, lastRefresh := 10000 } 1)
    [.invoke (.start 0), .resume (.call 0), .work 0 .start,
      .alter { now := 10000, lastRefresh := 10000, privacy := true },
      .invoke (.refreshNow 0), .resume (.call 1),
      .alter { now := 10000, lastRefresh := 10000 }]).2

/-- Turning public does not always refresh at once: the worker that outlived a private refresh is
    all there is, and waits for its tick. -/
theorem resumption_not_always_at_once :
    Reachable .remote outlived ∧ outlived.lifecycle = .started ∧ outlived.wasPrivate = true ∧
      Public 0 outlived (.invoke (.privacyModeUpdated 0)) ∧
      ∃ e' events, (outlived.invoke (.privacyModeUpdated 0)).step? .remote
          (.resume (.call outlived.calls.length)) = some (e', events) ∧
        e'.hasSucceeded outlived.calls.length = true ∧
        (∀ v ∈ e'.crew.workers, v.stage = .idle ∧ e'.crew.clock < v.nextTick) ∧
        ¬ ∃ w, Forced .remote e' w := by
  -- The call succeeds, and every worker sleeps on until its next tick.
  have hturn : ((outlived.invoke (.privacyModeUpdated 0)).step? .remote
      (.resume (.call outlived.calls.length))).any (fun t =>
        t.1.hasSucceeded outlived.calls.length &&
          t.1.crew.workers.all fun v => v.stage = .idle ∧ t.1.crew.clock < v.nextTick) =
        true := by decide +kernel
  obtain ⟨⟨e', events⟩, hstep, hall⟩ := (Option.any_eq_true _ _).1 hturn
  obtain ⟨hok, hworkers⟩ := Bool.and_eq_true_iff.1 hall
  have hidle : ∀ v ∈ e'.crew.workers, v.stage = .idle ∧ e'.crew.clock < v.nextTick :=
    fun v hv => of_decide_eq_true (List.all_eq_true.1 hworkers v hv)
  refine ⟨(reachable_initial .remote _ 1).follow _, by decide +kernel, by decide +kernel,
    by decide +kernel, e', events, hstep, hok, hidle, ?_⟩
  -- A worker that sleeps has not just been started.
  rintro ⟨w, -, ⟨v, hv, hspawned, -⟩, -⟩
  rw [(hidle v (List.mem_of_getElem? hv)).1] at hspawned
  cases hspawned

end TokenCatalog.Engine
