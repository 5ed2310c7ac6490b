import TokenCatalog.Proofs.Engine.Departure
import TokenCatalog.Proofs.Engine.Lifecycle
import TokenCatalog.Proofs.Engine.Queues

namespace TokenCatalog

/-!
# Stopping — nobody waits for the consumer to stop a worker

A call that dismisses a worker keeps the lock until that has left; the worker may be parked behind a
listener, which may wait for the lock itself or for room in the channel.  None of this is a deadlock:
the worker has been told to stop, and needs neither its listener nor the network to leave.

* `Worker.Action.IsInternal`, `Engine.Internal` — steps that take no consumer, no tick and no answer;
* `Engine.Inevitable` — whichever internal steps are taken, finitely many of them lead to it;
* `Engine.toil`, `Engine.toil_of_step` — they do not go on forever, since each brings the engine
  nearer to rest;
* `Engine.canGoOn_of_lock` — and one can be taken as long as somebody waits for the lock;
* `Engine.stopping_is_inevitable` — so every wait for the lock or for a worker to leave ends.
-/

/-! ### Listeners -/

/-- How often a listener that waits there runs at most before it needs another result. -/
def ListenerStage.left : ListenerStage → Nat
  | .locking => 4
  | .sending => 3
  | .reserving => 2
  | .receiving => 1
  | .ended => 0

namespace Channel

variable {ch ch' : Channel} {p : Process} {s : ListenerStage} {events : List Event}

/-- A listener that has relayed has three steps left at most. -/
theorem Relays.left_le (h : ch.Relays p s ch' events) : s.left ≤ 3 := by
  cases h with
  | waits => exact Nat.le_refl 3
  | unheard | settles => exact Nat.succ_le_succ (Nat.zero_le 2)
  | parks => exact Nat.le_succ 2

/-- It has two left if it has sent what it had. -/
theorem Relays.left_le_of_ne (h : ch.Relays p s ch' events) (hs : s ≠ .sending) : s.left ≤ 2 := by
  cases h with
  | waits => exact absurd rfl hs
  | unheard | settles => exact Nat.le_succ 1
  | parks => exact Nat.le_refl 2

end Channel

/-! ### Workers -/

namespace Worker

variable {w : Worker} {s : Surroundings} {t : Turn} {a : Action}

/-- Whether an action takes no tick, and no answer but that a request has been cancelled. -/
def Action.IsInternal (cancelled : Bool) : Action → Prop
  | .tick => False
  | .manifestAnswered .. | .taskAnswered .. => cancelled = true
  | .start | .quit | .poll _ | .collect _ | .resume => True

/-- One for a worker that has not run yet. -/
def novelty (w : Worker) : Nat :=
  match w.stage with
  | .spawned _ => 1
  | .idle | .resolving _ | .fetching _ | .awaiting | .exited => 0

/-- What a listener may yet do with the result of a worker: one to take it, and four more if it has
    to wait for the lock then. -/
def unclaimed (w : Worker) : Nat := if w.handover = .offered then 5 else 0

/-- What a worker may do where it waits, until it needs a tick or an answer. -/
def Stage.toil : Stage → Nat
  | .spawned _ | .exited => 0
  | .idle => 1
  | .awaiting => 2
  -- At the end there is a result that is unclaimed, with the worker waiting behind it.
  | .fetching f => f.left + 8
  -- Without an answer the refresh goes on with the old manifest, in three moves for each entry.
  | .resolving fallback => 3 * fallback.entries.length + 9

/-- What a worker and its listener may do, until they need a tick or an answer. -/
def toil (w : Worker) : Nat := w.stage.toil + w.unclaimed

/-- The end of a refresh leaves less to do than its last fetch. -/
theorem toil_finish_lt (w : Worker) (s : Surroundings) (heed : Bool) :
    (w.finish s heed).worker.toil < w.unclaimed + 8 := by
  simp only [finish]
  split
  · exact Nat.lt_of_le_of_lt (Nat.le_of_eq (Nat.zero_add _)) (Nat.lt_add_of_pos_right (by decide))
  · have hoffered : ∀ s : Stage, s.toil ≤ 2 →
        toil { w with handover := .offered, stage := s } < w.unclaimed + 8 := by
      intro s hs
      show s.toil + 5 < _
      omega
    split
    · exact hoffered .exited (Nat.zero_le 2)
    · exact hoffered .awaiting (Nat.le_refl 2)

/-- A worker that begins to fetch has no more to do than its entries ask for. -/
theorem toil_fetchLists_lt (w : Worker) (s : Surroundings) (m : Manifest) (heed : Bool) :
    (w.fetchLists s m heed).worker.toil < 3 * m.entries.length + 9 + w.unclaimed := by
  unfold fetchLists
  split
  · have hfinish := toil_finish_lt w s heed
    omega
  · have hbegin : FanOut.Run s.config.validator m.entries [] [] _ := .begin
    have hlen := FanOut.length_add_left_le hbegin
    rw [List.length_nil, Nat.zero_add] at hlen
    show (FanOut.ofEntries m.entries).left + 8 + w.unclaimed < _
    omega

/-- A worker that ends a refresh has run. -/
theorem novelty_finish (w : Worker) (s : Surroundings) (heed : Bool) :
    (w.finish s heed).worker.novelty = 0 := by
  rcases stage_finish w s heed with hstage | hstage <;> rw [novelty, hstage]

/-- A worker that begins to fetch has run. -/
theorem novelty_fetchLists (w : Worker) (s : Surroundings) (m : Manifest) (heed : Bool) :
    (w.fetchLists s m heed).worker.novelty = 0 := by
  unfold fetchLists
  split
  · exact novelty_finish w s heed
  · rfl

/-- A worker that has checked whether a refresh is due has run. -/
theorem novelty_check (w : Worker) (s : Surroundings) (force : Bool) :
    (w.check s force).worker.novelty = 0 := by
  have hcase := checkCase_check w s force
  generalize w.check s force = t at hcase ⊢
  cases hcase with
  | cancelled | spared | asks => rfl
  | fetches _ _ _ _ heq =>
    subst heq
    exact novelty_fetchLists w s _ true

/-- **A worker that runs by itself has less to do then**, but for its first run. -/
theorem toil_lt_of_act? (h : w.act? s a = some t) (ha : a.IsInternal s.cancelled) :
    t.worker.novelty < w.novelty ∨ t.worker.novelty = w.novelty ∧ t.worker.toil < w.toil := by
  -- Where a worker goes on with its result as it is, only its stage counts.
  have hstays : ∀ {s' : Stage}, w.novelty = 0 → s'.toil < w.stage.toil →
      novelty { w with stage := s' } = 0 →
      novelty { w with stage := s' } = w.novelty ∧ toil { w with stage := s' } < w.toil :=
    fun hold hlt hnew => ⟨hnew.trans hold.symm, Nat.add_lt_add_right hlt w.unclaimed⟩
  cases step_of_act? h with
  | expire hstage =>
    left
    rw [novelty.eq_def w, hstage]
    exact Nat.one_pos
  | start hstage =>
    left
    rw [novelty_check, novelty.eq_def w, hstage]
    exact Nat.one_pos
  | tick => exact ha.elim
  | quit hstage =>
    refine .inr (hstays ?_ ?_ rfl)
    · rcases hstage with hstage | hstage <;> rw [novelty, hstage]
    · rcases hstage with hstage | hstage <;> rw [hstage]
      · exact Nat.one_pos
      · exact Nat.two_pos
  | acknowledged hstage hhandover =>
    refine .inr ⟨by rw [novelty.eq_def w, hstage]; rfl, ?_⟩
    have hdone : w.unclaimed = 0 := by
      rw [unclaimed, hhandover]
      rfl
    rw [toil.eq_def w, hstage, hdone]
    exact Nat.one_lt_two
  | dropped hstage =>
    refine .inr (hstays (by rw [novelty, hstage]) ?_ rfl)
    rw [hstage]
    exact Nat.two_pos
  | @manifestAnswered fallback url a heed hstage _ hadmits =>
    -- Under a cancelled token no manifest comes, and the old one is used.
    have hcancelled : s.cancelled = true := ha
    have hold : (Manifest.resolve s.config s.world url fallback a).1 = fallback := by
      rw [hcancelled] at hadmits
      unfold admits at hadmits
      split at hadmits
      · rfl
      · cases hadmits
    refine .inr ⟨(novelty_fetchLists w _ _ heed).trans (by rw [novelty, hstage]), ?_⟩
    have hlt := toil_fetchLists_lt w
      { s with world := (Manifest.resolve s.config s.world url fallback a).2 }
      (Manifest.resolve s.config s.world url fallback a).1 heed
    have hlength := congrArg (3 * ·.entries.length + 9 + w.unclaimed) hold
    rw [toil.eq_def w, hstage]
    exact Nat.lt_of_lt_of_eq hlt hlength
  | poll hstage hpolled =>
    refine .inr (hstays (by rw [novelty, hstage]) ?_ rfl)
    rw [hstage]
    exact Nat.add_lt_add_right (FanOut.left_lt_of_poll? hpolled) 8
  | taskAnswered hstage _ hanswered =>
    refine .inr (hstays (by rw [novelty, hstage]) ?_ rfl)
    rw [hstage]
    exact Nat.add_lt_add_right (FanOut.left_lt_of_answer? hanswered) 8
  | @collect f heed hstage =>
    refine .inr ⟨(novelty_finish w _ heed).trans (by rw [novelty, hstage]), ?_⟩
    have hlt := toil_finish_lt w { s with world := (f.persist s.world).1 } heed
    rw [toil.eq_def w, hstage]
    show (w.finish { s with world := (f.persist s.world).1 } heed).worker.toil < f.left + 8 + _
    omega

/-- A cancelled worker that has not left can do something that takes no tick. -/
theorem exists_internal_act? (hs : s.cancelled = true) (hlive : w.isLive = true)
    (hurl : ∀ m, w.stage = .resolving m → s.config.manifestUrl.isSome) :
    ∃ a t, a.IsInternal s.cancelled ∧ w.act? s a = some t := by
  obtain ⟨a, t, ht⟩ := exists_act? hs hlive hurl
  cases a with
  | tick =>
    -- A worker that waits for a tick can leave instead.
    cases step_of_act? ht with
    | tick hstage =>
      refine ⟨.quit, ⟨w.exit, s.world, []⟩, trivial, ?_⟩
      simp only [act?, hstage, hs, if_true]
  | manifestAnswered a heed => exact ⟨.manifestAnswered a heed, t, hs, ht⟩
  | taskAnswered i a => exact ⟨.taskAnswered i a, t, hs, ht⟩
  | start => exact ⟨.start, t, trivial, ht⟩
  | quit => exact ⟨.quit, t, trivial, ht⟩
  | poll i => exact ⟨.poll i, t, trivial, ht⟩
  | collect heed => exact ⟨.collect heed, t, trivial, ht⟩
  | resume => exact ⟨.resume, t, trivial, ht⟩

end Worker

namespace Crew

/-- What the workers of a crew and their listeners may do, until they need a tick or an answer. -/
def toil (k : Crew) : Nat := (k.workers.map Worker.toil).sum

/-- How many workers have not run yet. -/
def novelty (k : Crew) : Nat := (k.workers.map Worker.novelty).sum

variable {k : Crew} {id : WorkerId} {w : Worker}

/-- What leaves every worker its novelty leaves the crew's. -/
theorem novelty_modify {f : Worker → Worker} (hf : ∀ w, (f w).novelty = w.novelty) :
    (k.modify id f).novelty = k.novelty := by
  show ((k.workers.modify id f).map Worker.novelty).sum = (k.workers.map Worker.novelty).sum
  congr 1
  refine List.ext_getElem? fun i => ?_
  rw [List.getElem?_map, List.getElem?_map, List.getElem?_modify]
  cases k.workers[i]? with
  | none => rfl
  | some v => split <;> simp [hf]

/-- A result that is taken is not to be taken again. -/
theorem toil_take (h : k.offers id = true) : (k.take id).toil + 5 = k.toil := by
  obtain ⟨w, hw, hoffered⟩ := (Option.any_eq_true _ _).1 h
  have hoffered : w.handover = .offered := of_decide_eq_true hoffered
  have hsum := FanOut.sum_modify hw ({ · with handover := .taken }) Worker.toil
  have hbefore : w.toil = w.stage.toil + 5 := by
    rw [Worker.toil, Worker.unclaimed, if_pos hoffered]
  have hafter : Worker.toil { w with handover := .taken } = w.stage.toil := rfl
  rw [hbefore, hafter] at hsum
  show ((k.workers.modify id _).map Worker.toil).sum + 5 = (k.workers.map Worker.toil).sum
  omega

/-- An acknowledgement leaves workers no more to do. -/
theorem toil_acknowledge_le (k : Crew) (id : WorkerId) : (k.acknowledge id).toil ≤ k.toil := by
  show ((k.workers.modify id _).map Worker.toil).sum ≤ (k.workers.map Worker.toil).sum
  cases hw : k.workers[id]? with
  | none =>
    rw [List.modify_eq_self (List.getElem?_eq_none_iff.1 hw)]
  | some w =>
    have hsum := FanOut.sum_modify hw ({ · with handover := .acknowledged }) Worker.toil
    have hafter : Worker.toil { w with handover := .acknowledged } = w.stage.toil := rfl
    have hbefore : w.toil = w.stage.toil + w.unclaimed := rfl
    omega

end Crew

namespace Engine

variable {c : Config} {e e' : Engine} {a : Action} {events : List Event} {id : CallId}
  {l : ListenerId} {p : Process} {P I : Engine → Prop}

/-- A step of the engine itself: it takes nothing from the consumer, no tick, and no answer but that
    a request under a cancelled token has been cancelled. -/
def Internal (e : Engine) : Action → Prop
  | .resume _ => True
  | .work w a => a.IsInternal (e.crew.workers[w]?.any e.crew.isCancelled)
  | .alter _ | .elapse _ | .cancel _ | .invoke _ | .abandon _ | .receive | .hangUp => False

/-- An allowed step can be taken. -/
def CanGoOn (c : Config) (allowed : Engine → Action → Prop) (e : Engine) : Prop :=
  ∃ a e' events, allowed e a ∧ e.step? c a = some (e', events)

/-- Whichever allowed steps are taken, finitely many of them lead to a state, and until then one can
    be taken. -/
inductive Inevitable (c : Config) (allowed : Engine → Action → Prop) (P : Engine → Prop) :
    Engine → Prop
  | now {e : Engine} (holds : P e) : Inevitable c allowed P e
  | later {e : Engine} (enabled : CanGoOn c allowed e)
      (next : ∀ a e' events, allowed e a → e.step? c a = some (e', events) →
        Inevitable c allowed P e') : Inevitable c allowed P e

/-! ### Nearer to rest -/

/-- What an engine may do by itself: calls come first, since they bring workers, and then first runs
    of workers, since they begin refreshes. -/
def toil (e : Engine) : Nat × Nat × Nat :=
  ((e.calls.map (·.stage.left)).sum, e.crew.novelty,
    e.crew.toil + (e.listeners.map (·.stage.left)).sum)

/-- Less to do. -/
def LessToil : Nat × Nat × Nat → Nat × Nat × Nat → Prop :=
  Prod.Lex (· < ·) (Prod.Lex (· < ·) (· < ·))

/-- There is no endless way down to less toil. -/
theorem wellFounded_lessToil : WellFounded LessToil :=
  (Prod.lex Nat.lt_wfRel (Prod.lex Nat.lt_wfRel Nat.lt_wfRel)).wf

/-- A call that runs has less to do, whatever it brings about. -/
theorem toil_of_resumeCall? (h : e.resumeCall? c id = some (e', events)) :
    LessToil e'.toil e.toil := by
  obtain ⟨s, s', hs, -, hlt, hcalls⟩ := exists_stage_of_resumeCall? h
  obtain ⟨p, hp, rfl⟩ := Option.map_eq_some_iff.1 hs
  have hsum := FanOut.sum_modify hp ({ · with stage := s' }) (·.stage.left)
  have hsum : (e'.calls.map (·.stage.left)).sum + p.stage.left =
      (e.calls.map (·.stage.left)).sum + s'.left := by
    have hcalls : e'.calls = _ := hcalls
    rw [hcalls]
    exact hsum
  exact .left _ _ (by omega)

/-- A listener gets on, and its crew has done no more than to lose a result. -/
theorem toil_of_listener {li : Listener} {s : ListenerStage} (hli : e.listeners[l]? = some li)
    (hlisteners : e'.listeners = e.listeners.modify l ({ · with stage := s }))
    (hcalls : e'.calls = e.calls) (hnovelty : e'.crew.novelty = e.crew.novelty)
    (hlt : e'.crew.toil + s.left < e.crew.toil + li.stage.left) : LessToil e'.toil e.toil := by
  have hsum := FanOut.sum_modify hli ({ · with stage := s }) (·.stage.left)
  have hsum : ((e.listeners.modify l ({ · with stage := s })).map (·.stage.left)).sum +
      li.stage.left = (e.listeners.map (·.stage.left)).sum + s.left := hsum
  rw [toil, toil, hcalls, hnovelty, hlisteners]
  exact .right _ (.right _ (by omega))

/-- So it is with one that passes on a result; the worker may have been released then. -/
theorem toil_relayed {e₁ : Engine} {li : Listener} {w : WorkerId} {s : ListenerStage} {ch : Channel}
    (hli : e.listeners[l]? = some li) (hlisteners : e₁.listeners = e.listeners)
    (hcalls : e₁.calls = e.calls) (hnovelty : e₁.crew.novelty = e.crew.novelty)
    (hlt : e₁.crew.toil + s.left < e.crew.toil + li.stage.left) :
    LessToil (e₁.relayed l w s ch).toil e.toil := by
  have hcrew : (e₁.relayed l w s ch).crew.novelty = e₁.crew.novelty ∧
      (e₁.relayed l w s ch).crew.toil ≤ e₁.crew.toil := by
    show (if s = .receiving then e₁.crew.acknowledge w else e₁.crew).novelty = _ ∧
      (if s = .receiving then e₁.crew.acknowledge w else e₁.crew).toil ≤ _
    split
    · exact ⟨Crew.novelty_modify fun _ => rfl, e₁.crew.toil_acknowledge_le w⟩
    · exact ⟨rfl, Nat.le_refl _⟩
  refine toil_of_listener hli ?_ hcalls (hcrew.1.trans hnovelty)
    (Nat.lt_of_le_of_lt (Nat.add_le_add_right hcrew.2 _) hlt)
  rw [← hlisteners]
  rfl

/-- A listener that runs leaves less to itself and its worker. -/
theorem toil_of_resumeListener? (h : e.resumeListener? c l = some (e', events)) :
    LessToil e'.toil e.toil := by
  have hsplit : ∀ t, ListenerStep c e l t → t.1 = e' → LessToil e'.toil e.toil := by
    rintro t ht rfl
    cases ht with
    | ends hli => exact toil_of_listener hli rfl rfl rfl (Nat.lt_succ_self _)
    | @queues w hli hoffers =>
      -- The listener takes up what was left unclaimed: five for one to come and four to do.
      have htake := Crew.toil_take hoffers
      refine toil_of_listener (s := .locking) hli rfl rfl (Crew.novelty_modify fun _ => rfl) ?_
      show (e.crew.take w).toil + 4 < e.crew.toil + 1
      omega
    | @takes w hli hoffers =>
      obtain ⟨s, ch, events, hrelays, heq⟩ := announce_eq c (e.fetched l w) l w
      have htake := Crew.toil_take hoffers
      have hleft := hrelays.left_le
      rw [heq]
      refine toil_relayed hli rfl rfl (Crew.novelty_modify fun _ => rfl) ?_
      show (e.crew.take w).toil + s.left < e.crew.toil + 1
      omega
    | announces hli =>
      obtain ⟨s, ch, events, hrelays, heq⟩ := announce_eq c e l _
      rw [heq]
      exact toil_relayed hli rfl rfl rfl
        (Nat.add_lt_add_left (Nat.lt_succ_of_le hrelays.left_le) _)
    | delivers hli hready =>
      obtain ⟨s, ch, events, hrelays, hs, heq⟩ := deliver_eq e l _ hready
      rw [heq]
      exact toil_relayed hli rfl rfl rfl
        (Nat.add_lt_add_left (Nat.lt_succ_of_le (hrelays.left_le_of_ne hs)) _)
    | settles hli =>
      rw [settle_eq]
      exact toil_relayed hli rfl rfl rfl (Nat.lt_succ_self _)
  exact hsplit _ (listenerStep_of_resumeListener? h) rfl

/-- A worker's internal step leaves less to do. -/
theorem toil_of_work {w : WorkerId} {wa : Worker.Action}
    (hs : e.step? c (.work w wa) = some (e', events)) (hi : Internal e (.work w wa)) :
    LessToil e'.toil e.toil := by
  obtain ⟨⟨crew, evs⟩, hact, heq⟩ := Option.map_eq_some_iff.1 hs
  cases heq
  obtain ⟨v, t, hv, ht, rfl, -⟩ := Crew.exists_turn_of_act? hact
  have hinternal : wa.IsInternal (e.crew.isCancelled v) := by
    rw [Internal, hv, Option.any_some] at hi
    exact hi
  -- One worker changes, so the sums change by as much.
  have hnovelty := FanOut.sum_modify hv (fun _ => t.worker) Worker.novelty
  have htoil := FanOut.sum_modify hv (fun _ => t.worker) Worker.toil
  rw [← List.set_eq_modify] at hnovelty htoil
  have hnovelty : Crew.novelty { e.crew with workers := e.crew.workers.set w t.worker } + v.novelty =
      e.crew.novelty + t.worker.novelty := hnovelty
  have htoil : Crew.toil { e.crew with workers := e.crew.workers.set w t.worker } + v.toil =
      e.crew.toil + t.worker.toil := htoil
  refine .right _ ?_
  rcases Worker.toil_lt_of_act? ht hinternal with hlt | ⟨hsame, hlt⟩
  · refine .left _ _ ?_
    show Crew.novelty { e.crew with workers := e.crew.workers.set w t.worker } < _
    omega
  · have hkeeps : Crew.novelty { e.crew with workers := e.crew.workers.set w t.worker } =
        e.crew.novelty := by omega
    have hless : Crew.toil { e.crew with workers := e.crew.workers.set w t.worker } <
        e.crew.toil := by omega
    exact hkeeps.symm ▸ .right _ (Nat.add_lt_add_right hless _)

/-- **Every internal step brings an engine nearer to rest.** -/
theorem toil_of_step (hs : e.step? c a = some (e', events)) (hi : Internal e a) :
    LessToil e'.toil e.toil := by
  cases a with
  | resume p =>
    cases p with
    | call i => exact toil_of_resumeCall? hs
    | listener l => exact toil_of_resumeListener? hs
  | work w wa => exact toil_of_work hs hi
  | alter | elapse | cancel | invoke | abandon | receive | hangUp => exact hi.elim

/-- What can always go on as long as it has not come about is inevitable. -/
theorem inevitable_of_progress
    (hkeep : ∀ e a e' events, I e → Internal e a → e.step? c a = some (e', events) → I e')
    (hprogress : ∀ e, I e → ¬ P e → CanGoOn c Internal e)
    (h : I e) : Inevitable c Internal P e := by
  -- Not on the path, since there are many: on what the engine may do by itself.
  induction hn : e.toil using wellFounded_lessToil.induction generalizing e with
  | h n ih =>
    by_cases hP : P e
    · exact .now hP
    · refine .later (hprogress e h hP) fun a e' events hi hs => ?_
      exact ih e'.toil (hn ▸ toil_of_step hs hi) (hkeep e a e' events h hi hs) rfl

/-! ### Somebody can go on -/

/-- A call waits for the lock, or for a worker to leave. -/
def IsHeldUp (e : Engine) (id : CallId) : Prop :=
  e.stage? id = some .locking ∨ ∃ w next, e.stage? id = some (.joining w next)

/-- A call that stands in the queue for the lock waits for it, or has it and waits for a worker. -/
theorem isHeldUp_of_mem_lock (hq : Queued e) (h : .call id ∈ e.lock) : e.IsHeldUp id := by
  have hpos : 0 < e.inLock (.call id) := by
    rw [← hq.lock]
    exact List.count_pos_iff.2 h
  rw [inLock] at hpos
  cases hs : e.stage? id with
  | none =>
    rw [hs] at hpos
    exact absurd hpos (Nat.lt_irrefl 0)
  | some s =>
    rw [hs] at hpos
    cases s with
    | locking => exact .inl hs
    | joining w next => exact .inr ⟨w, next, hs⟩
    | sending | returned | abandoned => exact absurd hpos (Nat.lt_irrefl 0)

/-- A listener in the queue for the lock waits for the lock. -/
theorem listenerStage?_of_mem_lock (hq : Queued e) (h : .listener l ∈ e.lock) :
    e.listenerStage? l = some .locking := by
  have hpos : 0 < e.inLock (.listener l) := by
    rw [← hq.lock]
    exact List.count_pos_iff.2 h
  rw [inLock] at hpos
  cases hs : e.listenerStage? l with
  | none =>
    rw [hs] at hpos
    exact absurd hpos (Nat.lt_irrefl 0)
  | some s =>
    rw [hs] at hpos
    cases s with
    | locking => rfl
    | receiving | sending | reserving | ended => exact absurd hpos (Nat.lt_irrefl 0)

/-- A worker that a call waits for, and that has not left, can go on by itself. -/
theorem canGoOn_of_joining {w : WorkerId} {next : AfterLeave} (hr : Reachable c e)
    (hj : e.stage? id = some (.joining w next)) (hlive : e.crew.isLive w = true) :
    CanGoOn c Internal e := by
  obtain ⟨v, hv, hvlive⟩ := Crew.isLive_iff.1 hlive
  have hstopped := stopped_of_joining (custody_of_reachable hr) hj hv hvlive
  have hcancelled : e.crew.isCancelled v = true := by
    rw [Crew.isCancelled, hstopped, Bool.true_or]
  obtain ⟨wa, t, hinternal, ht⟩ := Worker.exists_internal_act?
    (s := ⟨c, e.crew.world, e.crew.clock, e.crew.isCancelled v, w⟩) hcancelled hvlive
    fun m hm => manifestUrl_of_reachable hr hv hm
  have hi : Internal e (.work w wa) := by
    rw [Internal, hv, Option.any_some]
    exact hinternal
  exact ⟨.work w wa, _, _, hi, step?_work hv ht⟩

/-- **No deadlock.**  As long as somebody has the lock, an internal step can be taken: the holder
    runs, or the worker that it waits for does. -/
theorem canGoOn_of_lock (hr : Reachable c e) (h : e.lock ≠ []) : CanGoOn c Internal e := by
  have hq := queued_of_reachable hr
  obtain ⟨p, rest, hlock⟩ := List.exists_cons_of_ne_nil h
  have hheld : e.holds p = true := holds_iff.2 ⟨rest, hlock⟩
  have hmem : p ∈ e.lock := hlock ▸ List.mem_cons_self
  cases p with
  | call i =>
    -- It runs, unless it waits for a worker; that has been told to stop.
    rcases isHeldUp_of_mem_lock hq hmem with hs | ⟨w, next, hs⟩
    · obtain ⟨⟨call, s⟩, hp, rfl⟩ := Option.map_eq_some_iff.1 hs
      have hrun : e.resumeCall? c i = some (e.runCall c i call) := by
        simp only [resumeCall?, hp, hheld, if_true]
      exact ⟨.resume (.call i), _, _, trivial, hrun⟩
    · cases hlive : e.crew.isLive w with
      | true => exact canGoOn_of_joining hr hs hlive
      | false =>
        obtain ⟨⟨call, s⟩, hp, heq⟩ := Option.map_eq_some_iff.1 hs
        obtain rfl : s = .joining w next := heq
        have hleft : e.resumeCall? c i = some (e.afterLeave c i next) := by
          simp [resumeCall?, hp, hlive]
        exact ⟨.resume (.call i), _, _, trivial, hleft⟩
  | listener l =>
    have hs := listenerStage?_of_mem_lock hq hmem
    obtain ⟨⟨w, s⟩, hli, heq⟩ := Option.map_eq_some_iff.1 hs
    obtain rfl : s = .locking := heq
    have hannounce : e.resumeListener? c l = some (e.announce c l w) := by
      simp only [resumeListener?, hli, hheld, if_true]
    exact ⟨.resume (.listener l), _, _, trivial, hannounce⟩

/-! ### The main result -/

/-- A call has returned, or needs nothing more than room for its notification. -/
def IsThrough (e : Engine) (id : CallId) : Prop :=
  e.stage? id = some .sending ∨ ∃ r, e.stage? id = some (.returned r)

/-- While a call is held up, somebody has the lock. -/
theorem lock_ne_nil_of_isHeldUp (hq : Queued e) (h : e.IsHeldUp id) : e.lock ≠ [] := by
  refine List.ne_nil_of_mem (a := .call id) (List.count_pos_iff.1 ?_)
  rw [hq.lock]
  rcases h with hs | ⟨w, next, hs⟩ <;> rw [(places_of_pending hs).1] <;> exact Nat.one_pos

/-- While a listener waits for the lock, somebody has it. -/
theorem lock_ne_nil_of_locking (hq : Queued e) (h : e.listenerStage? l = some .locking) :
    e.lock ≠ [] := by
  refine List.ne_nil_of_mem (a := .listener l) (List.count_pos_iff.1 ?_)
  rw [hq.lock, inLock, h]
  exact Nat.one_pos

/-- A call that has not been given up gets through. -/
theorem inevitable_of_through {call : Call} {s : CallStage} (hr : Reachable c e)
    (hid : e.calls[id]? = some ⟨call, s⟩) (hs : s ≠ .abandoned)
    (hP : ∀ e s, Reachable c e → e.calls[id]? = some ⟨call, s⟩ → e.IsThrough id → P e) :
    Inevitable c Internal P e := by
  refine inevitable_of_progress
    (I := fun e => Reachable c e ∧ ∃ s, e.calls[id]? = some ⟨call, s⟩ ∧ s ≠ .abandoned)
    ?_ ?_ ⟨hr, s, hid, hs⟩
  -- An internal step does not give the call up.
  · rintro e a e' events ⟨hr, s, hid, hs⟩ hi hstep
    refine ⟨hr.step hstep, ?_⟩
    by_cases ha : a.Moves id
    · rcases moves_cases hstep ha with ⟨rfl, -⟩ | ⟨rfl, hresume⟩
      · exact hi.elim
      · obtain ⟨-, s', -, hs', -, hcalls⟩ := exists_stage_of_resumeCall? hresume
        have hcalls : e'.calls = _ := hcalls
        exact ⟨s', by rw [hcalls, List.getElem?_modify_eq, hid]; rfl, hs'⟩
    · exact ⟨s, getElem?_calls_of_step hstep hid ha, hs⟩
  -- As long as the call is not through somebody has the lock, and whoever has it can go on.
  · rintro e ⟨hr, s, hid, hs⟩ hnot
    have hstage : e.stage? id = some s := stage?_of_getElem? hid
    have hheld : e.IsHeldUp id := by
      cases s with
      | locking => exact .inl hstage
      | joining w next => exact .inr ⟨w, next, hstage⟩
      | sending => exact absurd (hP e _ hr hid (.inl hstage)) hnot
      | returned r => exact absurd (hP e _ hr hid (.inr ⟨r, hstage⟩)) hnot
      | abandoned => exact absurd rfl hs
    exact canGoOn_of_lock hr (lock_ne_nil_of_isHeldUp (queued_of_reachable hr) hheld)

/-- A call that is held up gets through. -/
theorem inevitable_passage (hr : Reachable c e) (h : e.IsHeldUp id) :
    Inevitable c Internal (·.IsThrough id) e := by
  obtain ⟨s, hs, hne⟩ : ∃ s, e.stage? id = some s ∧ s ≠ .abandoned := by
    rcases h with hs | ⟨w, next, hs⟩
    · exact ⟨_, hs, nofun⟩
    · exact ⟨_, hs, nofun⟩
  obtain ⟨⟨call, s'⟩, hp, rfl⟩ := Option.map_eq_some_iff.1 hs
  exact inevitable_of_through hr hp hne fun _ _ _ _ hthrough => hthrough

/-- A call to stop, which sends no notification, returns. -/
theorem inevitable_return {s : CallStage} (hr : Reachable c e)
    (hid : e.calls[id]? = some ⟨.stop, s⟩) (hs : s ≠ .abandoned) :
    Inevitable c Internal (fun e => ∃ r, e.stage? id = some (.returned r)) e := by
  refine inevitable_of_through hr hid hs fun e s hr hid hthrough => ?_
  refine hthrough.resolve_left fun hsending => ?_
  rw [stage?, hid] at hsending
  cases hsending
  exact (halting_of_reachable hr).plan id _ hid

/-- A listener that waits for the lock gets it. -/
theorem inevitable_hearing (hr : Reachable c e) :
    Inevitable c Internal (fun e => e.listenerStage? l ≠ some .locking) e :=
  inevitable_of_progress (I := Reachable c) (fun _ _ _ _ hr _ hs => hr.step hs)
    (fun _ hr hnot => canGoOn_of_lock hr
      (lock_ne_nil_of_locking (queued_of_reachable hr) (not_not.1 hnot))) hr

/-- **Stopping never waits for the consumer.**  In every state that can be reached, whoever waits for
    the lock, or for a worker to leave, can rely on the engine itself: an internal step can be
    taken, and whichever are taken, after finitely many of them the wait is over; a call to stop has
    returned then. -/
theorem stopping_is_inevitable (hr : Reachable c e) :
    (e.lock ≠ [] → CanGoOn c Internal e) ∧
    (∀ id, e.IsHeldUp id → CanGoOn c Internal e ∧ Inevitable c Internal (·.IsThrough id) e) ∧
    (∀ l, e.listenerStage? l = some .locking →
      CanGoOn c Internal e ∧
        Inevitable c Internal (fun e' => e'.listenerStage? l ≠ some .locking) e) ∧
    ∀ (id : CallId) (s : CallStage), e.calls[id]? = some ⟨.stop, s⟩ → s ≠ .abandoned →
      Inevitable c Internal (fun e' => ∃ r, e'.stage? id = some (.returned r)) e := by
  have hq := queued_of_reachable hr
  refine ⟨canGoOn_of_lock hr, fun id hheld => ?_, fun l hlocking => ?_,
    fun id s => inevitable_return hr⟩
  · exact ⟨canGoOn_of_lock hr (lock_ne_nil_of_isHeldUp hq hheld), inevitable_passage hr hheld⟩
  · exact ⟨canGoOn_of_lock hr (lock_ne_nil_of_locking hq hlocking), inevitable_hearing hr⟩

/-- Everybody waits: the worker has been told to stop, and is parked behind its listener; that waits
    for room in a channel that is never read, as does a private refresh; the call to stop waits for
    the worker, and another call for the lock. -/
def gridlocked : Engine :=
  (follow .remote poised
    [.work 0 .start, .work 0 (.manifestAnswered (.error .failed) false), .resume (.listener 0),
      .alter { now := 10000, privacy := true }, .invoke (.refreshNow 0), .resume (.call 1),
      .invoke .stop, .resume (.call 2), .invoke (.privacyModeUpdated 0)]).2

/-- The gridlock can be reached. -/
theorem reachable_gridlocked : Reachable .remote gridlocked :=
  reachable_poised.follow _

/-- All that the kernel has to find out about that state. -/
theorem gridlocked_facts : gridlocked.crew.workers[0]?.map (·.stage) = some .awaiting ∧
    gridlocked.channel.waiting = [.listener 0, .call 1] ∧
    gridlocked.lock = [.call 2, .call 3] ∧
    gridlocked.calls.map (·.call) = [.start 0, .refreshNow 0, .stop, .privacyModeUpdated 0] := by
  decide +kernel

/-- Both calls get out of it. -/
theorem stopping_is_inevitable_gridlocked : gridlocked.IsHeldUp 2 ∧ gridlocked.IsHeldUp 3 ∧
    Inevitable .remote Internal (fun e => ∃ r, e.stage? 2 = some (.returned r)) gridlocked ∧
    Inevitable .remote Internal (·.IsThrough 3) gridlocked := by
  obtain ⟨-, -, hlock, hcalls⟩ := gridlocked_facts
  obtain ⟨-, hthrough, -, hreturn⟩ := stopping_is_inevitable reachable_gridlocked
  have hheld : ∀ id, .call id ∈ gridlocked.lock → gridlocked.IsHeldUp id := fun _ =>
    isHeldUp_of_mem_lock (queued_of_reachable reachable_gridlocked)
  rw [hlock] at hheld
  have htwo := hheld 2 (by decide)
  have hthree := hheld 3 (by decide)
  have hstop : gridlocked.calls[2]?.map (·.call) = some .stop := by
    rw [← List.getElem?_map, hcalls]
    rfl
  obtain ⟨⟨call, s⟩, hp, rfl⟩ := Option.map_eq_some_iff.1 hstop
  have hs : s ≠ .abandoned := by
    rintro rfl
    rw [IsHeldUp, stage?, hp] at htwo
    rcases htwo with hlocking | ⟨w, next, hjoining⟩
    · cases hlocking
    · cases hjoining
  exact ⟨htwo, hthree, hreturn 2 s hp hs, (hthrough 3 hthree).2⟩

end Engine

end TokenCatalog
