import TokenCatalog.Proofs.Engine.Custody
import TokenCatalog.Proofs.Engine.Provenance

namespace TokenCatalog

/-!
# Departures — a worker that is told to stop leaves

A worker that is cancelled goes nowhere but out: whatever it does brings it nearer to its end, and
until then there is always something it can do, without the network.

* `Worker.left` — how many steps a cancelled worker has before it at most;
* `Worker.left_lt_of_act?`, `Worker.exists_act?` — each of its steps is one of them, and it has one;
* `Engine.exists_departure` — a worker that has been told to stop can leave by itself;
* `Engine.stopped_of_joining` — so has one that a call waits for.
-/

namespace Worker

variable {w : Worker} {s : Surroundings} {t : Turn} {a : Action}

/-- How many steps a cancelled worker has before it at most. -/
def left (w : Worker) : Nat :=
  match w.stage with
  | .exited => 0
  | .spawned _ | .idle => 1
  | .awaiting => 2
  | .fetching f => f.left + 1
  | .resolving fallback => 3 * fallback.entries.length + 2

/-- A cancelled worker that ends a refresh has nothing left to do. -/
theorem left_of_finish (w : Worker) (heed : Bool) (hs : s.cancelled = true) :
    (w.finish s heed).worker.left = 0 := by
  simp only [finish, hs, Bool.true_and, if_true]
  split <;> rfl

/-- A cancelled worker that begins to fetch has three steps left for each entry, and one more. -/
theorem left_fetchLists_le (w : Worker) (m : Manifest) (heed : Bool) (hs : s.cancelled = true) :
    (w.fetchLists s m heed).worker.left ≤ 3 * m.entries.length + 1 := by
  unfold fetchLists
  split
  · rw [left_of_finish w heed hs]
    exact Nat.zero_le _
  · have hbegin : FanOut.Run s.config.validator m.entries [] [] _ := .begin
    have hlen := FanOut.length_add_left_le hbegin
    show (FanOut.ofEntries m.entries).left + 1 ≤ _
    simp only [List.length_nil] at hlen
    omega

/-- A cancelled worker that checks has nothing left to do. -/
theorem check_of_cancelled (w : Worker) (force : Bool) (hs : s.cancelled = true) :
    (w.check s force).worker.left = 0 := by
  rw [check, if_pos hs]
  rfl

/-- **Every step of a cancelled worker brings it nearer to its end.** -/
theorem left_lt_of_act? (hs : s.cancelled = true) (h : w.act? s a = some t) :
    t.worker.left < w.left := by
  cases step_of_act? h with
  | expire hstage =>
    rw [left.eq_def w, hstage]
    exact Nat.one_pos
  | start hstage =>
    rw [check_of_cancelled _ _ hs, left, hstage]
    exact Nat.one_pos
  | tick hstage =>
    rw [check_of_cancelled _ _ hs, left, hstage]
    exact Nat.one_pos
  | quit hstage =>
    rw [left.eq_def w]
    rcases hstage with hstage | hstage <;> rw [hstage]
    · exact Nat.one_pos
    · exact Nat.two_pos
  | acknowledged hstage =>
    rw [left.eq_def w, hstage]
    exact Nat.one_lt_two
  | dropped hstage =>
    rw [left.eq_def w, hstage]
    exact Nat.two_pos
  | @manifestAnswered fallback url a heed hstage _ hadmits =>
    -- Under a cancelled token no manifest comes, and the old one is used.
    have ha : (Manifest.resolve s.config s.world url fallback a).1 = fallback := by
      rw [hs] at hadmits
      unfold admits at hadmits
      split at hadmits
      · rfl
      · cases hadmits
    have hle := left_fetchLists_le w (Manifest.resolve s.config s.world url fallback a).1 heed
      (s := { s with world := (Manifest.resolve s.config s.world url fallback a).2 }) hs
    have hlt : 3 * (Manifest.resolve s.config s.world url fallback a).1.entries.length + 1 <
        3 * fallback.entries.length + 2 := by
      rw [ha]
      exact Nat.lt_succ_self _
    rw [left.eq_def w, hstage]
    exact Nat.lt_of_le_of_lt hle hlt
  | poll hstage hpolled =>
    rw [left.eq_def w, hstage]
    exact Nat.succ_lt_succ (FanOut.left_lt_of_poll? hpolled)
  | taskAnswered hstage _ hanswered =>
    rw [left.eq_def w, hstage]
    exact Nat.succ_lt_succ (FanOut.left_lt_of_answer? hanswered)
  | @collect f heed hstage =>
    have hzero : (w.collectTurn s f heed).worker.left = 0 := left_of_finish w heed hs
    rw [hzero, left, hstage]
    exact Nat.succ_pos _

/-- A worker that waits for its manifest can go on without the network: a request can always be
    cancelled. -/
theorem exists_act?_of_resolving {m : Manifest} (hstage : w.stage = .resolving m)
    (hurl : s.config.manifestUrl.isSome) : ∃ a t, w.act? s a = some t := by
  obtain ⟨url, hurl⟩ := Option.isSome_iff_exists.1 hurl
  refine ⟨.manifestAnswered (.error .cancelled) true, ?_⟩
  simp only [act?, hstage, hurl, admits, if_true]
  exact ⟨_, rfl⟩

/-- So can one that waits for its tasks. -/
theorem exists_act?_of_fetching {f : FanOut} (hstage : w.stage = .fetching f) :
    ∃ a t, w.act? s a = some t := by
  cases hfinished : f.isFinished with
  | true =>
    refine ⟨.collect true, ?_⟩
    simp only [act?, hstage, hfinished, if_true]
    exact ⟨_, rfl⟩
  | false =>
    -- Whatever a task waits for, cancelling answers it.
    obtain ⟨i, hpoll | hanswer⟩ := FanOut.exists_move_of_not_isFinished hfinished
    · obtain ⟨⟨f', r⟩, hpolled⟩ := Option.isSome_iff_exists.1 (hpoll s.world)
      refine ⟨.poll i, ?_⟩
      simp only [act?, hstage, hpolled, Option.map_some]
      exact ⟨_, rfl⟩
    · obtain ⟨⟨f', r⟩, hanswered⟩ := Option.isSome_iff_exists.1
        (hanswer s.config.validator s.world.moment (.error .cancelled))
      refine ⟨.taskAnswered i (.error .cancelled), ?_⟩
      simp only [act?, hstage, admits, if_true, hanswered, Option.map_some]
      exact ⟨_, rfl⟩

/-- **A cancelled worker that has not left can do something**, without the network. -/
theorem exists_act? (hs : s.cancelled = true) (hlive : w.isLive = true)
    (hurl : ∀ m, w.stage = .resolving m → s.config.manifestUrl.isSome) :
    ∃ a t, w.act? s a = some t := by
  cases hstage : w.stage with
  | exited => simp [isLive, hstage] at hlive
  | spawned force =>
    refine ⟨.start, ?_⟩
    simp only [act?, hstage]
    split <;> exact ⟨_, rfl⟩
  | idle | awaiting =>
    refine ⟨.quit, ?_⟩
    simp only [act?, hstage, hs, if_true]
    exact ⟨_, rfl⟩
  | resolving m => exact exists_act?_of_resolving hstage (hurl m hstage)
  | fetching f => exact exists_act?_of_fetching hstage

/-- A worker that ends a refresh does not wait for a manifest. -/
theorem finish_not_resolving (w : Worker) (s : Surroundings) (heed : Bool) {m : Manifest} :
    (w.finish s heed).worker.stage ≠ .resolving m := by
  intro h
  rcases stage_finish w s heed with hstage | hstage <;> rw [hstage] at h <;> cases h

/-- A worker that begins to fetch does not wait for a manifest. -/
theorem fetchLists_not_resolving (w : Worker) (s : Surroundings) (heed : Bool) {m m' : Manifest} :
    (w.fetchLists s m heed).worker.stage ≠ .resolving m' := by
  unfold fetchLists
  split
  · exact finish_not_resolving w s heed
  · exact nofun

/-- A worker waits for a manifest only where one is configured. -/
theorem manifestUrl_of_check (w : Worker) (force : Bool) {m : Manifest}
    (h : (w.check s force).worker.stage = .resolving m) : s.config.manifestUrl.isSome := by
  have hcase := checkCase_check w s force
  generalize w.check s force = t at hcase h
  cases hcase with
  | cancelled | spared => cases h
  | fetches _ _ _ _ heq =>
    subst heq
    exact absurd h (fetchLists_not_resolving w _ true)
  | asks _ _ _ hurl =>
    rw [hurl]
    rfl

/-- A worker comes to wait for a manifest only where there is a URL for it. -/
theorem manifestUrl_of_act? {m : Manifest} (h : w.act? s a = some t)
    (hm : t.worker.stage = .resolving m) : s.config.manifestUrl.isSome := by
  cases step_of_act? h with
  | expire | quit | acknowledged | dropped | poll | taskAnswered => cases hm
  | start | tick => exact manifestUrl_of_check _ _ hm
  | manifestAnswered => exact absurd hm (fetchLists_not_resolving w _ _)
  | collect => exact absurd hm (finish_not_resolving w _ _)

end Worker

/-- One crew is another one in which a worker has gone on. -/
structure Crew.GoesOn (w : WorkerId) (k k' : Crew) : Prop where
  world : k.world.Refreshed k'.world
  clock : k'.clock = k.clock
  cancelled : k'.cancelled = k.cancelled
  others : ∀ j, j ≠ w → k'.workers[j]? = k.workers[j]?

/-- Going on twice is going on. -/
theorem Crew.GoesOn.trans {w : WorkerId} {k k' k'' : Crew} (h : k.GoesOn w k')
    (h' : k'.GoesOn w k'') : k.GoesOn w k'' where
  world := h.world.trans h'.world
  clock := h'.clock.trans h.clock
  cancelled := h'.cancelled.trans h.cancelled
  others j hj := (h'.others j hj).trans (h.others j hj)

namespace Engine

variable {c : Config} {e e' : Engine} {a : Action} {events : List Event} {id : CallId}
  {w : WorkerId} {v v' : Worker}

/-- Where a worker is after a step, it was before, unless it is new or has run. -/
theorem worker_of_step (hs : e.step? c a = some (e', events))
    (hv' : e'.crew.workers[w]? = some v') :
    (∃ force, v'.stage = .spawned force) ∨
      (∃ v, e.crew.workers[w]? = some v ∧ v.stage = v'.stage) ∨
      ∃ wa v t, a = .work w wa ∧ e.crew.workers[w]? = some v ∧
        v.act? ⟨c, e.crew.world, e.crew.clock, e.crew.isCancelled v, w⟩ wa = some t ∧
        v' = t.worker := by
  rcases still_or_act_of_step hs with ⟨hstill, -, -⟩ | ⟨j, wa, v, t, rfl, hv, ht, hcrew, -⟩
  -- Somebody else took the step, so the worker waits where it did, or is new.
  · have hstage' := Crew.stage?_of_getElem? hv'
    cases hstage : e.crew.stage? w with
    | none => exact .inl (hstill.new w _ hstage hstage')
    | some s =>
      obtain ⟨v, hv, rfl⟩ := Crew.exists_of_stage? hstage
      exact .inr (.inl ⟨v, hv, Option.some.inj ((hstill.stage? w _ hstage).symm.trans hstage')⟩)
  · rw [hcrew] at hv'
    by_cases hjw : j = w
    · subst hjw
      rw [List.getElem?_set_self (List.getElem?_eq_some_iff.1 hv).1] at hv'
      cases hv'
      exact .inr (.inr ⟨wa, v, t, rfl, hv, ht, rfl⟩)
    · rw [List.getElem?_set_ne hjw] at hv'
      exact .inr (.inl ⟨v', hv', rfl⟩)

/-- A worker waits for a manifest only where there is a URL for it. -/
theorem manifestUrl_of_reachable (hr : Reachable c e) {m : Manifest}
    (hv : e.crew.workers[w]? = some v) (hm : v.stage = .resolving m) : c.manifestUrl.isSome := by
  have hall : ∀ (w : WorkerId) (v : Worker) (m : Manifest), e.crew.workers[w]? = some v →
      v.stage = .resolving m → c.manifestUrl.isSome := by
    refine hr.invariant (P := fun e => ∀ (w : WorkerId) (v : Worker) (m : Manifest),
      e.crew.workers[w]? = some v → v.stage = .resolving m → c.manifestUrl.isSome)
      (fun _ _ _ _ _ hv => nomatch hv) fun e a e' events h hs w v' m hv' hm => ?_
    rcases worker_of_step hs hv' with ⟨force, hnew⟩ | ⟨v, hv, hstage⟩ | ⟨wa, v, t, -, -, ht, rfl⟩
    · cases hm.symm.trans hnew
    · exact h w v m hv (hstage.trans hm)
    · exact Worker.manifestUrl_of_act? ht hm
  exact hall w v m hv hm

/-- The promise that nothing happens but that a worker runs. -/
def Working (w : WorkerId) (_ : Engine) (a : Action) : Prop := ∃ wa, a = .work w wa

/-- **A worker that has been told to stop can leave by itself.** -/
theorem exists_departure {allowed : Engine → Action → Prop} (hr : Reachable c e)
    (hv : e.crew.workers[w]? = some v) (hstopped : v.stopped = true)
    (hok : ∀ (k : Crew) (wa : Worker.Action), e.crew.GoesOn w k →
      allowed { e with crew := k } (.work w wa)) :
    ∃ us k, Path c allowed e us { e with crew := k } ∧ k.isLive w = false ∧ e.crew.GoesOn w k := by
  -- By induction on what the worker has left to do: each of its steps leaves less.
  generalize hn : v.left = n
  induction n using Nat.strongRecOn generalizing e v with
  | ind n ih =>
    have hrefl : e.crew.GoesOn w e.crew := ⟨.refl _, rfl, rfl, fun _ _ => rfl⟩
    cases hlive : v.isLive with
    | false =>
      refine ⟨[], e.crew, .nil, ?_, hrefl⟩
      rw [Crew.isLive, hv, Option.any_some]
      exact hlive
    | true =>
      have hcancelled : e.crew.isCancelled v = true := by
        rw [Crew.isCancelled, hstopped, Bool.true_or]
      obtain ⟨wa, t, ht⟩ := Worker.exists_act? (w := v)
        (s := ⟨c, e.crew.world, e.crew.clock, e.crew.isCancelled v, w⟩) hcancelled hlive
        fun m hm => manifestUrl_of_reachable hr hv hm
      have hlt := Worker.left_lt_of_act? hcancelled ht
      have hlawful := Worker.lawful_of_act? ht
      let k : Crew :=
        { e.crew with world := t.world, workers := e.crew.workers.set w t.worker }
      have hs : e.step? c (.work w wa) = some ({ e with crew := k }, t.events) := step?_work hv ht
      have hgoes : e.crew.GoesOn w k :=
        ⟨hlawful.world, rfl, rfl, fun j hj => List.getElem?_set_ne (Ne.symm hj)⟩
      have hv' : k.workers[w]? = some t.worker :=
        List.getElem?_set_self (List.getElem?_eq_some_iff.1 hv).1
      obtain ⟨us, k', hpath, hleft, hgoes'⟩ := ih t.worker.left (hn ▸ hlt) (hr.step hs) hv'
        (hlawful.stopped.trans hstopped) (fun k' wa' hk' => hok k' wa' (hgoes.trans hk')) rfl
      exact ⟨_, k', hpath.cons (hok e.crew wa hrefl) hs, hleft, hgoes.trans hgoes'⟩

/-- A worker that a call waits for has been told to stop. -/
theorem stopped_of_joining {next : AfterLeave} (hc : Custody e)
    (hj : e.stage? id = some (.joining w next)) (hv : e.crew.workers[w]? = some v)
    (hlive : v.isLive = true) : v.stopped = true := by
  have hnone := (hc.joins id w next hj).2
  cases hstopped : v.stopped with
  | true => rfl
  | false =>
    have hruns : e.crew.runs w = true := by
      rw [Crew.runs, hv, Option.any_some, hlive, hstopped]
      rfl
    have hknown := ((hc.runs w).1 hruns).1
    rw [hnone] at hknown
    cases hknown

end Engine

end TokenCatalog
