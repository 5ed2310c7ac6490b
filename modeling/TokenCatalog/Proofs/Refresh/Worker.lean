import TokenCatalog.Refresh.Worker

namespace TokenCatalog

/-!
# Workers — what a step may touch, and when it goes over the network

* `Worker.Turn.Lawful` — what every step of a worker leaves as it was, and what its events say about
  its token and about the guard; `Worker.lawful_of_act?` proves it;
* `Worker.CheckCase`, `Worker.Step` — everything that a check and a step can be;
* `Worker.MayAsk` — a worker that can still send a request without looking at the guard again;
* `Worker.mute_of_act?` — while the guard is on, nobody else sends one or comes to be able to;
* `Worker.exists_request` — and such a worker can;
* `Worker.act?_start_forced` — a forced first check begins a refresh at once.
-/

/-! ### What a refresh writes -/

namespace World

/-- A world after a refresh: only the cached contents and the time of the last refresh differ. -/
structure Refreshed (w w' : World) : Prop where
  eq : w' = { w with contents := w'.contents, lastRefresh := w'.lastRefresh }

namespace Refreshed

theorem refl (w : World) : Refreshed w w := ⟨rfl⟩

/-- A world refreshed twice is refreshed. -/
theorem trans {w w' w'' : World} (h : Refreshed w w') (h' : Refreshed w' w'') :
    Refreshed w w'' := by
  constructor
  rw [h'.eq, h.eq]

/-- Writing a copy refreshes the world. -/
theorem write (w : World) (id : String) (c : Content) : Refreshed w (w.write id c) := by
  constructor
  unfold World.write
  split <;> rfl

/-- Noting the refresh time refreshes the world. -/
theorem recordRefresh (w : World) : Refreshed w w.recordRefresh := by
  constructor
  unfold World.recordRefresh
  split <;> rfl

/-- Writing many copies refreshes the world. -/
theorem writeAll (w : World) (contents : List (String × Content)) :
    Refreshed w (FanOut.writeAll w contents) := by
  induction contents generalizing w with
  | nil => exact refl w
  | cons p rest ih => exact (write w p.1 p.2).trans (ih _)

/-- Resolving the manifest refreshes the world. -/
theorem resolve (c : Config) (w : World) (url : String) (old : Manifest) (a : Answer) :
    Refreshed w (Manifest.resolve c w url old a).2 := by
  unfold Manifest.resolve
  split
  · exact write ..
  · exact refl w

/-- A refresh does not touch the guard. -/
theorem isPrivate?_eq {w w' : World} (h : Refreshed w w') : w'.isPrivate? = w.isPrivate? := by
  rw [h.eq]; rfl

/-- A refresh does not touch what makes the world offline. -/
theorem isOffline_eq {w w' : World} (h : Refreshed w w') : w'.isOffline = w.isOffline := by
  rw [isOffline, isOffline, h.isPrivate?_eq]

end Refreshed

/-- The world is online exactly when the guard is read as off. -/
theorem isOffline_eq_false_iff (w : World) : w.isOffline = false ↔ w.isPrivate? = some false := by
  unfold isOffline
  cases w.isPrivate? <;> simp

end World

namespace Worker

variable {w : Worker} {s : Surroundings} {t : Turn} {a : Action}

/-! ### What a step leaves as it was -/

namespace Turn

/-- A turn that sends nothing and begins nothing. -/
def IsMute (t : Turn) : Prop :=
  (∀ f r b, .requested f r b ∉ t.events) ∧ ∀ id, .refreshBegan id ∉ t.events

/-- A turn within the limits of a worker. -/
structure Lawful (w : Worker) (s : Surroundings) (t : Turn) : Prop where
  parent : t.worker.parent = w.parent
  stopped : t.worker.stopped = w.stopped
  world : s.world.Refreshed t.world
  /-- A request is issued under the worker's token, and on its behalf. -/
  requested : ∀ f r b, .requested f r b ∈ t.events → b = s.cancelled ∧ f.worker = s.id
  /-- A refresh begins only while the guard is known to be off. -/
  began : ∀ id, .refreshBegan id ∈ t.events → s.world.isPrivate? = some false ∧ id = s.id

/-- A worker that asks nothing and keeps its token and its order to stop is lawful. -/
theorem IsMute.lawful (h : t.IsMute) (hp : t.worker.parent = w.parent)
    (hs : t.worker.stopped = w.stopped) (hw : s.world.Refreshed t.world) : Lawful w s t :=
  ⟨hp, hs, hw, fun f r b hm => absurd hm (h.1 f r b), fun id hm => absurd hm (h.2 id)⟩

/-- A turn without events is mute. -/
theorem isMute_nil (w : Worker) (world : World) : IsMute ⟨w, world, []⟩ := by
  constructor <;> simp

end Turn

/-- The end of a refresh asks nothing. -/
theorem finish_isMute (w : Worker) (s : Surroundings) (heed : Bool) : (w.finish s heed).IsMute := by
  constructor <;> simp [finish]

/-- The end of a refresh is lawful. -/
theorem finish_lawful (w : Worker) (s : Surroundings) (heed : Bool) :
    (w.finish s heed).Lawful w s := by
  refine (finish_isMute w s heed).lawful ?_ ?_ (.recordRefresh s.world)
  · simp only [finish]
    split <;> rfl
  · simp only [finish]
    split <;> rfl

/-- A worker that begins to fetch has not asked yet: its tasks ask when they are polled. -/
theorem fetchLists_isMute (w : Worker) (s : Surroundings) (m : Manifest) (heed : Bool) :
    (w.fetchLists s m heed).IsMute := by
  unfold fetchLists
  split
  · exact finish_isMute w s heed
  · exact Turn.isMute_nil ..

/-- A worker that begins to fetch is lawful. -/
theorem fetchLists_lawful (w : Worker) (s : Surroundings) (m : Manifest) (heed : Bool) :
    (w.fetchLists s m heed).Lawful w s := by
  unfold fetchLists
  split
  · exact finish_lawful w s heed
  · exact (Turn.isMute_nil _ _).lawful rfl rfl (.refl _)

/-! ### What a check can come to -/

/-- Everything a check can come to, with what must hold for it. -/
inductive CheckCase (w : Worker) (s : Surroundings) (force : Bool) : Turn → Prop
  | cancelled (cancelled : s.cancelled = true) : CheckCase w s force ⟨w.exit, s.world, []⟩
  /-- The guard is on or cannot be read, or no refresh is due. -/
  | spared (uncancelled : s.cancelled = false)
      (spared : s.world.isOffline = true ∨ force = false ∧ isDue s.config s.world = false) :
      CheckCase w s force ⟨{ w with stage := .idle }, s.world, []⟩
  /-- A refresh begins, and there is no manifest to ask for. -/
  | fetches {t : Turn} (uncancelled : s.cancelled = false) (online : s.world.isOffline = false)
      (due : force = true ∨ isDue s.config s.world = true)
      (manifestUrl : s.config.manifestUrl = none)
      (eq : t = w.fetchLists s (Manifest.fallback s.config s.world) true) :
      CheckCase w s force { t with events := .refreshBegan s.id :: t.events }
  /-- A refresh begins, and asks for the manifest. -/
  | asks {url : String} (uncancelled : s.cancelled = false) (online : s.world.isOffline = false)
      (due : force = true ∨ isDue s.config s.world = true)
      (manifestUrl : s.config.manifestUrl = some url) :
      CheckCase w s force
        ⟨{ w with stage := .resolving (Manifest.fallback s.config s.world) }, s.world,
          [.refreshBegan s.id,
            .requested (.manifest s.id) (Manifest.request s.config s.world url) s.cancelled]⟩

/-- A check is one of the cases of a check. -/
theorem checkCase_check (w : Worker) (s : Surroundings) (force : Bool) :
    CheckCase w s force (w.check s force) := by
  unfold check
  split
  · exact .cancelled ‹_›
  · rename_i hcancelled
    -- A check first asks for cancellation, then for privacy and time.
    have huncancelled : s.cancelled = false := Bool.eq_false_iff.2 hcancelled
    split
    · rename_i hspared
      exact .spared huncancelled (by simpa using hspared)
    · rename_i hbegins
      obtain ⟨honline, hdue⟩ : s.world.isOffline = false ∧
          (force = true ∨ isDue s.config s.world = true) := by
        simpa [Classical.or_iff_not_imp_left] using hbegins
      unfold refresh
      split
      · exact .fetches huncancelled honline hdue ‹_› rfl
      · exact .asks huncancelled honline hdue ‹_›

/-- A check is lawful. -/
theorem check_lawful (w : Worker) (s : Surroundings) (force : Bool) :
    (w.check s force).Lawful w s := by
  have hcase := checkCase_check w s force
  generalize w.check s force = t at hcase ⊢
  cases hcase with
  -- Only a refresh that begins may ask anything.
  | cancelled | spared => exact (Turn.isMute_nil _ _).lawful rfl rfl (.refl _)
  | fetches _ honline _ _ heq =>
    subst heq
    obtain ⟨hparent, hstopped, hworld, -, -⟩ :=
      fetchLists_lawful w s (Manifest.fallback s.config s.world) true
    have hmute := fetchLists_isMute w s (Manifest.fallback s.config s.world) true
    refine ⟨hparent, hstopped, hworld, fun f r b hm => ?_, fun id hm => ?_⟩
    · exact absurd hm (by simpa using hmute.1 f r b)
    · rcases List.mem_cons.1 hm with hid | hm
      · exact ⟨s.world.isOffline_eq_false_iff.1 honline, Event.refreshBegan.inj hid⟩
      · exact absurd hm (hmute.2 id)
  | asks _ honline =>
    refine ⟨rfl, rfl, .refl _, fun f r b hm => ?_, fun id hm => ?_⟩
    · obtain ⟨rfl, rfl, rfl⟩ : f = _ ∧ r = _ ∧ b = _ := by simpa using hm
      exact ⟨rfl, rfl⟩
    · exact ⟨s.world.isOffline_eq_false_iff.1 honline, by simpa using hm⟩

/-- Offline, a check asks nothing, and the worker leaves or sleeps. -/
theorem check_of_isOffline (w : Worker) (force : Bool) (h : s.world.isOffline = true) :
    (w.check s force).IsMute ∧ ((w.check s force).worker.stage = .exited ∨
      (w.check s force).worker.stage = .idle) := by
  have hcase := checkCase_check w s force
  generalize w.check s force = t at hcase ⊢
  cases hcase with
  | cancelled => exact ⟨Turn.isMute_nil .., .inl rfl⟩
  | spared => exact ⟨Turn.isMute_nil .., .inr rfl⟩
  | fetches _ honline | asks _ honline => cases h.symm.trans honline

/-! ### What a step can be -/

/-- The turn that hands a manifest's answer to a worker. -/
def manifestTurn (w : Worker) (s : Surroundings) (url : String) (fallback : Manifest) (a : Answer)
    (heed : Bool) : Turn :=
  let (m, world) := Manifest.resolve s.config s.world url fallback a
  let t := w.fetchLists { s with world } m heed
  { t with
    events := (Manifest.fresh? s.config s.world url a).toList.map (fun (_, content) =>
      wrote s.world ContentStore.manifestId content) ++ t.events }

/-- The turn that writes what the tasks of a worker have brought. -/
def collectTurn (w : Worker) (s : Surroundings) (f : FanOut) (heed : Bool) : Turn :=
  let t := w.finish { s with world := (f.persist s.world).1 } heed
  { t with events := f.arrived.map (fun (id, content) => wrote s.world id content) ++ t.events }

/-- Everything a step can be, with what must hold for it. -/
inductive Step (w : Worker) (s : Surroundings) : Action → Turn → Prop
  | expire {force : Bool} (stage : w.stage = .spawned force)
      (late : instantLimit ≤ s.clock + s.config.checkInterval.nanoseconds) :
      Step w s .start ⟨w.exit, s.world, []⟩
  | start {force : Bool} (stage : w.stage = .spawned force)
      (early : s.clock + s.config.checkInterval.nanoseconds < instantLimit) :
      Step w s .start
        ({ w with nextTick := s.clock + s.config.checkInterval.nanoseconds }.check s force)
  | tick (stage : w.stage = .idle) (due : w.nextTick ≤ s.clock) :
      Step w s .tick
        ({ w with
            nextTick := tickAfter w.nextTick s.clock s.config.checkInterval.nanoseconds }.check s
          false)
  | quit (stage : w.stage = .idle ∨ w.stage = .awaiting) (cancelled : s.cancelled = true) :
      Step w s .quit ⟨w.exit, s.world, []⟩
  | acknowledged (stage : w.stage = .awaiting) (handover : w.handover = .acknowledged) :
      Step w s .resume ⟨{ w with stage := .idle, handover := .none }, s.world, []⟩
  | dropped (stage : w.stage = .awaiting) (handover : w.handover = .dropped) :
      Step w s .resume ⟨w.exit, s.world, []⟩
  | manifestAnswered {fallback : Manifest} {url : String} {a : Answer} {heed : Bool}
      (stage : w.stage = .resolving fallback) (manifestUrl : s.config.manifestUrl = some url)
      (admitted : admits s.cancelled a = true) :
      Step w s (.manifestAnswered a heed) (w.manifestTurn s url fallback a heed)
  | poll {f f' : FanOut} {index : Nat} {r : Request} (stage : w.stage = .fetching f)
      (polled : f.poll? index s.world = some (f', r)) :
      Step w s (.poll index)
        ⟨{ w with stage := .fetching f' }, s.world, [taskRequest s index r]⟩
  | taskAnswered {f f' : FanOut} {index : Nat} {a : Answer} {r : Option Request}
      (stage : w.stage = .fetching f) (admitted : admits s.cancelled a = true)
      (answered : f.answer? index s.config.validator s.world.moment a = some (f', r)) :
      Step w s (.taskAnswered index a)
        ⟨{ w with stage := .fetching f' }, s.world, r.toList.map (taskRequest s index)⟩
  | collect {f : FanOut} {heed : Bool} (stage : w.stage = .fetching f)
      (finished : f.isFinished = true) : Step w s (.collect heed) (w.collectTurn s f heed)

/-- A worker's step is one of its steps. -/
theorem step_of_act? (h : w.act? s a = some t) : Step w s a t := by
  dsimp only [act?] at h
  -- The stages and the actions that go with them, in the order of the definition.
  split at h <;> rename_i hstage
  · split at h <;> cases h
    · exact .expire hstage ‹_›
    · exact .start hstage (Nat.lt_of_not_le ‹_›)
  · split at h <;> cases h
    exact .tick hstage ‹_›
  · split at h <;> cases h
    exact .quit (.inl hstage) ‹_›
  · split at h <;> cases h
    exact .quit (.inr hstage) ‹_›
  · split at h <;> cases h
    · exact .acknowledged hstage ‹_›
    · exact .dropped hstage ‹_›
  · split at h
    · cases h
    · split at h <;> cases h
      exact .manifestAnswered hstage ‹_› ‹_›
  · obtain ⟨⟨f', r⟩, hpoll, rfl⟩ := Option.map_eq_some_iff.1 h
    exact .poll hstage hpoll
  · split at h
    · obtain ⟨⟨f', r⟩, hanswer, rfl⟩ := Option.map_eq_some_iff.1 h
      exact .taskAnswered hstage ‹_› hanswer
    · cases h
  · split at h <;> cases h
    exact .collect hstage ‹_›
  · cases h

/-- A worker that has not run yet can do nothing but begin. -/
theorem eq_start_of_act? {force : Bool} (hstage : w.stage = .spawned force)
    (h : w.act? s a = some t) : a = .start := by
  cases step_of_act? h with
  | expire | start => rfl
  | tick hother | acknowledged hother | dropped hother | manifestAnswered hother | poll hother
  | taskAnswered hother | collect hother =>
    rw [hstage] at hother
    cases hother
  | quit hother =>
    rw [hstage] at hother
    rcases hother with hother | hother <;> cases hother

/-- Only a live worker takes steps. -/
theorem isLive_of_act? (h : w.act? s a = some t) : w.isLive = true := by
  have hlive : w.stage ≠ .exited := by
    intro hexit
    cases step_of_act? h <;> simp_all
  simpa [isLive] using hlive

/-- A task's event is its request. -/
theorem mem_map_taskRequest {index : Nat} {r : Option Request} {e : Event}
    (h : e ∈ r.toList.map (taskRequest s index)) :
    ∃ q, r = some q ∧ e = .requested (.task s.id index) q s.cancelled := by
  obtain ⟨q, hq, rfl⟩ := List.mem_map.1 h
  exact ⟨q, Option.mem_toList.1 hq, rfl⟩

/-- Writing copies first does not make a turn less mute. -/
theorem isMute_append {ws es : List Event} {world : World}
    (hw : ∀ e ∈ ws, ∃ id c ok, e = .wrote id c ok)
    (h : Turn.IsMute ⟨w, world, es⟩) : Turn.IsMute ⟨w, world, ws ++ es⟩ := by
  refine ⟨fun f r b hm => ?_, fun id hm => ?_⟩
  · rcases List.mem_append.1 hm with hm | hm
    · obtain ⟨_, _, _, he⟩ := hw _ hm
      cases he
    · exact h.1 f r b hm
  · rcases List.mem_append.1 hm with hm | hm
    · obtain ⟨_, _, _, he⟩ := hw _ hm
      cases he
    · exact h.2 id hm

/-- A turn on the manifest's answer asks nothing. -/
theorem manifestTurn_isMute (w : Worker) (s : Surroundings) (url : String) (fallback : Manifest)
    (a : Answer) (heed : Bool) : (w.manifestTurn s url fallback a heed).IsMute := by
  -- What it has written comes before what the lists bring.
  refine isMute_append (fun e he => ?_) (fetchLists_isMute w _ _ heed)
  obtain ⟨⟨_, content⟩, _, rfl⟩ := List.mem_map.1 he
  exact ⟨_, _, _, rfl⟩

/-- A worker that collects asks nothing. -/
theorem collectTurn_isMute (w : Worker) (s : Surroundings) (f : FanOut) (heed : Bool) :
    (w.collectTurn s f heed).IsMute := by
  refine isMute_append (fun e he => ?_) (finish_isMute w _ heed)
  obtain ⟨⟨id, content⟩, _, rfl⟩ := List.mem_map.1 he
  exact ⟨_, _, _, rfl⟩

/-- **Every step is lawful.** -/
theorem lawful_of_act? (h : w.act? s a = some t) : t.Lawful w s := by
  -- Each step either is mute or sends the one request of a task.
  cases step_of_act? h with
  | expire | quit | acknowledged | dropped =>
    exact (Turn.isMute_nil _ _).lawful rfl rfl (.refl _)
  | start | tick =>
    obtain ⟨hparent, hstopped, hworld, hreq, hbegan⟩ := check_lawful { w with nextTick := _ } s _
    exact ⟨hparent, hstopped, hworld, hreq, hbegan⟩
  | @manifestAnswered fallback url a heed =>
    obtain ⟨hparent, hstopped, hworld, -, -⟩ := fetchLists_lawful w
      { s with world := (Manifest.resolve s.config s.world url fallback a).2 }
      (Manifest.resolve s.config s.world url fallback a).1 heed
    exact (manifestTurn_isMute w s url fallback a heed).lawful hparent hstopped
      ((World.Refreshed.resolve s.config s.world url fallback a).trans hworld)
  | poll =>
    refine ⟨rfl, rfl, .refl _, fun f r b hm => ?_, fun id hm => ?_⟩
    · obtain ⟨rfl, rfl, rfl⟩ : f = _ ∧ r = _ ∧ b = _ := by simpa [taskRequest] using hm
      exact ⟨rfl, rfl⟩
    · simp [taskRequest] at hm
  | taskAnswered =>
    refine ⟨rfl, rfl, .refl _, fun f r b hm => ?_, fun id hm => ?_⟩
    · obtain ⟨q, -, he⟩ := mem_map_taskRequest hm
      cases he
      exact ⟨rfl, rfl⟩
    · obtain ⟨q, -, he⟩ := mem_map_taskRequest hm
      cases he
  | @collect f heed =>
    obtain ⟨hparent, hstopped, hworld, -, -⟩ := finish_lawful w
      { s with world := (f.persist s.world).1 } heed
    exact (collectTurn_isMute w s f heed).lawful hparent hstopped
      ((World.Refreshed.writeAll s.world f.arrived).trans hworld)

end Worker

/-! ### Who can still ask -/

namespace FanOut

/-- A task that may still send a request. -/
def Task.MayAsk (t : Task) : Prop :=
  t.stage = .ready ∨ (t.stage = .fetchingList ∧ t.entry.schema?.isSome)

/-- One of the tasks may still send a request. -/
def MayAsk (f : FanOut) : Prop := ∃ (index : Nat) (t : Task), f.tasks[index]? = some t ∧ t.MayAsk

/-- A fan-out over some entries may still ask. -/
theorem mayAsk_ofEntries {es : List Manifest.Entry} (h : es ≠ []) : (ofEntries es).MayAsk := by
  obtain ⟨e, rest, rfl⟩ := List.exists_cons_of_ne_nil h
  exact ⟨0, { entry := e }, rfl, .inl rfl⟩

/-- A fan-out that may not ask any more is not polled to ask. -/
theorem poll?_eq_none {f : FanOut} {index : Nat} {w : World} (h : ¬ f.MayAsk) :
    f.poll? index w = none := by
  unfold poll?
  split
  · rename_i e ht
    exact absurd ⟨index, _, ht, .inl rfl⟩ h
  · rfl

/-- Finishing a task does not make a fan-out ask again. -/
theorem not_mayAsk_setStage {f : FanOut} {index : Nat} (h : ¬ f.MayAsk) :
    ¬ (f.setStage index .finished).MayAsk := by
  rintro ⟨i, t, ht, hask⟩
  rw [setStage, List.getElem?_modify] at ht
  obtain ⟨t', ht', rfl⟩ := Option.map_eq_some_iff.1 ht
  by_cases hi : index = i
  · rw [if_pos hi] at hask
    rcases hask with hready | ⟨hfetching, -⟩
    · cases hready
    · cases hfetching
  · rw [if_neg hi] at hask
    exact h ⟨i, t', ht', hask⟩

/-- Where no task may ask, an answer does not make one ask. -/
theorem answer?_of_not_mayAsk {f f' : FanOut} {index : Nat} {v : Validator} {now : Moment}
    {a : Answer} {r : Option Request} (h : ¬ f.MayAsk)
    (ha : f.answer? index v now a = some (f', r)) : r = none ∧ ¬ f'.MayAsk := by
  unfold answer? at ha
  split at ha
  · rename_i e ht
    -- A task that waits for its list has no schema to ask for.
    have hschema : e.schema? = none := by
      rw [Option.eq_none_iff_forall_ne_some]
      exact fun url hurl => h ⟨index, _, ht, .inr ⟨rfl, by simp [hurl]⟩⟩
    split at ha
    · rw [hschema] at ha
      cases ha
      exact ⟨rfl, not_mayAsk_setStage h⟩
    · cases ha
      exact ⟨rfl, not_mayAsk_setStage h⟩
  · split at ha
    · split at ha <;> cases ha <;> exact ⟨rfl, not_mayAsk_setStage h⟩
    · cases ha
      exact ⟨rfl, not_mayAsk_setStage h⟩
  · cases ha

end FanOut

namespace Worker

variable {w : Worker} {s : Surroundings} {t : Turn} {a : Action} {c : Config}

/-- A worker that may send a request without looking at the guard again, were its token not
    cancelled. -/
def MayAsk (c : Config) (w : Worker) : Prop :=
  match w.stage with
  | .resolving fallback =>
    c.manifestUrl.isSome ∧ (fallback.entries ≠ [] ∨
      ∃ raw m, Manifest.decode? c.validator raw = some m ∧ m.entries ≠ [])
  | .fetching f => f.MayAsk
  | _ => False

/-- A refresh that has ended leaves a worker that waits for its consumer, or none. -/
theorem stage_finish (w : Worker) (s : Surroundings) (heed : Bool) :
    (w.finish s heed).worker.stage = .exited ∨ (w.finish s heed).worker.stage = .awaiting := by
  simp only [finish]
  split
  · exact .inl rfl
  · cases s.cancelled
    · exact .inr rfl
    · exact .inl rfl

/-- A worker that ends a refresh may not ask any more. -/
theorem not_mayAsk_finish (w : Worker) (s : Surroundings) (heed : Bool) :
    ¬ (w.finish s heed).worker.MayAsk c := by
  rcases stage_finish w s heed with h | h <;> simp [MayAsk, h]

/-- A worker with nothing to fetch may not ask any more. -/
theorem not_mayAsk_fetchLists (w : Worker) {m : Manifest} (heed : Bool) (h : m.entries = []) :
    ¬ (w.fetchLists s m heed).worker.MayAsk c := by
  rw [fetchLists, if_pos h]
  exact not_mayAsk_finish w s heed

/-- A manifest that an answer leads to is the old one, or one that the validator lets pass. -/
theorem resolve_fst (c : Config) (w : World) (url : String) (old : Manifest) (a : Answer) :
    (Manifest.resolve c w url old a).1 = old ∨
      ∃ raw, Manifest.decode? c.validator raw = some (Manifest.resolve c w url old a).1 := by
  unfold Manifest.resolve
  split
  · rename_i m content hfresh
    unfold Manifest.fresh? at hfresh
    split at hfresh
    · rename_i body etag
      obtain ⟨m', hm', he⟩ := Option.map_eq_some_iff.1 hfresh
      cases he
      exact .inr ⟨body, hm'⟩
    · cases hfresh
  · exact .inl rfl

/-- **Privacy keeps silent.**  While the guard is on, a worker that may not ask sends nothing,
    begins nothing, and still may not ask. -/
theorem mute_of_act? (hoff : s.world.isOffline = true) (hw : ¬ w.MayAsk s.config)
    (h : w.act? s a = some t) : t.IsMute ∧ ¬ t.worker.MayAsk s.config := by
  cases step_of_act? h with
  | expire | quit | acknowledged | dropped =>
    exact ⟨Turn.isMute_nil .., by simp [MayAsk, exit]⟩
  | start | tick =>
    obtain ⟨hmute, hstage⟩ := check_of_isOffline { w with nextTick := _ } _ hoff
    refine ⟨hmute, ?_⟩
    rcases hstage with h | h <;> simp [MayAsk, h]
  | @manifestAnswered fallback url a heed hstage hurl _ =>
    refine ⟨manifestTurn_isMute w s url fallback a heed, ?_⟩
    -- Neither the old manifest nor any that could come in an answer has entries.
    simp only [MayAsk, hstage, hurl, Option.isSome_some, true_and, not_or, not_exists] at hw
    obtain ⟨hfallback, hnone⟩ := hw
    have hentries : (Manifest.resolve s.config s.world url fallback a).1.entries = [] := by
      rcases resolve_fst s.config s.world url fallback a with hold | ⟨raw, hraw⟩
      · rw [hold]
        exact Classical.not_not.1 hfallback
      · exact Classical.not_not.1 fun hm => hnone raw _ ⟨hraw, hm⟩
    exact not_mayAsk_fetchLists w heed hentries
  | @poll f f' index r hstage hpoll =>
    have hf : ¬ f.MayAsk := by simpa [MayAsk, hstage] using hw
    rw [FanOut.poll?_eq_none hf] at hpoll
    cases hpoll
  | @taskAnswered f f' index a r hstage _ hanswer =>
    have hf : ¬ f.MayAsk := by simpa [MayAsk, hstage] using hw
    obtain ⟨rfl, hf'⟩ := FanOut.answer?_of_not_mayAsk hf hanswer
    exact ⟨Turn.isMute_nil .., hf'⟩
  | @collect f heed =>
    exact ⟨collectTurn_isMute w s f heed, not_mayAsk_finish w _ heed⟩

/-- A task that may ask does so with one answer at most. -/
theorem exists_request (hstage : ∃ f, w.stage = .fetching f ∧ f.MayAsk)
    (hs : s.cancelled = false) :
    ∃ a t f r, w.act? s a = some t ∧ .requested f r false ∈ t.events := by
  obtain ⟨f, hf, index, task, htask, hask⟩ := hstage
  -- A task asks when it is polled, or when its list has come and it has a schema.
  rcases hask with hready | ⟨hfetching, hschema⟩
  · obtain ⟨e, stage⟩ := task
    cases hready
    have hact : w.act? s (.poll index) =
        some ⟨{ w with stage := .fetching (f.setStage index .fetchingList) }, s.world,
          [taskRequest s index ⟨e.sourceUrl, s.world.etagOf e.id⟩]⟩ := by
      simp only [act?, hf, FanOut.poll?, htask, Option.map_some]
    refine ⟨_, _, .task s.id index, ⟨e.sourceUrl, s.world.etagOf e.id⟩, hact, ?_⟩
    rw [taskRequest, hs]
    exact List.mem_singleton_self _
  · obtain ⟨e, stage⟩ := task
    cases hfetching
    obtain ⟨url, hurl⟩ := Option.isSome_iff_exists.1 hschema
    have hact : w.act? s (.taskAnswered index (.ok ⟨some [], ""⟩)) =
        some ⟨{ w with stage := .fetching (f.setStage index (.fetchingSchema [] "")) }, s.world,
          [taskRequest s index ⟨url, ""⟩]⟩ := by
      simp [act?, hf, FanOut.answer?, htask, hs, admits, hurl]
    refine ⟨_, _, .task s.id index, ⟨url, ""⟩, hact, ?_⟩
    rw [taskRequest, hs]
    exact List.mem_singleton_self _

/-- A worker that waits for a manifest comes, with the right answer, to tasks that may ask. -/
theorem exists_fetching {fallback : Manifest} (hstage : w.stage = .resolving fallback)
    (hask : w.MayAsk s.config) (hs : s.cancelled = false) :
    ∃ a t f, w.act? s a = some t ∧ t.worker.stage = .fetching f ∧ f.MayAsk := by
  simp only [MayAsk, hstage] at hask
  obtain ⟨hurl, hentries⟩ := hask
  obtain ⟨url, hurl⟩ := Option.isSome_iff_exists.1 hurl
  -- The answer that brings the manifest with entries, or no answer if the old one has some.
  obtain ⟨a, ha, hm⟩ : ∃ a, admits false a = true ∧
      (Manifest.resolve s.config s.world url fallback a).1.entries ≠ [] := by
    rcases hentries with hold | ⟨raw, m, hraw, hm⟩
    · exact ⟨.error .failed, rfl, hold⟩
    · refine ⟨.ok ⟨some raw, ""⟩, rfl, ?_⟩
      simpa [Manifest.resolve, Manifest.fresh?, hraw] using hm
  refine ⟨.manifestAnswered a true, w.manifestTurn s url fallback a true, _, ?_, ?_,
    FanOut.mayAsk_ofEntries hm⟩
  · rw [← hs] at ha
    simp only [act?, hstage, hurl, ha, ↓reduceIte]
    rfl
  · simp only [manifestTurn, fetchLists, if_neg hm]

/-! ### Forced checks -/

/-- **A forced check begins a refresh at once**, whatever the time of the last one. -/
theorem act?_start_forced (hstage : w.stage = .spawned true) (hs : s.cancelled = false)
    (hclock : s.clock + s.config.checkInterval.nanoseconds < instantLimit)
    (hoff : s.world.isOffline = false) :
    ∃ t, w.act? s .start = some t ∧ .refreshBegan s.id ∈ t.events ∧
      ∀ url, s.config.manifestUrl = some url →
        .requested (.manifest s.id) (Manifest.request s.config s.world url) false ∈ t.events := by
  have hact : w.act? s .start =
      some ({ w with nextTick := s.clock + s.config.checkInterval.nanoseconds }.refresh s) := by
    simp [act?, hstage, Nat.not_le.2 hclock, check, hs, hoff]
  refine ⟨_, hact, ?_, fun url hurl => ?_⟩
  · unfold refresh
    split <;> exact List.mem_cons_self
  · simp [refresh, hurl, hs]

end Worker

end TokenCatalog
