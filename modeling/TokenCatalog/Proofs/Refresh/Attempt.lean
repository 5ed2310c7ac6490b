import TokenCatalog.Proofs.Refresh.Cycle

namespace TokenCatalog

/-!
# Attempts — a refresh from the check that lets it pass to the time that is noted

A refresh that a check has let pass comes to its end in one way only: its manifest is resolved, all
its tasks finish, what they have brought is written, and the time is noted.  It does not matter
whether anything is answered, whether stores fail, whether the guard is turned on or the worker
cancelled meanwhile.

* `Worker.Passes` — a check that finds nothing in the way of a refresh;
* `Worker.Opening`, `Worker.Attempt`, `Worker.Concluded` — how it begins, goes on and ends;
* `Worker.Onward` — what a step makes of it; `Worker.onward_of_began` and `Worker.Attempt.onward`;
* `Worker.still_of_act?` — every other step leaves the world as it is.
-/

namespace World

variable (w : World)

/-- Writing a copy does not touch the time of the last refresh. -/
@[simp] theorem lastRefresh_write (id : String) (c : Content) :
    (w.write id c).lastRefresh = w.lastRefresh := by
  unfold write
  split <;> rfl

/-- Writing many copies does not touch the time of the last refresh. -/
theorem lastRefresh_writeAll (contents : List (String × Content)) :
    (FanOut.writeAll w contents).lastRefresh = w.lastRefresh := by
  induction contents generalizing w with
  | nil => rfl
  | cons p rest ih => exact (ih (w.write p.1 p.2)).trans (w.lastRefresh_write p.1 p.2)

/-- Resolving the manifest does not touch the time of the last refresh. -/
theorem lastRefresh_resolve (c : Config) (url : String) (old : Manifest) (a : Answer) :
    (Manifest.resolve c w url old a).2.lastRefresh = w.lastRefresh := by
  unfold Manifest.resolve
  split
  · exact w.lastRefresh_write _ _
  · rfl

/-- The time of the last refresh is noted, if that does not fail. -/
theorem lastRefresh_recordRefresh :
    w.recordRefresh.lastRefresh =
      if !w.fails .writeRefreshTime then w.now else w.lastRefresh := by
  unfold recordRefresh
  cases w.fails .writeRefreshTime <;> rfl

namespace Refreshed

variable {w} {w' : World}

/-- A refresh does not touch the clock. -/
theorem now_eq (h : Refreshed w w') : w'.now = w.now := by
  rw [h.eq]

/-- A refresh does not change which operations fail. -/
theorem fails_eq (h : Refreshed w w') (o : Operation) : w'.fails o = w.fails o := by
  rw [h.eq]
  rfl

end Refreshed

end World

/-- Whether an event is no note of the time of a refresh. -/
def Event.IsUntimed : Event → Prop
  | .refreshRecorded .. => False
  | _ => True

namespace Worker

variable {c : Config} {id : WorkerId} {v : Worker} {s : Surroundings} {t : Turn} {a : Action}
  {acts first more : List Act} {events : List Event} {m : Manifest} {w : World}

/-! ### Checks -/

/-- Whether an action makes a worker check whether a refresh is due. -/
def Action.Checks : Action → Prop
  | .start | .tick => True
  | _ => False

/-- A worker checks whether a refresh is due, and nothing is in the way of one: the worker is not
    cancelled, the guard is known to be off, and the interval is over unless the check is forced. -/
inductive Passes (v : Worker) (s : Surroundings) : Action → Prop
  | first {force : Bool} (stage : v.stage = .spawned force)
      (early : s.clock + s.config.checkInterval.nanoseconds < instantLimit)
      (uncancelled : s.cancelled = false) (online : s.world.isPrivate? = some false)
      (due : force = true ∨ isDue s.config s.world = true) : Passes v s .start
  | later (stage : v.stage = .idle) (ticks : v.nextTick ≤ s.clock)
      (uncancelled : s.cancelled = false) (online : s.world.isPrivate? = some false)
      (due : isDue s.config s.world = true) : Passes v s .tick

/-- A check begins a refresh if and only if nothing is in the way of one. -/
theorem began_check_iff (v : Worker) (s : Surroundings) (force : Bool) :
    .refreshBegan s.id ∈ (v.check s force).events ↔
      s.cancelled = false ∧ s.world.isPrivate? = some false ∧
        (force = true ∨ isDue s.config s.world = true) := by
  rw [← World.isOffline_eq_false_iff]
  have hcase := checkCase_check v s force
  generalize v.check s force = t at hcase ⊢
  cases hcase with
  | cancelled hyes =>
    refine ⟨fun hb => absurd hb List.not_mem_nil, ?_⟩
    rintro ⟨hno, -⟩
    cases hyes.symm.trans hno
  | spared _ hspared =>
    refine ⟨fun hb => absurd hb List.not_mem_nil, ?_⟩
    -- A check that is spared was offline, or neither forced nor due.
    rintro ⟨-, honline, hdue⟩
    rcases hspared with hoff | ⟨hforce, hnot⟩
    · cases hoff.symm.trans honline
    · rcases hdue with hdue | hdue
      · cases hforce.symm.trans hdue
      · cases hnot.symm.trans hdue
  | fetches huncancelled honline hdue | asks huncancelled honline hdue =>
    exact ⟨fun _ => ⟨huncancelled, honline, hdue⟩, fun _ => List.mem_cons_self⟩

/-- **A refresh begins exactly where a check passes the guard and the interval.** -/
theorem began_iff_passes (h : v.act? s a = some t) :
    .refreshBegan s.id ∈ t.events ↔ v.Passes s a := by
  cases step_of_act? h with
  -- An interval the clock cannot hold ends the worker before any check.
  | expire _ hlate =>
    refine ⟨fun hb => absurd hb List.not_mem_nil, fun hp => ?_⟩
    cases hp with
    | first _ hearly => exact absurd hearly (Nat.not_lt.2 hlate)
  | quit | acknowledged | dropped =>
    exact ⟨fun hb => absurd hb List.not_mem_nil, nofun⟩
  | @start force hstage hearly =>
    rw [began_check_iff]
    constructor
    · rintro ⟨huncancelled, honline, hdue⟩
      exact .first hstage hearly huncancelled honline hdue
    · intro hp
      cases hp with
      | first hstage' _ huncancelled honline hdue =>
        cases hstage.symm.trans hstage'
        exact ⟨huncancelled, honline, hdue⟩
  | tick hstage hticks =>
    rw [began_check_iff]
    constructor
    · rintro ⟨huncancelled, honline, hdue⟩
      exact .later hstage hticks huncancelled honline (hdue.resolve_left Bool.false_ne_true)
    · intro hp
      cases hp with
      | later _ _ huncancelled honline hdue => exact ⟨huncancelled, honline, .inr hdue⟩
  -- A refresh that is under way does not begin another one.
  | manifestAnswered => exact ⟨fun hb => absurd hb ((manifestTurn_isMute ..).2 _), nofun⟩
  | poll =>
    refine ⟨fun hb => ?_, nofun⟩
    cases List.mem_singleton.1 hb
  | taskAnswered =>
    refine ⟨fun hb => ?_, nofun⟩
    obtain ⟨q, -, he⟩ := mem_map_taskRequest hb
    cases he
  | collect => exact ⟨fun hb => absurd hb ((collectTurn_isMute ..).2 _), nofun⟩

/-! ### From the beginning to the end -/

/-- How an attempt comes by its manifest: what its worker does for that, what others see of the last
    of it, the manifest, and the world that is left. -/
inductive Opening (c : Config) (id : WorkerId) :
    List Act → List Event → Manifest → World → Prop
  /-- There is no URL for it, and the cached one is used. -/
  | kept {w : World} {a : Action} (manifestUrl : c.manifestUrl = none) (checks : a.Checks) :
      Opening c id [⟨w, a⟩] [.refreshBegan id] (Manifest.fallback c w) w
  /-- It is asked for, and the answer has come, whatever it is. -/
  | answered {w w' : World} {a : Action} {url : String} {reply : Answer} {heed : Bool}
      (manifestUrl : c.manifestUrl = some url) (checks : a.Checks) :
      Opening c id [⟨w, a⟩, ⟨w', .manifestAnswered reply heed⟩]
        ((Manifest.fresh? c w' url reply).toList.map fun (_, content) =>
          wrote w' ContentStore.manifestId content)
        (Manifest.resolve c w' url (Manifest.fallback c w) reply).1
        (Manifest.resolve c w' url (Manifest.fallback c w) reply).2

/-- An attempt as far as it has come: what its worker has done since the check, and where it
    waits. -/
inductive Attempt (c : Config) (id : WorkerId) : List Act → Stage → Prop
  | asking {w : World} {a : Action} {url : String} (manifestUrl : c.manifestUrl = some url)
      (checks : a.Checks) : Attempt c id [⟨w, a⟩] (.resolving (Manifest.fallback c w))
  | fetching {first more : List Act} {events : List Event} {m : Manifest} {w : World}
      {ms : List FanOut.Move} {rs : List (Nat × Request)} {f : FanOut}
      (opening : Opening c id first events m w) (moves : more.map Act.move? = ms.map some)
      (run : FanOut.Run c.validator m.entries ms rs f) :
      Attempt c id (first ++ more) (.fetching f)

/-- A whole attempt: what its worker has done since the check, what others see of the last of it,
    and the world that is left for the time to be noted in. -/
inductive Concluded (c : Config) (id : WorkerId) : List Act → List Event → World → Prop
  /-- The manifest announces no lists. -/
  | unlisted {acts : List Act} {events : List Event} {m : Manifest} {w : World}
      (opening : Opening c id acts events m w) (unlisted : m.entries = []) :
      Concluded c id acts events w
  /-- Every task of the manifest has finished, and what has arrived has been written, unless that
      failed. -/
  | listed {first more : List Act} {opening : List Event} {m : Manifest} {w w' : World}
      {ms : List FanOut.Move} {rs : List (Nat × Request)} {f : FanOut} {heed : Bool}
      (opened : Opening c id first opening m w) (moves : more.map Act.move? = ms.map some)
      (run : FanOut.Run c.validator m.entries ms rs f) (finished : f.isFinished = true)
      (outcome : FanOut.Outcome c.validator m.entries ms w' (f.persist w')) :
      Concluded c id (first ++ more ++ [⟨w', .collect heed⟩]) (FanOut.seen w' f.arrived)
        (f.persist w').1

/-- In the manifest a refresh opens with the ids are distinct. -/
theorem Opening.nodup (h : Opening c id first events m w) : (m.entries.map (·.id)).Nodup := by
  cases h with
  | kept => exact Manifest.nodup_fallback c w
  | @answered u => exact Manifest.nodup_resolve (Manifest.nodup_fallback c u) c _ _ _

/-- The opening of a refresh notes no time. -/
theorem Opening.untimed (h : Opening c id first events m w) : ∀ ev ∈ events, ev.IsUntimed := by
  intro ev hev
  cases h with
  | kept =>
    rw [List.mem_singleton.1 hev]
    exact trivial
  | answered =>
    obtain ⟨_, -, rfl⟩ := List.mem_map.1 hev
    exact trivial

/-- Writing copies notes no time. -/
theorem untimed_seen (w : World) (contents : List (String × Content)) :
    ∀ ev ∈ FanOut.seen w contents, ev.IsUntimed := by
  intro ev hev
  obtain ⟨_, -, rfl⟩ := List.mem_map.1 hev
  exact trivial

/-- Until its end a refresh notes no time. -/
theorem Concluded.untimed (h : Concluded c id acts events w) : ∀ ev ∈ events, ev.IsUntimed := by
  cases h with
  | unlisted hopening => exact hopening.untimed
  | listed => exact untimed_seen _ _

/-! ### One step -/

/-- What a step makes of an attempt: it goes on, or it is over and the time is noted last. -/
inductive Onward (s : Surroundings) (acts : List Act) (t : Turn) : Prop
  | goesOn (attempt : Attempt s.config s.id acts t.worker.stage)
      (untimed : ∀ ev ∈ t.events, ev.IsUntimed)
      (lastRefresh : t.world.lastRefresh = s.world.lastRefresh)
  | ends {events : List Event} {w : World} (concluded : Concluded s.config s.id acts events w)
      (refreshed : s.world.Refreshed w) (lastRefresh : w.lastRefresh = s.world.lastRefresh)
      (events_eq : t.events = events ++
        [.refreshRecorded s.id w.now (!w.fails .writeRefreshTime)])
      (world : t.world = w.recordRefresh)

/-- What a worker leaves that has got its manifest; without lists there is nothing to wait for. -/
theorem Opening.onward (h : Opening s.config s.id first events m w)
    (hrefreshed : s.world.Refreshed w) (hlast : w.lastRefresh = s.world.lastRefresh) (v : Worker)
    (heed : Bool) :
    Onward s first { v.fetchLists { s with world := w } m heed with
      events := events ++ (v.fetchLists { s with world := w } m heed).events } := by
  unfold fetchLists
  split
  · rename_i hnone
    exact .ends (.unlisted h hnone) hrefreshed hlast rfl rfl
  · have hbegin : FanOut.Run s.config.validator m.entries [] [] (.ofEntries m.entries) := .begin
    have hattempt : Attempt s.config s.id (first ++ []) (.fetching (.ofEntries m.entries)) :=
      .fetching h rfl hbegin
    rw [List.append_nil] at hattempt
    refine .goesOn hattempt ?_ hlast
    show ∀ ev ∈ events ++ [], ev.IsUntimed
    rw [List.append_nil]
    exact h.untimed

/-- A check in which a refresh begins goes on to that refresh. -/
theorem onward_check {force : Bool} (hb : .refreshBegan s.id ∈ (v.check s force).events)
    (ha : a.Checks) : Onward s [⟨s.world, a⟩] (v.check s force) := by
  have hcase := checkCase_check v s force
  generalize v.check s force = t at hcase hb ⊢
  cases hcase with
  | cancelled | spared => exact absurd hb List.not_mem_nil
  | fetches _ _ _ hurl heq =>
    subst heq
    exact Opening.onward (.kept hurl ha) (.refl _) rfl v true
  | asks _ _ _ hurl =>
    refine .goesOn (.asking hurl ha) (fun ev hev => ?_) rfl
    rcases List.mem_cons.1 hev with rfl | hev
    · exact trivial
    · rw [List.mem_singleton.1 hev]
      exact trivial

/-- **A check that passes begins an attempt.** -/
theorem onward_of_began (h : v.act? s a = some t) (hb : .refreshBegan s.id ∈ t.events) :
    Onward s [⟨s.world, a⟩] t := by
  cases (began_iff_passes h).1 hb with
  | first =>
    cases step_of_act? h with
    | expire => exact absurd hb List.not_mem_nil
    | start => exact onward_check hb trivial
  | later =>
    cases step_of_act? h with
    | tick => exact onward_check hb trivial

namespace Attempt

variable {f f' : FanOut} {i : Nat} {q : Request} {r : Option Request} {reply : Answer}

/-- The manifest comes, or does not. -/
theorem resolve {fallback : Manifest} {url : String}
    (h : Attempt s.config s.id acts (.resolving fallback))
    (hurl : s.config.manifestUrl = some url) (v : Worker) (heed : Bool) :
    Onward s (acts ++ [⟨s.world, .manifestAnswered reply heed⟩])
      (v.manifestTurn s url fallback reply heed) := by
  cases h with
  | asking _ hchecks =>
    exact Opening.onward (.answered hurl hchecks) (.resolve ..)
      (World.lastRefresh_resolve s.world s.config url _ reply) v heed

/-- A task asks for its list. -/
theorem poll (h : Attempt s.config s.id acts (.fetching f))
    (hpolled : f.poll? i s.world = some (f', q)) :
    Attempt s.config s.id (acts ++ [⟨s.world, .poll i⟩]) (.fetching f') := by
  cases h with
  | fetching hopening hmoves hrun =>
    rw [List.append_assoc]
    refine .fetching hopening ?_ (hrun.poll hpolled)
    rw [List.map_append, List.map_append, hmoves]
    rfl

/-- A task is answered, and may ask for its schema. -/
theorem answer (h : Attempt s.config s.id acts (.fetching f))
    (hanswered : f.answer? i s.config.validator s.world.moment reply = some (f', r)) :
    Attempt s.config s.id (acts ++ [⟨s.world, .taskAnswered i reply⟩]) (.fetching f') := by
  cases h with
  | fetching hopening hmoves hrun =>
    rw [List.append_assoc]
    refine .fetching hopening ?_ (hrun.answer hanswered)
    rw [List.map_append, List.map_append, hmoves]
    rfl

/-- Every task has finished, and what has arrived is written. -/
theorem collect (h : Attempt s.config s.id acts (.fetching f)) (hfinished : f.isFinished = true)
    (v : Worker) (heed : Bool) :
    Onward s (acts ++ [⟨s.world, .collect heed⟩]) (v.collectTurn s f heed) := by
  cases h with
  | fetching hopening hmoves hrun =>
    have houtcome :=
      FanOut.outcome_of_sound hopening.nodup (FanOut.sound_of_run hrun) s.world
    exact .ends (.listed hopening hmoves hrun hfinished houtcome) (.writeAll s.world f.arrived)
      (s.world.lastRefresh_writeAll f.arrived) rfl rfl

/-- **An attempt goes on, or comes to its end**, whatever its worker does and finds. -/
theorem onward (h : Attempt s.config s.id acts v.stage) (ht : v.act? s a = some t) :
    Onward s (acts ++ [⟨s.world, a⟩]) t := by
  cases step_of_act? ht with
  -- These are not steps of a refresh under way.
  | expire hother | start hother | tick hother | acknowledged hother | dropped hother =>
    rw [hother] at h
    cases h
  | quit hother => rcases hother with hother | hother <;> rw [hother] at h <;> cases h
  | manifestAnswered hresolving hurl =>
    rw [hresolving] at h
    exact h.resolve hurl v _
  | poll hfetching hpolled =>
    rw [hfetching] at h
    refine .goesOn (h.poll hpolled) (fun ev hev => ?_) rfl
    rw [List.mem_singleton.1 hev]
    exact trivial
  | taskAnswered hfetching _ hanswered =>
    rw [hfetching] at h
    refine .goesOn (h.answer hanswered) (fun ev hev => ?_) rfl
    obtain ⟨q, -, rfl⟩ := mem_map_taskRequest hev
    exact trivial
  | collect hfetching hfinished =>
    rw [hfetching] at h
    exact h.collect hfinished v _

end Attempt

/-- **Nothing else is noted.**  A worker that has no refresh under way and begins none leaves the
    world as it is, and others see nothing of it. -/
theorem still_of_act? (h : v.act? s a = some t)
    (hresolving : ∀ m, v.stage ≠ .resolving m) (hfetching : ∀ f, v.stage ≠ .fetching f)
    (hb : .refreshBegan s.id ∉ t.events) : t.world = s.world ∧ t.events = [] := by
  have hcheck : ∀ {u : Worker} {force : Bool}, .refreshBegan s.id ∉ (u.check s force).events →
      (u.check s force).world = s.world ∧ (u.check s force).events = [] := by
    intro u force hb
    have hcase := checkCase_check u s force
    generalize u.check s force = t at hcase hb ⊢
    cases hcase with
    | cancelled | spared => exact ⟨rfl, rfl⟩
    | fetches | asks => exact absurd List.mem_cons_self hb
  cases step_of_act? h with
  | expire | quit | acknowledged | dropped => exact ⟨rfl, rfl⟩
  | start | tick => exact hcheck hb
  | manifestAnswered hstage => exact absurd hstage (hresolving _)
  | poll hstage | taskAnswered hstage | collect hstage => exact absurd hstage (hfetching _)

end Worker

end TokenCatalog
