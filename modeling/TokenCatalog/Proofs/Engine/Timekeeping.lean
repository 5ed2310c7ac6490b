import TokenCatalog.Proofs.Engine.Backpressure
import TokenCatalog.Proofs.Engine.Stopping
import TokenCatalog.Proofs.Refresh.Attempt

namespace TokenCatalog

/-!
# Timekeeping — every refresh that begins is noted once, when it is over

The time of the last refresh is written in one place only.  Every refresh that a check has let pass
comes there once, after all its fetches and writes, whether any of them succeeded and whether or not
its worker has been cancelled; calls, listeners and checks that are spared never do.

* `actsOf` — what one worker does in a run;
* `Since`, `Ledger` — a refresh under way, and that no other one has been begun and not noted;
* `Ending` — the step in which a time is noted, with the whole refresh that it ends;
* `timeCase_of_step` — what a step makes of the time of the last refresh;
* `inevitable_of_reachable` — a refresh that is under way comes to its end;
* `Timekeeping`, `time_is_kept` — the whole account of a run.
-/

/-! ### Events -/

/-- News note no time. -/
theorem Event.untimed_of_isNews {ev : Event} (h : ev.IsNews) : ev.IsUntimed := by
  cases ev with
  | published | notified | received => exact trivial
  | refreshBegan | requested | wrote | refreshRecorded => exact h.elim

/-- Where no time is noted no refresh is completed. -/
theorem Event.countP_isRecordOf_of_untimed {events : List Event} (w : WorkerId)
    (h : ∀ ev ∈ events, ev.IsUntimed) : events.countP (·.isRecordOf w) = 0 := by
  refine List.countP_eq_zero.2 fun ev hev hrecord => ?_
  have huntimed := h ev hev
  cases ev with
  | refreshRecorded => exact huntimed
  | refreshBegan | requested | wrote | published | notified | received => cases hrecord

/-- Where only the last event notes a time, whatever is noted is that. -/
theorem Event.eq_of_mem_noted {events : List Event} {i w : WorkerId} {time time' : Int64}
    {ok ok' : Bool} (huntimed : ∀ ev ∈ events, ev.IsUntimed)
    (h : .refreshRecorded i time ok ∈ events ++ [.refreshRecorded w time' ok']) :
    i = w ∧ time = time' ∧ ok = ok' := by
  rcases List.mem_append.1 h with h | h
  · exact (huntimed _ h).elim
  · cases List.mem_singleton.1 h
    exact ⟨rfl, rfl, rfl⟩

/-- A milestone among events is one of the worker's milestones. -/
theorem Event.mem_milestones {ev : Event} {w : WorkerId} {events : List Event} (hev : ev ∈ events)
    (hm : ev.isMilestoneOf w = true) : ev ∈ milestones w events :=
  List.mem_filter.2 ⟨hev, hm⟩

namespace Worker

variable {v v' : Worker} {w : WorkerId} {ms : List Event}

/-- An attempt that is going on is a refresh under way. -/
theorem Attempt.isRefreshing {c : Config} {acts : List Act} {stage : Stage}
    (h : Attempt c w acts stage) : stage.isRefreshing = true := by
  cases h <;> rfl

/-- A worker that has a refresh under way begins none. -/
theorem Pace.count_of_isRefreshing (h : v.Pace v' w ms) (hs : v.stage.isRefreshing = true) :
    ms.count (.refreshBegan w) = 0 := by
  cases h with
  | goesOn | concludes => rfl
  | rests hstage | begins hstage | completes hstage =>
    cases hv : v.stage <;> simp [hv, Stage.isResting, Stage.isRefreshing] at hs hstage
  | leaves hstage | acknowledged hstage => simp [hstage, Stage.isRefreshing] at hs

/-- A worker that begins a refresh begins one. -/
theorem Pace.count_of_began (h : v.Pace v' w ms) (hb : .refreshBegan w ∈ ms) :
    ms.count (.refreshBegan w) = 1 := by
  cases h with
  | begins | completes => simp
  | concludes => cases List.mem_singleton.1 hb
  | rests | goesOn | leaves | acknowledged => cases hb

/-- A worker that begins no refresh and has none under way has none then. -/
theorem Pace.not_isRefreshing (h : v.Pace v' w []) (hs : v.stage.isRefreshing = false) :
    v'.stage.isRefreshing = false := by
  cases h with
  | rests _ hstage' =>
    rcases hstage' with hstage' | hstage'
    · cases hv : v'.stage <;> simp [hv, Stage.isResting, Stage.isRefreshing] at hstage' ⊢
    · rw [hstage']
      rfl
  | goesOn hstage =>
    rw [hs] at hstage
    cases hstage
  | leaves _ hstage' =>
    rw [hstage']
    rfl
  | acknowledged _ _ hstage' =>
    rw [hstage']
    rfl

/-- A worker that notes the time of a refresh has none under way then. -/
theorem Pace.not_isRefreshing_of_noted {time : Int64} {ok : Bool} (h : v.Pace v' w ms)
    (hr : .refreshRecorded w time ok ∈ ms) : v'.stage.isRefreshing = false := by
  have hended : v.Outcome v' → v'.stage.isRefreshing = false := by
    intro houtcome
    cases houtcome with
    | lost hstage =>
      rw [hstage]
      rfl
    | offered hstage => rcases hstage with hstage | hstage <;> rw [hstage] <;> rfl
  cases h with
  | completes _ houtcome | concludes _ houtcome => exact hended houtcome
  | begins => cases List.mem_singleton.1 hr
  | rests | goesOn | leaves | acknowledged => cases hr

/-- **Whatever a worker does while a refresh is under way brings it nearer to its end.** -/
theorem nearer_of_act? {s : Surroundings} {t : Turn} {a : Action}
    (hs : v.stage.isRefreshing = true) (h : v.act? s a = some t) :
    Nearer t.worker.stage.ahead v.stage.ahead := by
  cases step_of_act? h with
  -- These are not steps of a refresh under way.
  | expire hother | start hother | tick hother | acknowledged hother | dropped hother =>
    rw [hother] at hs
    cases hs
  | quit hother => rcases hother with hother | hother <;> rw [hother] at hs <;> cases hs
  | manifestAnswered hresolving =>
    rw [hresolving]
    exact ahead_fetchLists v _ _ _ (Nat.lt_add_one 1)
  | poll hfetching hpolled =>
    rw [hfetching]
    exact .right _ (FanOut.left_lt_of_poll? hpolled)
  | taskAnswered hfetching _ hanswered =>
    rw [hfetching]
    exact .right _ (FanOut.left_lt_of_answer? hanswered)
  | @collect f heed hfetching =>
    -- Collecting ends the refresh, whatever was fetched.
    have hend : (v.collectTurn s f heed).worker.stage.ahead = (0, 0) := ahead_finish ..
    rw [hfetching, hend]
    exact .left _ _ Nat.one_pos

/-- And there is always something that it can do, cancelled or not, without the network. -/
theorem exists_act?_of_isRefreshing {s : Surroundings} (hs : v.stage.isRefreshing = true)
    (hurl : ∀ m, v.stage = .resolving m → s.config.manifestUrl.isSome) :
    ∃ a t, v.act? s a = some t := by
  cases hstage : v.stage with
  | resolving m => exact exists_act?_of_resolving hstage (hurl m hstage)
  | fetching f => exact exists_act?_of_fetching hstage
  | spawned | idle | awaiting | exited =>
    rw [hstage] at hs
    cases hs

end Worker

/-! ### Crews -/

namespace Crew

variable {k k' : Crew} {w : WorkerId}

/-- Whether a refresh is under way can be read off where the worker waits. -/
theorem isRefreshing_eq (k : Crew) (w : WorkerId) :
    k.isRefreshing w = (k.stage? w).any Worker.Stage.isRefreshing := by
  rw [isRefreshing, stage?, Option.any_map]

/-- A worker that waits there has a refresh under way if that stage says so. -/
theorem isRefreshing_of_stage? {s : Worker.Stage} (h : k.stage? w = some s) :
    k.isRefreshing w = s.isRefreshing := by
  rw [isRefreshing_eq, h]
  rfl

/-- Where no worker runs, none begins or ends a refresh. -/
theorem Still.isRefreshing_eq (h : Still k k') (w : WorkerId) :
    k'.isRefreshing w = k.isRefreshing w := by
  cases hstage : k.stage? w with
  | some s => rw [isRefreshing_of_stage? (h.stage? w s hstage), isRefreshing_of_stage? hstage]
  | none =>
    rw [Crew.isRefreshing_eq, Crew.isRefreshing_eq k, hstage]
    cases hstage' : k'.stage? w with
    | none => rfl
    | some s =>
      obtain ⟨force, rfl⟩ := h.new w s hstage hstage'
      rfl

end Crew

namespace Engine

variable {c : Config} {allowed : Engine → Action → Prop} {start e e' : Engine} {a : Action}
  {events : List Event} {w i : WorkerId} {ts us vs : List Transition} {b t : Transition}
  {v : Worker} {wa : Worker.Action} {turn : Worker.Turn} {time : Int64} {ok : Bool}

/-! ### What one worker does -/

/-- What a given worker does in a step. -/
def Transition.actOf? (w : WorkerId) (t : Transition) : Option Worker.Act :=
  match t.action with
  | .work i a => if i = w then some ⟨t.before.crew.world, a⟩ else none
  | _ => none

/-- What a given worker has done in a run. -/
def actsOf (w : WorkerId) (ts : List Transition) : List Worker.Act := ts.filterMap (·.actOf? w)

/-- One step more adds what the worker does in it. -/
theorem actsOf_snoc (w : WorkerId) (ts : List Transition) (t : Transition) :
    actsOf w (ts ++ [t]) = actsOf w ts ++ (t.actOf? w).toList := by
  rw [actsOf, List.filterMap_append, actsOf, List.filterMap_cons, List.filterMap_nil]
  cases t.actOf? w <;> rfl

/-- In a step a worker checks whether a refresh is due, and nothing is in the way of one. -/
def Transition.Passes (c : Config) (w : WorkerId) (t : Transition) : Prop :=
  ∃ v a, t.action = .work w a ∧ t.before.crew.workers[w]? = some v ∧
    v.Passes ⟨c, t.before.crew.world, t.before.crew.clock, t.before.crew.isCancelled v, w⟩ a

/-- A worker runs, or others do, and then it waits where it did. -/
theorem stage?_of_step {s : Worker.Stage} (hs : e.step? c a = some (e', events))
    (hstage : e.crew.stage? w = some s) (ha : ∀ wa, a ≠ .work w wa) :
    e'.crew.stage? w = some s := by
  rcases still_or_act_of_step hs with ⟨hstill, -, -⟩ | ⟨i, wa, v, turn, rfl, hv, -, hcrew, -⟩
  · exact hstill.stage? w s hstage
  · have hi : i ≠ w := by
      rintro rfl
      exact ha wa rfl
    rw [Crew.stage?_of_turn hv hcrew, if_neg hi]
    exact hstage

/-- **A refresh begins exactly where a check passes the guard and the interval.** -/
theorem began_iff_passes (hs : e.step? c a = some (e', events)) :
    .refreshBegan w ∈ events ↔ Transition.Passes c w ⟨e, a, e', events⟩ := by
  constructor
  · intro hb
    rcases still_or_act_of_step hs with ⟨-, hnews, -⟩ | ⟨i, wa, v, turn, rfl, hv, ht, -, rfl⟩
    · exact (hnews _ hb).elim
    · obtain rfl : w = i := ((Worker.lawful_of_act? ht).began w hb).2
      exact ⟨v, wa, rfl, hv, (Worker.began_iff_passes ht).1 hb⟩
  · rintro ⟨v, wa, ha, hv, hpasses⟩
    obtain rfl : a = .work w wa := ha
    obtain ⟨v', turn, hv', ht, -, rfl⟩ := exists_turn_of_step hs
    cases hv.symm.trans hv'
    exact (Worker.began_iff_passes ht).2 hpasses

/-! ### Refreshes under way -/

/-- In a run, a worker begins a refresh in a step, all that it began before having been noted, and
    it has begun no other one since. -/
structure Since (w : WorkerId) (us : List Transition) (b : Transition) (vs : List Transition) :
    Prop where
  settled : begun w us = completed w us
  began : .refreshBegan w ∈ b.events
  once : begun w (b :: vs) = 1

/-- All refreshes of a worker have been noted, or all but the one that is under way. -/
inductive Ledger (c : Config) (w : WorkerId) : List Transition → Engine → Prop
  | rests {ts : List Transition} {e : Engine} (resting : e.crew.isRefreshing w = false)
      (settled : begun w ts = completed w ts) : Ledger c w ts e
  | refreshes {us vs : List Transition} {b : Transition} {s : Worker.Stage} {e : Engine}
      (stage : e.crew.stage? w = some s) (since : Since w us b vs)
      (unnoted : completed w (b :: vs) = 0)
      (attempt : Worker.Attempt c w (actsOf w (b :: vs)) s) : Ledger c w (us ++ b :: vs) e

/-- A step, after others, in which a worker notes the time of a refresh. -/
structure Ending (c : Config) (w : WorkerId) (us : List Transition) (t : Transition) (time : Int64)
    (ok : Bool) : Prop where
  /-- It is the last step of one whole refresh, and the last that is seen of that. -/
  attempt : ∃ ws b vs events world, us ++ [t] = ws ++ b :: vs ∧ Since w ws b vs ∧
    completed w (b :: vs) = 1 ∧ Worker.Concluded c w (actsOf w (b :: vs)) events world ∧
    t.events = events ++ [.refreshRecorded w time ok] ∧ t.after.crew.world = world.recordRefresh
  action : ∃ a, t.action = .work w a
  /-- The clock on the wall is read then. -/
  time_eq : time = t.before.crew.world.now
  ok_eq : ok = !t.before.crew.world.fails .writeRefreshTime
  stored : t.after.crew.world.lastRefresh = if ok then time else t.before.crew.world.lastRefresh
  now : t.after.crew.world.now = t.before.crew.world.now

/-- What is begun in two runs is begun in one after the other. -/
theorem begun_append (w : WorkerId) (ts us : List Transition) :
    begun w (ts ++ us) = begun w ts + begun w us := by
  rw [begun, List.flatMap_append, List.count_append]
  rfl

/-- What is completed in two runs is completed in one after the other. -/
theorem completed_append (w : WorkerId) (ts us : List Transition) :
    completed w (ts ++ us) = completed w ts + completed w us := by
  rw [completed, List.flatMap_append, List.countP_append]
  rfl

/-- A step in which a worker begins and ends no refresh does not count. -/
theorem counts_of_quiet (h : Event.milestones w t.events = []) (ts : List Transition) :
    begun w (ts ++ [t]) = begun w ts ∧ completed w (ts ++ [t]) = completed w ts := by
  rw [begun_snoc, completed_snoc, Event.count_began, Event.countP_isRecordOf, h]
  exact ⟨rfl, rfl⟩

/-- **As many refreshes are noted as begun**, but for the one that is under way. -/
theorem Ledger.balance (h : Ledger c w ts e) :
    begun w ts = completed w ts + if e.crew.isRefreshing w then 1 else 0 := by
  cases h with
  | rests hresting hsettled =>
    rw [hresting]
    exact hsettled
  | refreshes hstage hsince hunnoted hattempt =>
    rw [Crew.isRefreshing_of_stage? hstage, hattempt.isRefreshing, begun_append, completed_append,
      hsince.settled, hsince.once, hunnoted]
    rfl

/-- Others leave a worker's refresh as it is. -/
theorem Ledger.others (h : Ledger c w ts t.before) (hquiet : Event.milestones w t.events = [])
    (hact : t.actOf? w = none)
    (hstage : ∀ s, t.before.crew.stage? w = some s → t.after.crew.stage? w = some s)
    (hrefreshing : t.after.crew.isRefreshing w = t.before.crew.isRefreshing w) :
    Ledger c w (ts ++ [t]) t.after := by
  -- The step neither begins nor completes a refresh of this worker.
  obtain ⟨hbegun, hcompleted⟩ := counts_of_quiet hquiet ts
  generalize hbefore : t.before = e at h hstage hrefreshing
  cases h with
  | rests hresting hsettled =>
    exact .rests (hrefreshing.trans hresting) (by rw [hbegun, hcompleted, hsettled])
  | @refreshes us vs b s _ hs hsince hunnoted hattempt =>
    obtain ⟨hbegun', hcompleted'⟩ := counts_of_quiet hquiet (b :: vs)
    have hacts : actsOf w (b :: vs ++ [t]) = actsOf w (b :: vs) := by
      rw [actsOf_snoc, hact]
      exact List.append_nil _
    have hsince' : Since w us b (vs ++ [t]) :=
      ⟨hsince.settled, hsince.began, hbegun'.trans hsince.once⟩
    rw [List.append_assoc]
    exact .refreshes (hstage s hs) hsince' (hcompleted'.trans hunnoted) (hacts ▸ hattempt)

/-! ### One step -/

/-- What a worker that runs does for its refreshes: nothing, or something for the one that is under
    way. -/
inductive Stride (c : Config) (w : WorkerId) (ts : List Transition) (t : Transition)
    (s : Worker.Surroundings) (turn : Worker.Turn) : Prop
  | rests (world : turn.world = s.world) (events : turn.events = [])
      (resting : turn.worker.stage.isRefreshing = false)
      (settled : begun w ts = completed w ts)
  | works {us vs : List Transition} {b : Transition} (cut : ts ++ [t] = us ++ b :: vs)
      (since : Since w us b vs) (unnoted : completed w (b :: vs) =
        t.events.countP (·.isRecordOf w))
      (onward : Worker.Onward s (actsOf w (b :: vs)) turn)

/-- **Whatever a worker does, it does for the refresh that is under way**, or the books are
    closed. -/
theorem Ledger.stride (h : Ledger c w ts e) (hv : e.crew.workers[w]? = some v)
    (ht : v.act? ⟨c, e.crew.world, e.crew.clock, e.crew.isCancelled v, w⟩ wa = some turn)
    (e' : Engine) :
    Stride c w ts ⟨e, .work w wa, e', turn.events⟩
      ⟨c, e.crew.world, e.crew.clock, e.crew.isCancelled v, w⟩ turn := by
  have hpace := Worker.pace_of_act? ht
  have hstage := Crew.stage?_of_getElem? hv
  have hact : Transition.actOf? w ⟨e, .work w wa, e', turn.events⟩ = some ⟨e.crew.world, wa⟩ :=
    if_pos rfl
  cases h with
  | rests hresting hsettled =>
    have hidle : v.stage.isRefreshing = false :=
      (Crew.isRefreshing_of_stage? hstage).symm.trans hresting
    by_cases hb : .refreshBegan w ∈ turn.events
    · -- The refresh has begun in this very step.
      have hone := hpace.count_of_began (Event.mem_milestones hb (decide_eq_true rfl))
      rw [← Event.count_began] at hone
      have hsince : Since w ts ⟨e, .work w wa, e', turn.events⟩ [] :=
        ⟨hsettled, hb, (begun_snoc w [] _).trans ((Nat.zero_add _).trans hone)⟩
      refine .works rfl hsince ?_ ?_
      · exact (completed_snoc w [] _).trans (Nat.zero_add _)
      · have honward := Worker.onward_of_began ht hb
        have hacts : actsOf w [(⟨e, .work w wa, e', turn.events⟩ : Transition)] =
            [⟨e.crew.world, wa⟩] := (actsOf_snoc w [] _).trans (by rw [hact]; rfl)
        rw [hacts]
        exact honward
    -- Nothing has begun, so the worker has done nothing that matters here.
    · obtain ⟨hworld, hevents⟩ := Worker.still_of_act? ht
        (fun m hm => by rw [hm] at hidle; cases hidle)
        (fun f hf => by rw [hf] at hidle; cases hidle) hb
      rw [hevents] at hpace
      exact .rests hworld hevents (hpace.not_isRefreshing hidle) hsettled
  | @refreshes us vs b s _ hs hsince hunnoted hattempt =>
    obtain rfl : v.stage = s := Option.some.inj (hstage.symm.trans hs)
    -- A refresh is under way, so the worker does not begin another one.
    have hnone := hpace.count_of_isRefreshing hattempt.isRefreshing
    rw [← Event.count_began] at hnone
    have hsince' : Since w us b (vs ++ [⟨e, .work w wa, e', turn.events⟩]) :=
      ⟨hsince.settled, hsince.began,
        (begun_snoc w (b :: vs) _).trans (by rw [hnone, hsince.once])⟩
    have hcut : us ++ b :: vs ++ [(⟨e, .work w wa, e', turn.events⟩ : Transition)] =
        us ++ b :: (vs ++ [⟨e, .work w wa, e', turn.events⟩]) := List.append_assoc ..
    refine .works hcut hsince' ?_ ?_
    · exact (completed_snoc w (b :: vs) _).trans (by rw [hunnoted, Nat.zero_add])
    · have hacts : actsOf w (b :: vs ++ [(⟨e, .work w wa, e', turn.events⟩ : Transition)]) =
          actsOf w (b :: vs) ++ [⟨e.crew.world, wa⟩] := by
        rw [actsOf_snoc, hact]
        rfl
      have honward := hattempt.onward ht
      rw [← List.cons_append, hacts]
      exact honward

/-- What is noted at the end of a refresh is one time. -/
theorem countP_of_noted (w : WorkerId) (time : Int64) (ok : Bool)
    (huntimed : ∀ ev ∈ events, ev.IsUntimed) :
    (events ++ [Event.refreshRecorded w time ok]).countP (·.isRecordOf w) = 1 := by
  rw [List.countP_append, Event.countP_isRecordOf_of_untimed w huntimed]
  simp [Event.isRecordOf]

/-- A worker's step keeps its ledger: it goes on with its refresh, or notes it. -/
theorem Ledger.act (h : Ledger c w ts e) (hv : e.crew.workers[w]? = some v)
    (ht : v.act? ⟨c, e.crew.world, e.crew.clock, e.crew.isCancelled v, w⟩ wa = some turn)
    (hcrew : e'.crew =
      { e.crew with world := turn.world, workers := e.crew.workers.set w turn.worker }) :
    Ledger c w (ts ++ [⟨e, .work w wa, e', turn.events⟩]) e' := by
  have hstage : e'.crew.stage? w = some turn.worker.stage :=
    (Crew.stage?_of_turn hv hcrew w).trans (if_pos rfl)
  cases h.stride hv ht e' with
  | rests _ hevents hresting hsettled =>
    refine .rests ((Crew.isRefreshing_of_stage? hstage).trans hresting) ?_
    rw [begun_snoc, completed_snoc, hevents, hsettled]
    rfl
  | works hcut hsince hunnoted honward =>
    cases honward with
    | goesOn hattempt huntimed =>
      rw [hcut]
      -- Nothing has been noted, so that the refresh is still the one under way.
      rw [Event.countP_isRecordOf_of_untimed w huntimed] at hunnoted
      exact .refreshes hstage hsince hunnoted hattempt
    | @ends _ world hconcluded _ _ hevents =>
      have hcount := countP_of_noted w world.now (!world.fails .writeRefreshTime) hconcluded.untimed
      have hnoted : .refreshRecorded w world.now (!world.fails .writeRefreshTime) ∈
          turn.events := by
        rw [hevents]
        exact List.mem_append_right _ (List.mem_singleton_self _)
      have hmilestone := Event.mem_milestones (w := w) hnoted (decide_eq_true rfl)
      rw [← hevents] at hcount
      refine .rests ((Crew.isRefreshing_of_stage? hstage).trans
        ((Worker.pace_of_act? ht).not_isRefreshing_of_noted hmilestone)) ?_
      rw [hcut, begun_append, completed_append, hsince.settled, hsince.once, hunnoted]
      exact congrArg _ hcount.symm

/-- **Every step keeps the books of every worker.** -/
theorem Ledger.step (h : Ledger c w ts e) (hs : e.step? c a = some (e', events)) :
    Ledger c w (ts ++ [⟨e, a, e', events⟩]) e' := by
  rcases still_or_act_of_step hs with
    ⟨hstill, hnews, -, hidle⟩ | ⟨i, wa, v, turn, rfl, hv, ht, hcrew, rfl⟩
  -- Somebody other than a worker has taken the step.
  · have hact : Transition.actOf? w ⟨e, a, e', events⟩ = none := by
      unfold Transition.actOf?
      split
      · rename_i i wa hwork
        exact absurd hwork (hidle i wa)
      · rfl
    exact h.others (Event.milestones_of_isNews hnews) hact (hstill.stage? w)
      (hstill.isRefreshing_eq w)
  · by_cases hi : i = w
    · subst hi
      exact h.act hv ht hcrew
    · have hstage : e'.crew.stage? w = e.crew.stage? w :=
        (Crew.stage?_of_turn hv hcrew w).trans (if_neg hi)
      refine h.others (Worker.milestones_of_act? ht (Ne.symm hi)) (if_neg hi)
        (fun s hs => hstage.trans hs) ?_
      rw [Crew.isRefreshing_eq, hstage, ← Crew.isRefreshing_eq]

/-- What a step, after others, makes of the time of the last refresh. -/
inductive TimeCase (c : Config) (ts : List Transition) (t : Transition) : Prop
  /-- The application may do with it what it likes. -/
  | altered (action : t.action = .alter t.after.crew.world)
      (untimed : ∀ ev ∈ t.events, ev.IsUntimed)
  | kept (lastRefresh : t.after.crew.world.lastRefresh = t.before.crew.world.lastRefresh)
      (now : t.after.crew.world.now = t.before.crew.world.now)
      (untimed : ∀ ev ∈ t.events, ev.IsUntimed)
  | noted {w : WorkerId} {time : Int64} {ok : Bool} (ending : Ending c w ts t time ok)

/-- **The time of the last refresh is kept, or a refresh ends**, but for what the application
    does. -/
theorem timeCase_of_step (h : ∀ w, Ledger c w ts e) (hs : e.step? c a = some (e', events)) :
    TimeCase c ts ⟨e, a, e', events⟩ := by
  rcases still_or_act_of_step hs with
    ⟨-, hnews, hworld, -⟩ | ⟨w, wa, v, turn, rfl, hv, ht, hcrew, rfl⟩
  -- Nobody but workers notes a time, though the application may change it.
  · have huntimed : ∀ ev ∈ events, ev.IsUntimed := fun ev hev =>
      Event.untimed_of_isNews (hnews ev hev)
    rcases hworld with hsame | halter
    · exact .kept (congrArg (·.lastRefresh) hsame) (congrArg (·.now) hsame) huntimed
    · exact .altered halter huntimed
  · have hworld : e'.crew.world = turn.world := congrArg (·.world) hcrew
    -- A worker does not move the clock on the wall.
    have hnow : e'.crew.world.now = e.crew.world.now := by
      rw [hworld]
      exact (Worker.lawful_of_act? ht).world.now_eq
    cases (h w).stride hv ht e' with
    | rests hsame hevents =>
      refine .kept (congrArg (·.lastRefresh) (hworld.trans hsame)) hnow ?_
      intro ev hev
      rw [show (_ : List Event) = _ from hevents] at hev
      cases hev
    | works hcut hsince hunnoted honward =>
      cases honward with
      | goesOn _ huntimed hlast =>
        exact .kept ((congrArg (·.lastRefresh) hworld).trans hlast) hnow huntimed
      | @ends seen world hconcluded hrefreshed hlast hevents hafter =>
        -- The refresh ends in this step, and only its last event notes a time.
        have hcount := countP_of_noted w world.now (!world.fails .writeRefreshTime)
          hconcluded.untimed
        rw [← hevents] at hcount
        have hending : Ending c w ts ⟨e, .work w wa, e', turn.events⟩ world.now
            (!world.fails .writeRefreshTime) := by
          constructor
          · exact ⟨_, _, _, seen, world, hcut, hsince, hunnoted.trans hcount, hconcluded,
              hevents, hworld.trans hafter⟩
          · exact ⟨wa, rfl⟩
          · exact hrefreshed.now_eq
          · exact congrArg (!·) (hrefreshed.fails_eq _)
          · show e'.crew.world.lastRefresh = _
            rw [hworld, hafter, World.lastRefresh_recordRefresh, hlast]
          · exact hnow
        exact .noted hending

/-! ### To the end -/

/-- **A refresh that is under way comes to its end**: its worker can go on until then, whatever has
    become of its token, and whatever it does, it does so finitely often. -/
theorem inevitable_of_reachable (hr : Reachable c e) (w : WorkerId) :
    Inevitable c (Working w) (·.crew.isRefreshing w = false) e := by
  -- On how far the refresh is from its end, whichever of its steps the worker takes.
  generalize hn : (e.crew.stage? w).elim (0, 0) Worker.Stage.ahead = n
  induction n using Worker.wellFounded_nearer.induction generalizing e with
  | h n ih =>
    cases hrefreshing : e.crew.isRefreshing w with
    | false => exact .now hrefreshing
    | true =>
      obtain ⟨v, hv, hstage⟩ := (Option.any_eq_true _ _).1 hrefreshing
      rw [Crew.stage?_of_getElem? hv] at hn
      refine .later ?_ ?_
      · obtain ⟨wa, turn, ht⟩ := Worker.exists_act?_of_isRefreshing
          (s := ⟨c, e.crew.world, e.crew.clock, e.crew.isCancelled v, w⟩) hstage
          fun m hm => manifestUrl_of_reachable hr hv hm
        exact ⟨.work w wa, _, _, ⟨wa, rfl⟩, step?_work hv ht⟩
      · rintro _ e' events ⟨wa, rfl⟩ hs
        obtain ⟨v', turn, hv', ht, hcrew, -⟩ := exists_turn_of_step hs
        cases hv.symm.trans hv'
        have hstage' : e'.crew.stage? w = some turn.worker.stage :=
          (Crew.stage?_of_turn hv hcrew w).trans (if_pos rfl)
        refine ih turn.worker.stage.ahead ?_ (hr.step hs) (by rw [hstage']; rfl)
        rw [← hn]
        exact Worker.nearer_of_act? hstage ht

/-! ### A whole run -/

/-- A new engine has nothing to note. -/
theorem ledger_initial (c : Config) (world : World) (capacity : Nat) (w : WorkerId) :
    Ledger c w [] (initial world capacity) := .rests rfl rfl

/-- Along every path the ledger of each worker is kept. -/
theorem ledger_of_path (hp : Path c allowed start ts e) (h : ∀ w, Ledger c w [] start)
    (w : WorkerId) : Ledger c w ts e := by
  induction hp with
  | nil => exact h w
  | snoc _ _ hs ih => exact ih.step hs

/-- Every step of a path makes of the time what a step can. -/
theorem timeCase_of_path {us vs : List Transition} {t : Transition}
    (hp : Path c allowed start (us ++ t :: vs) e) (h : ∀ w, Ledger c w [] start) :
    TimeCase c us t := by
  obtain ⟨m, hbefore, hafter⟩ := hp.split
  obtain ⟨rfl, -, hs, -⟩ := hafter.uncons
  exact timeCase_of_step (ledger_of_path hbefore h) hs

/-- The promise that the application does not touch the time of the last refresh, and that the clock
    on the wall does not go back. -/
def LeavesTime (e : Engine) : Action → Prop
  | .alter world =>
    world.lastRefresh = e.crew.world.lastRefresh ∧ e.crew.world.now ≤ world.now
  | _ => True

instance (e : Engine) (a : Action) : Decidable (LeavesTime e a) :=
  match a with
  | .alter _ => inferInstanceAs (Decidable (_ ∧ _))
  | .elapse _ | .cancel _ | .invoke _ | .abandon _ | .resume _ | .work .. | .receive | .hangUp =>
    .isTrue trivial

/-- A step that keeps the promise leaves the stored time behind the clock, and does not put it
    back. -/
theorem TimeCase.lastRefresh_le (h : TimeCase c ts t) (hleaves : LeavesTime t.before t.action)
    (hpast : t.before.crew.world.lastRefresh ≤ t.before.crew.world.now) :
    t.before.crew.world.lastRefresh ≤ t.after.crew.world.lastRefresh ∧
      t.after.crew.world.lastRefresh ≤ t.after.crew.world.now := by
  cases h with
  | altered halter =>
    rw [halter] at hleaves
    obtain ⟨hsame, hnow⟩ := hleaves
    rw [hsame]
    exact ⟨Int64.le_refl _, Int64.le_trans hpast hnow⟩
  | kept hsame hnow =>
    rw [hsame, hnow]
    exact ⟨Int64.le_refl _, hpast⟩
  | @noted w time ok hending =>
    rw [hending.stored, hending.now, hending.time_eq]
    -- What is stored, if anything, is the time on the clock, which is not before the old one.
    cases ok with
    | true => exact ⟨hpast, Int64.le_refl _⟩
    | false => exact ⟨Int64.le_refl _, hpast⟩

/-- Once the time of the last refresh is not ahead of the clock, it never is, and never goes
    back. -/
theorem lastRefresh_le_of_path (hp : Path c allowed start ts e) (h : ∀ w, Ledger c w [] start)
    (hleaves : ∀ t ∈ ts, LeavesTime t.before t.action)
    (hpast : start.crew.world.lastRefresh ≤ start.crew.world.now) :
    (∀ t ∈ ts, t.before.crew.world.lastRefresh ≤ t.after.crew.world.lastRefresh) ∧
      e.crew.world.lastRefresh ≤ e.crew.world.now := by
  induction hp with
  | nil => exact ⟨fun t ht => absurd ht List.not_mem_nil, hpast⟩
  | snoc path _ hs ih =>
    obtain ⟨hbefore, hlast⟩ := List.forall_mem_append.1 hleaves
    obtain ⟨hup, hle⟩ := ih hbefore
    have hcase := timeCase_of_step (ledger_of_path path h) hs
    obtain ⟨hnext, hbehind⟩ := hcase.lastRefresh_le (hlast _ (List.mem_singleton_self _)) hle
    refine ⟨fun t ht => ?_, hbehind⟩
    rcases List.mem_append.1 ht with ht | ht
    · exact hup t ht
    · rw [List.mem_singleton.1 ht]
      exact hnext

/-- What becomes of the time of the last refresh in a run that begins in a world. -/
structure Timekeeping (c : Config) (world : World) (ts : List Transition) (e : Engine) : Prop where
  /-- A refresh begins exactly where a check passes the guard and the interval. -/
  began : ∀ t ∈ ts, ∀ w, .refreshBegan w ∈ t.events ↔ t.Passes c w
  /-- At every point of the run all refreshes of a worker have been noted once, but for one at most;
      at its end, for the one that is under way. -/
  once : ∀ us vs, ts = us ++ vs → ∀ w,
    completed w us ≤ begun w us ∧ begun w us ≤ completed w us + 1
  balance : ∀ w, begun w ts = completed w ts + if e.crew.isRefreshing w then 1 else 0
  /-- A time is noted only by a worker, at the end of one whole refresh: the manifest and all its
      lists have been answered, and what has come is written.  It is the time on the clock then, and
      is stored, unless that fails. -/
  noted : ∀ us t vs, ts = us ++ t :: vs → ∀ w time ok,
    .refreshRecorded w time ok ∈ t.events → Ending c w us t time ok
  /-- But for the application, nobody else touches the store. -/
  kept : ∀ t ∈ ts, (∀ w, t.action ≠ .alter w) →
    (∀ w time ok, .refreshRecorded w time ok ∉ t.events) →
      t.after.crew.world.lastRefresh = t.before.crew.world.lastRefresh
  /-- Nobody else moves a worker, and in particular none that has a refresh under way. -/
  undisturbed : ∀ t ∈ ts, ∀ w s, t.before.crew.stage? w = some s →
    (∀ wa, t.action ≠ .work w wa) → t.after.crew.stage? w = some s
  /-- That worker can go on, cancelled or not, until the time is noted; and it comes to that. -/
  ends : ∀ w, Inevitable c (Working w) (·.crew.isRefreshing w = false) e
  /-- While the clock does not go back, neither does the time that is stored. -/
  monotone : (∀ t ∈ ts, LeavesTime t.before t.action) → world.lastRefresh ≤ world.now →
    ∀ t ∈ ts, t.before.crew.world.lastRefresh ≤ t.after.crew.world.lastRefresh

/-- **Every refresh that begins is noted once, when it is over, and nothing else is.**  On every run
    of a new engine, whatever the application, the network, the consumer and the callers do. -/
theorem time_is_kept {world : World} {capacity : Nat}
    (hp : Path c allowed (initial world capacity) ts e) : Timekeeping c world ts e := by
  have hledger := ledger_initial c world capacity
  constructor
  · intro t ht w
    exact began_iff_passes (hp.step_of_mem ht).2
  · rintro us vs rfl w
    obtain ⟨m, hbefore, -⟩ := hp.split
    -- At any moment at most one refresh is begun and not yet noted.
    have hbalance := (ledger_of_path hbefore hledger w).balance
    split at hbalance <;> omega
  · exact fun w => (ledger_of_path hp hledger w).balance
  · rintro us t vs rfl w time ok hnoted
    -- Only the step that ends a refresh has an event that notes a time.
    cases timeCase_of_path hp hledger with
    | altered _ huntimed | kept _ _ huntimed => exact (huntimed _ hnoted).elim
    | noted hending =>
      obtain ⟨_, _, _, _, _, -, -, -, hconcluded, hevents, -⟩ := hending.attempt
      rw [hevents] at hnoted
      obtain ⟨rfl, rfl, rfl⟩ := Event.eq_of_mem_noted hconcluded.untimed hnoted
      exact hending
  · intro t ht halter hnone
    obtain ⟨us, vs, rfl⟩ := List.append_of_mem ht
    -- A step that is neither the application's nor the end of a refresh leaves the time alone.
    cases timeCase_of_path hp hledger with
    | altered haction => exact absurd haction (halter _)
    | kept hsame => exact hsame
    | @noted w time ok hending =>
      obtain ⟨_, _, _, events, _, -, -, -, -, hevents, -⟩ := hending.attempt
      refine absurd ?_ (hnone w time ok)
      rw [hevents]
      exact List.mem_append_right _ (List.mem_singleton_self _)
  · intro t ht w s hstage hother
    exact stage?_of_step (hp.step_of_mem ht).2 hstage hother
  · exact inevitable_of_reachable ((reachable_initial c world capacity).path hp)
  · intro hleaves hpast
    exact (lastRefresh_le_of_path hp hledger hleaves hpast).1

/-- A refresh whose token is cancelled while it waits for its only list, ten minutes after it has
    begun. -/
def cutShort : List Transition × Engine :=
  follow .remote (initial { now := 10000 } 1)
    [.invoke (.start 0), .resume (.call 0), .work 0 .start, .alter { now := 10600 },
      .work 0 (.manifestAnswered (.ok ⟨some (announcing "a" "https://a.example"), "m1"⟩) false),
      .work 0 (.poll 0), .cancel 0, .work 0 (.taskAnswered 0 (.error .cancelled)),
      .work 0 (.collect true)]

/-- What is to be seen of the run cut short, checked by running it. -/
theorem cutShort_facts : (∀ t ∈ cutShort.1, LeavesTime t.before t.action) ∧
    begun 0 cutShort.1 = 1 ∧
    (cutShort.1[8]?).any (·.events = [.refreshRecorded 0 10600 true]) = true ∧
    cutShort.2.crew.isRefreshing 0 = false := by
  decide +kernel

/-- The refresh that is cut short is noted all the same, at the time it ends. -/
theorem time_is_kept_cutShort :
    Timekeeping .remote { now := 10000 } cutShort.1 cutShort.2 ∧
    completed 0 cutShort.1 = 1 ∧
    (∃ t, cutShort.1[8]? = some t ∧ t.events = [.refreshRecorded 0 10600 true] ∧
      t.before.crew.world.now = 10600 ∧ t.after.crew.world.lastRefresh = 10600) ∧
    ∀ t ∈ cutShort.1, t.before.crew.world.lastRefresh ≤ t.after.crew.world.lastRefresh := by
  obtain ⟨hleaves, hbegun, hnoted, hresting⟩ := cutShort_facts
  have hpath : Path .remote (fun _ _ => True) (initial { now := 10000 } 1) cutShort.1 cutShort.2 :=
    path_follow fun _ _ => trivial
  have hkept := time_is_kept hpath
  obtain ⟨t, ht, hevents⟩ := (Option.any_eq_true _ _).1 hnoted
  have hevents := of_decide_eq_true hevents
  have hending := hkept.noted _ t _ (cut_of_getElem? ht) 0 10600 true
    (by rw [hevents]; exact List.mem_singleton_self _)
  refine ⟨hkept, ?_, ⟨t, ht, hevents, hending.time_eq.symm, hending.stored.trans (if_pos rfl)⟩,
    hkept.monotone hleaves (by decide)⟩
  have hbalance := hkept.balance 0
  rw [hbegun, hresting, if_neg Bool.false_ne_true, Nat.add_zero] at hbalance
  exact hbalance.symm

end Engine

end TokenCatalog
