import TokenCatalog.Proofs.Engine.News
import TokenCatalog.Proofs.Engine.Pairing

namespace TokenCatalog

/-!
# Seats — a worker and its listener

A worker and its listener share a place for one result.  The worker offers it there, the listener
takes it, and acknowledges it when it has been told of and there is room for one notification more.

* `Event.isMilestoneOf`, `Worker.Pace` — how a worker goes on from one refresh to the next;
* `Seat` — what a worker and its listener have to do with each other;
* `SeatCase`, `Engine.seatCase_of_step?` — everything a step can make of a seat.
-/

/-- Whether an event is the beginning or the end of a refresh of a worker. -/
def Event.isMilestoneOf (w : WorkerId) : Event → Bool
  | .refreshBegan i => i = w
  | .refreshRecorded i _ _ => i = w
  | _ => false

/-- The beginnings and ends of a worker's refreshes among events. -/
def Event.milestones (i : WorkerId) (events : List Event) : List Event :=
  events.filter (·.isMilestoneOf i)

/-- Milestones are found piece by piece. -/
theorem Event.milestones_append (i : WorkerId) (es es' : List Event) :
    milestones i (es ++ es') = milestones i es ++ milestones i es' := List.filter_append ..

/-- Where no event is a milestone there are none. -/
theorem Event.milestones_eq_nil {i : WorkerId} {events : List Event}
    (h : ∀ ev ∈ events, ev.isMilestoneOf i = false) : milestones i events = [] :=
  List.filter_eq_nil_iff.2 fun ev hev => by rw [h ev hev]; exact Bool.false_ne_true

/-- News are no milestones. -/
theorem Event.milestones_of_isNews {i : WorkerId} {events : List Event}
    (h : ∀ ev ∈ events, ev.IsNews) : milestones i events = [] := by
  refine milestones_eq_nil fun ev hev => ?_
  have hnews := h ev hev
  cases ev with
  | published | notified | received => rfl
  | refreshBegan | requested | wrote | refreshRecorded => exact hnews.elim

/-! ### How a worker goes on -/

namespace Worker

variable {w v : Worker} {s : Surroundings} {t : Turn} {a : Action} {i : WorkerId}

/-- Whether a worker that waits there has no refresh under way. -/
def Stage.isResting : Stage → Bool
  | .spawned _ | .idle => true
  | _ => false

/-- Whether a worker that waits there has a refresh under way. -/
def Stage.isRefreshing : Stage → Bool
  | .resolving _ | .fetching _ => true
  | _ => false

/-- What a worker does with a result: it leaves without a word, or offers it if somebody listens. -/
inductive Outcome (w v : Worker) : Prop
  | lost (stage : v.stage = .exited) (handover : v.handover = w.handover)
  | offered (stage : v.stage = .awaiting ∨ v.stage = .exited) (handover : v.handover = .offered)
      (heard : w.hasConsumer = true)

/-- How a step takes a worker from one refresh to the next, with the beginnings and ends that others
    see. -/
inductive Pace (w v : Worker) (id : WorkerId) : List Event → Prop
  | rests (stage : w.stage.isResting = true)
      (stage' : v.stage.isResting = true ∨ v.stage = .exited)
      (handover : v.handover = w.handover) : Pace w v id []
  | begins (stage : w.stage.isResting = true) (stage' : v.stage.isRefreshing = true)
      (handover : v.handover = w.handover) : Pace w v id [.refreshBegan id]
  | goesOn (stage : w.stage.isRefreshing = true) (stage' : v.stage.isRefreshing = true)
      (handover : v.handover = w.handover) : Pace w v id []
  /-- There was nothing to wait for. -/
  | completes {time : Int64} {ok : Bool} (stage : w.stage.isResting = true) (outcome : Outcome w v) :
      Pace w v id [.refreshBegan id, .refreshRecorded id time ok]
  | concludes {time : Int64} {ok : Bool} (stage : w.stage.isRefreshing = true)
      (outcome : Outcome w v) : Pace w v id [.refreshRecorded id time ok]
  | leaves (stage : w.stage = .awaiting) (stage' : v.stage = .exited)
      (handover : v.handover = w.handover) : Pace w v id []
  | acknowledged (stage : w.stage = .awaiting) (handover : w.handover = .acknowledged)
      (stage' : v.stage = .idle) (handover' : v.handover = .none) : Pace w v id []

/-- A worker that ends a refresh offers the result, or leaves without a word. -/
theorem outcome_finish (w : Worker) (s : Surroundings) (heed : Bool) :
    Outcome w (w.finish s heed).worker := by
  simp only [finish]
  split
  · exact .lost rfl rfl
  · rename_i hoffers
    have hheard : w.hasConsumer = true := by
      cases hconsumer : w.hasConsumer with
      | true => rfl
      | false => simp [hconsumer] at hoffers
    refine .offered ?_ rfl hheard
    cases s.cancelled with
    | true => exact .inr rfl
    | false => exact .inl rfl

/-- The end of a refresh is one milestone of the worker, and none of any other. -/
theorem milestones_finish (w : Worker) (s : Surroundings) (heed : Bool) (i : WorkerId) :
    Event.milestones i (w.finish s heed).events =
      if i = s.id then [.refreshRecorded s.id s.world.now (!s.world.fails .writeRefreshTime)]
      else [] := by
  by_cases hi : i = s.id
  · simp [finish, Event.milestones, Event.isMilestoneOf, hi]
  · simp [finish, Event.milestones, Event.isMilestoneOf, hi, Ne.symm hi]

/-- Asking for the lists is no milestone of any other worker. -/
theorem milestones_fetchLists_of_ne (w : Worker) (s : Surroundings) (m : Manifest) (heed : Bool)
    (hi : i ≠ s.id) : Event.milestones i (w.fetchLists s m heed).events = [] := by
  unfold fetchLists
  split
  · rw [milestones_finish, if_neg hi]
  · rfl

/-- The lists of a manifest are fetched, or there are none and the refresh is over. -/
theorem fetchLists_cases (w : Worker) (s : Surroundings) (m : Manifest) (heed : Bool) :
    ((w.fetchLists s m heed).worker.stage.isRefreshing = true ∧
        (w.fetchLists s m heed).worker.handover = w.handover ∧
        Event.milestones s.id (w.fetchLists s m heed).events = []) ∨
      Outcome w (w.fetchLists s m heed).worker ∧
        ∃ time ok, Event.milestones s.id (w.fetchLists s m heed).events =
          [.refreshRecorded s.id time ok] := by
  unfold fetchLists
  split
  · refine .inr ⟨outcome_finish w s heed, s.world.now, !s.world.fails .writeRefreshTime, ?_⟩
    rw [milestones_finish, if_pos rfl]
  · exact .inl ⟨rfl, rfl, rfl⟩

/-- Nothing but its next tick is changed before a worker checks. -/
theorem pace_check {force : Bool} {n : Nat} (hstage : w.stage.isResting = true) :
    Pace w ({ w with nextTick := n }.check s force).worker s.id
      (Event.milestones s.id ({ w with nextTick := n }.check s force).events) := by
  have hbegan : (Event.refreshBegan s.id).isMilestoneOf s.id = true := decide_eq_true rfl
  have hcase := checkCase_check { w with nextTick := n } s force
  generalize { w with nextTick := n }.check s force = t at hcase ⊢
  cases hcase with
  | cancelled => exact .rests hstage (.inr rfl) rfl
  | spared => exact .rests hstage (.inl rfl) rfl
  | @asks url =>
    rw [Event.milestones, List.filter_cons_of_pos hbegan]
    exact .begins hstage rfl rfl
  | fetches _ _ _ _ heq =>
    rw [Event.milestones, List.filter_cons_of_pos hbegan, ← Event.milestones, heq]
    -- With nothing to wait for, the refresh may end in the step in which it begins.
    rcases fetchLists_cases { w with nextTick := n } s (Manifest.fallback s.config s.world) true with
      ⟨hbusy, hhandover, hnone⟩ | ⟨houtcome, time, ok, hend⟩
    · rw [hnone]
      exact .begins hstage hbusy hhandover
    · rw [hend]
      cases houtcome with
      | lost hexited hhandover => exact .completes hstage (.lost hexited hhandover)
      | offered hwaits hhandover hheard =>
        exact .completes hstage (.offered hwaits hhandover hheard)

/-- A check is no milestone of any other worker. -/
theorem milestones_check_of_ne (w : Worker) (s : Surroundings) (force : Bool) (hi : i ≠ s.id) :
    Event.milestones i (w.check s force).events = [] := by
  have hbegan : ¬ (Event.refreshBegan s.id).isMilestoneOf i = true := by
    simpa [Event.isMilestoneOf] using Ne.symm hi
  have hcase := checkCase_check w s force
  generalize w.check s force = t at hcase ⊢
  cases hcase with
  | cancelled | spared => rfl
  | asks =>
    rw [Event.milestones, List.filter_cons_of_neg hbegan]
    rfl
  | fetches _ _ _ _ heq =>
    rw [Event.milestones, List.filter_cons_of_neg hbegan, ← Event.milestones, heq]
    exact milestones_fetchLists_of_ne w s _ true hi

/-- What is written before the lists are fetched is no milestone. -/
theorem milestones_manifestTurn (w : Worker) (s : Surroundings) (url : String) (fallback : Manifest)
    (a : Answer) (heed : Bool) (i : WorkerId) :
    Event.milestones i (w.manifestTurn s url fallback a heed).events =
      Event.milestones i (w.fetchLists
        { s with world := (Manifest.resolve s.config s.world url fallback a).2 }
        (Manifest.resolve s.config s.world url fallback a).1 heed).events := by
  refine (Event.milestones_append i _ _).trans ?_
  rw [Event.milestones_eq_nil, List.nil_append]
  · rfl
  · intro ev hev
    obtain ⟨_, _, rfl⟩ := List.mem_map.1 hev
    rfl

/-- Collecting has the milestones of ending the refresh: the copies written before are none. -/
theorem milestones_collectTurn (w : Worker) (s : Surroundings) (f : FanOut) (heed : Bool)
    (i : WorkerId) :
    Event.milestones i (w.collectTurn s f heed).events =
      Event.milestones i (w.finish { s with world := (f.persist s.world).1 } heed).events := by
  refine (Event.milestones_append i _ _).trans ?_
  rw [Event.milestones_eq_nil, List.nil_append]
  intro ev hev
  obtain ⟨_, _, rfl⟩ := List.mem_map.1 hev
  rfl

/-- A request is no milestone. -/
theorem milestones_taskRequests (s : Surroundings) (index : Nat) (r : Option Request)
    (i : WorkerId) : Event.milestones i (r.toList.map (taskRequest s index)) = [] := by
  refine Event.milestones_eq_nil fun ev hev => ?_
  obtain ⟨q, -, rfl⟩ := mem_map_taskRequest hev
  rfl

/-- **A worker refreshes step by step**, and begins anew only after an acknowledgement. -/
theorem pace_of_act? (h : w.act? s a = some t) :
    Pace w t.worker s.id (Event.milestones s.id t.events) := by
  cases step_of_act? h with
  | expire hstage => exact .rests (by rw [hstage]; rfl) (.inr rfl) rfl
  | start hstage => exact pace_check (by rw [hstage]; rfl)
  | tick hstage => exact pace_check (by rw [hstage]; rfl)
  | quit hstage =>
    rcases hstage with hstage | hstage
    · exact .rests (by rw [hstage]; rfl) (.inr rfl) rfl
    · exact .leaves hstage rfl rfl
  | acknowledged hstage hhandover => exact .acknowledged hstage hhandover rfl rfl
  | dropped hstage => exact .leaves hstage rfl rfl
  | @manifestAnswered fallback url a heed hstage =>
    have hbusy : w.stage.isRefreshing = true := by
      rw [hstage]
      rfl
    rw [milestones_manifestTurn]
    -- The manifest may leave nothing to fetch, and then the refresh ends here.
    rcases fetchLists_cases w { s with
        world := (Manifest.resolve s.config s.world url fallback a).2 }
        (Manifest.resolve s.config s.world url fallback a).1 heed with
      ⟨hfetching, hhandover, hnone⟩ | ⟨houtcome, time, ok, hend⟩
    · dsimp only at hnone
      rw [hnone]
      exact .goesOn hbusy hfetching hhandover
    · dsimp only at hend
      rw [hend]
      exact .concludes hbusy houtcome
  | poll hstage => exact .goesOn (by rw [hstage]; rfl) rfl rfl
  | taskAnswered hstage =>
    rw [milestones_taskRequests]
    exact .goesOn (by rw [hstage]; rfl) rfl rfl
  | @collect f heed hstage =>
    rw [milestones_collectTurn, milestones_finish, if_pos rfl]
    exact .concludes (by rw [hstage]; rfl) (outcome_finish w _ heed)

/-- A worker's refreshes are its own. -/
theorem milestones_of_act? (h : w.act? s a = some t) (hi : i ≠ s.id) :
    Event.milestones i t.events = [] := by
  cases step_of_act? h with
  | expire | quit | acknowledged | dropped | poll => rfl
  | start | tick => exact milestones_check_of_ne _ s _ hi
  | @manifestAnswered fallback url a heed =>
    rw [milestones_manifestTurn]
    exact milestones_fetchLists_of_ne w _ _ heed hi
  | taskAnswered => exact milestones_taskRequests s _ _ i
  | @collect f heed =>
    rw [milestones_collectTurn, milestones_finish, if_neg hi]

/-- Ending a refresh does not change whether somebody listens. -/
theorem hasConsumer_finish (w : Worker) (s : Surroundings) (heed : Bool) :
    (w.finish s heed).worker.hasConsumer = w.hasConsumer := by
  simp only [finish]
  split <;> rfl

/-- Asking for the lists does not change whether somebody listens. -/
theorem hasConsumer_fetchLists (w : Worker) (s : Surroundings) (m : Manifest) (heed : Bool) :
    (w.fetchLists s m heed).worker.hasConsumer = w.hasConsumer := by
  unfold fetchLists
  split
  · exact hasConsumer_finish w s heed
  · rfl

/-- A check does not change whether somebody listens. -/
theorem hasConsumer_check (w : Worker) (s : Surroundings) (force : Bool) :
    (w.check s force).worker.hasConsumer = w.hasConsumer := by
  have hcase := checkCase_check w s force
  generalize w.check s force = t at hcase ⊢
  cases hcase with
  | cancelled | spared | asks => rfl
  | fetches _ _ _ _ heq =>
    rw [heq]
    exact hasConsumer_fetchLists ..

/-- Workers do not say who listens to them. -/
theorem hasConsumer_of_act? (h : w.act? s a = some t) : t.worker.hasConsumer = w.hasConsumer := by
  cases step_of_act? h with
  | expire | quit | acknowledged | dropped | poll | taskAnswered => rfl
  | start | tick => exact hasConsumer_check ..
  | manifestAnswered => exact hasConsumer_fetchLists ..
  | collect => exact hasConsumer_finish ..

end Worker

/-! ### Seats -/

/-- What a worker and its listener have to do with each other. -/
structure Seat where
  stage : Worker.Stage
  handover : Worker.Handover
  hasConsumer : Bool
  listening : ListenerStage
  deriving DecidableEq, Repr

namespace Seat

/-- The seat of a worker that has not run yet. -/
def fresh (force : Bool) : Seat := ⟨.spawned force, .none, true, .receiving⟩

/-- What is left of a seat when the listener ends before its time. -/
def vacant (s : Seat) : Seat where
  stage := s.stage
  handover := if s.handover = .offered ∨ s.handover = .taken then .dropped else s.handover
  hasConsumer := false
  listening := .ended

/-- What is left of a seat when the listener comes to wait somewhere; where it waits for the next
    result, it has acknowledged the last one. -/
def relayed (s : Seat) (t : ListenerStage) : Seat :=
  { s with
    listening := t, handover := if t = .receiving then .acknowledged else s.handover }

end Seat

namespace Engine

variable {c : Config} {e e' e'' : Engine} {a : Action} {events : List Event} {id : CallId}
  {w i : WorkerId} {s : Seat} {l : ListenerId} {t : ListenerStage}

/-- The seat of a worker. -/
def seat? (e : Engine) (w : WorkerId) : Option Seat :=
  match e.crew.workers[w]?, e.listeners[w]? with
  | some v, some li => some ⟨v.stage, v.handover, v.hasConsumer, li.stage⟩
  | _, _ => none

/-- A worker and the listener of the same number share a seat. -/
theorem seat?_of_some {v : Worker} {li : Listener} (hv : e.crew.workers[w]? = some v)
    (hli : e.listeners[w]? = some li) :
    e.seat? w = some ⟨v.stage, v.handover, v.hasConsumer, li.stage⟩ := by
  rw [seat?, hv, hli]

/-- Whoever has a seat has a worker and a listener. -/
theorem exists_of_seat? (h : e.seat? w = some s) :
    ∃ v li, e.crew.workers[w]? = some v ∧ e.listeners[w]? = some li ∧
      s = ⟨v.stage, v.handover, v.hasConsumer, li.stage⟩ := by
  unfold seat? at h
  split at h
  · rename_i v li hv hli
    cases h
    exact ⟨v, li, hv, hli, rfl⟩
  · cases h

/-- Every worker has a seat, since every worker has a listener. -/
theorem exists_seat (hp : Paired e) {v : Worker} (hv : e.crew.workers[w]? = some v) :
    ∃ li, e.listeners[w]? = some li ∧
      e.seat? w = some ⟨v.stage, v.handover, v.hasConsumer, li.stage⟩ := by
  have hlt : w < e.listeners.length := by
    rw [hp.length]
    exact (List.getElem?_eq_some_iff.1 hv).1
  have hli := List.getElem?_eq_getElem hlt
  exact ⟨_, hli, seat?_of_some hv hli⟩

/-- A seat is the same where its worker and its listener are. -/
theorem seat?_congr (hworker : e'.crew.workers[w]? = e.crew.workers[w]?)
    (hlistener : e'.listeners[w]? = e.listeners[w]?) : e'.seat? w = e.seat? w := by
  rw [seat?, seat?, hworker, hlistener]

/-- Telling a worker to stop leaves it in its seat. -/
@[simp] theorem seat?_forget (e : Engine) (w : WorkerId) : e.forget.seat? w = e.seat? w := by
  have hstopped : ∀ worker : WorkerId,
      seat? { e with worker := none, crew := e.crew.stop worker } w = e.seat? w := by
    intro worker
    rw [seat?, seat?]
    dsimp only
    rw [Crew.getElem?_stop]
    by_cases hw : worker = w
    · rw [if_pos hw]
      cases e.crew.workers[w]? <;> cases e.listeners[w]? <;> rfl
    · rw [if_neg hw]
  unfold forget
  split
  · rfl
  · exact hstopped _

/-! ### What calls make of a seat -/

/-- What becomes of a seat while neither the worker nor the listener runs. -/
inductive Reseated (e e' : Engine) (w : WorkerId) : Prop
  | same (seat' : e'.seat? w = e.seat? w)
  /-- The listener ends. -/
  | vacated {s : Seat} (seat : e.seat? w = some s) (active : s.listening ≠ .ended)
      (seat' : e'.seat? w = some s.vacant)
  /-- The worker and its listener are new. -/
  | hired {force : Bool} (unborn : e.seat? w = none) (seat' : e'.seat? w = some (.fresh force))

namespace Reseated

/-- What was said of a seat may be said of any state that has the same seat. -/
theorem of_eq (h : Reseated e e' w) (heq : e''.seat? w = e'.seat? w) : Reseated e e'' w := by
  cases h with
  | same hsame => exact .same (heq.trans hsame)
  | vacated hs hactive hs' => exact .vacated hs hactive (heq.trans hs')
  | hired hnone hs' => exact .hired hnone (heq.trans hs')

/-- What was said of a seat may be said from any state that had the same seat. -/
theorem after_eq (heq : e'.seat? w = e.seat? w) (h : Reseated e' e'' w) : Reseated e e'' w := by
  cases h with
  | same hsame => exact .same (hsame.trans heq)
  | vacated hs hactive hs' => exact .vacated (heq ▸ hs) hactive hs'
  | hired hnone hs' => exact .hired (heq ▸ hnone) hs'

/-- The listener of a seat ends before its time, or nothing happens to it. -/
def Vacates (e e' : Engine) (w : WorkerId) : Prop :=
  e'.seat? w = e.seat? w ∨
    ∃ s, e.seat? w = some s ∧ s.listening ≠ .ended ∧ e'.seat? w = some s.vacant

/-- Ending a listener vacates its seat, and no other. -/
theorem vacates_abort (h : Paired e) (l : ListenerId) (w : WorkerId) : Vacates e (e.abort l) w := by
  unfold Engine.abort
  split
  · exact .inl rfl
  · rename_i li hli
    have hserves := h.serves l li hli
    split
    · exact .inl rfl
    · rename_i hactive
      by_cases hw : l = w
      -- The listener serves the worker of its own number.
      · subst hw
        have hlt : l < e.crew.workers.length := by
          rw [← h.length]
          exact (List.getElem?_eq_some_iff.1 hli).1
        have hv := List.getElem?_eq_getElem hlt
        have hleft : (e.crew.leave li.worker).workers[l]? = some { e.crew.workers[l] with
            hasConsumer := false
            handover := if e.crew.workers[l].handover = .offered ∨
              e.crew.workers[l].handover = .taken then .dropped
              else e.crew.workers[l].handover } := by
          show (e.crew.workers.modify li.worker _)[l]? = _
          rw [hserves, List.getElem?_modify_eq, hv]
          rfl
        have hended : (e.listeners.modify l ({ · with stage := .ended }))[l]? =
            some { li with stage := .ended } := by
          rw [List.getElem?_modify_eq, hli]
          rfl
        have hvacant := seat?_of_some (e := { (e.release (.listener l)).setListener l .ended with
          crew := e.crew.leave li.worker, channel := e.channel.quit (.listener l) }) hleft hended
        exact .inr ⟨_, seat?_of_some hv hli, hactive, hvacant⟩
      · refine .inl (seat?_congr ?_ ?_)
        · show (e.crew.workers.modify li.worker _)[w]? = _
          rw [hserves, List.getElem?_modify_ne _ _ hw]
        · show (e.listeners.modify l _)[w]? = _
          rw [List.getElem?_modify_ne _ _ hw]

/-- Dropping the listener vacates its seat, if it still has one. -/
theorem vacates_dropListener (h : Paired e) (w : WorkerId) : Vacates e e.dropListener w := by
  have helim : Vacates e (e.listener.elim e e.abort) w := by
    cases e.listener with
    | none => exact .inl rfl
    | some l => exact vacates_abort h l w
  exact helim

/-- A worker that is started takes a seat nobody has had. -/
theorem startWorker (h : Paired e) (force : Bool) (w : WorkerId) :
    Reseated e (e.startWorker force) w := by
  unfold Engine.startWorker
  split
  · exact .same rfl
  · by_cases hw : w = e.crew.workers.length
    -- The new worker and the new listener have the same number.
    · subst hw
      refine .hired ?_ (?_ : seat? _ _ = some (.fresh force))
      · rw [seat?, List.getElem?_eq_none (Nat.le_refl _)]
      · have hworker := (Crew.getElem?_spawn e.crew e.token force e.crew.workers.length).trans
          (if_pos rfl)
        have hlistener : (e.listeners ++ [(⟨e.crew.workers.length, .receiving⟩ : Listener)])[
            e.crew.workers.length]? = some ⟨e.crew.workers.length, .receiving⟩ := by
          rw [getElem?_snoc, if_pos h.length.symm]
        exact seat?_of_some (e := { e with
          crew := (e.crew.spawn e.token force).1, worker := some e.crew.workers.length
          listener := some e.listeners.length
          listeners := e.listeners ++ [⟨e.crew.workers.length, .receiving⟩] }) hworker hlistener
    · refine .same (seat?_congr ((Crew.getElem?_spawn ..).trans (if_neg hw)) ?_)
      show (e.listeners ++ [_])[w]? = _
      rw [getElem?_snoc, h.length, if_neg hw]

/-- What was planned for after the worker has left fills a new seat at most. -/
theorem heed (h : Paired e) (next : AfterLeave) (w : WorkerId) : Reseated e (e.heed next) w := by
  cases next with
  | restart => exact startWorker h true w
  | done | stop | goPrivate => exact .same rfl

/-- A call that publishes local data moves nobody. -/
theorem publishPrivately (c : Config) (e : Engine) (id : CallId) (w : WorkerId) :
    (e.publishPrivately c id).1.seat? w = e.seat? w := by
  obtain ⟨s, ch, events, -, heq⟩ := publishPrivately_sends c e id
  rw [heq]
  rfl

/-- What is done after the worker has left vacates a seat, fills a new one, or both. -/
theorem afterLeave (h : Paired e) (c : Config) (id : CallId) (next : AfterLeave) (w : WorkerId) :
    Reseated e (e.afterLeave c id next).1 w := by
  have hheed : Reseated e (e.dropListener.heed next) w := by
    have hnext := heed h.dropListener next w
    rcases vacates_dropListener h w with hsame | ⟨s, hs, hactive, hs'⟩
    · exact .after_eq hsame hnext
    · -- Who has had a seat before is not new.
      cases hnext with
      | same hsame => exact .vacated hs hactive (hsame.trans hs')
      | vacated hs'' hactive' =>
        rw [hs'] at hs''
        cases hs''
        exact absurd rfl hactive'
      | hired hnone =>
        rw [hs'] at hnone
        cases hnone
  -- With privacy on, a snapshot may be published as well, which moves nobody.
  cases next with
  | done | stop | restart => exact hheed.of_eq rfl
  | goPrivate wasPrivate =>
    cases wasPrivate with
    | true => exact hheed.of_eq rfl
    | false => exact hheed.of_eq (publishPrivately c _ id w)

/-- A call that does its duty vacates a seat or fills a new one. -/
theorem perform (h : Paired e) (c : Config) (id : CallId) (d : Duty) (w : WorkerId) :
    Reseated e (e.perform c id d).1 w := by
  cases d with
  | refuse | keep => exact .same rfl
  | publish => exact .same (publishPrivately c e id w)
  | hire => exact (startWorker h false w).of_eq rfl
  | dismiss next =>
    have hforget : e.forget.seat? w = e.seat? w := seat?_forget e w
    rw [Engine.perform]
    rcases stopWorker_eq c e id next with heq | ⟨worker, -, -, heq⟩
    · rw [heq]
      exact .after_eq hforget (afterLeave h.forget c id next w)
    · rw [heq]
      exact .same hforget

/-- A call's step vacates a seat or fills a new one. -/
theorem resumeCall? {t : Turn} (h : Paired e) (hr : e.resumeCall? c id = some t) (w : WorkerId) :
    Reseated e t.1 w := by
  cases callStep_of_resumeCall? hr with
  | @run call =>
    rw [runCall_eq]
    have hnote : (call.note c e).seat? w = e.seat? w := by
      rw [note_eq]
      rfl
    exact .after_eq hnote (perform (h.note c call) c id _ w)
  | left => exact afterLeave h c id _ w
  | sent =>
    rw [enqueue_fst]
    exact .same rfl

end Reseated

/-! ### What a listener makes of its seat -/

/-- Where a listener waits does not concern the seats of others. -/
theorem seat?_setListener_of_ne (hw : w ≠ l) : (e.setListener l t).seat? w = e.seat? w :=
  seat?_congr rfl (List.getElem?_modify_ne _ _ (Ne.symm hw))

/-- Where a listener waits is noted in its seat. -/
theorem seat?_setListener (hs : e.seat? w = some s) :
    (e.setListener w t).seat? w = some { s with listening := t } := by
  obtain ⟨v, li, hv, hli, rfl⟩ := exists_of_seat? hs
  have hmoved : (e.listeners.modify w ({ · with stage := t }))[w]? =
      some { li with stage := t } := by
    rw [List.getElem?_modify_eq, hli]
    rfl
  exact seat?_of_some (e := e.setListener w t) hv hmoved

/-- A result that is taken does not concern the seats of others. -/
theorem seat?_fetched_of_ne (hw : w ≠ l) : (e.fetched l l).seat? w = e.seat? w :=
  seat?_congr (List.getElem?_modify_ne _ _ (Ne.symm hw)) rfl

/-- A result that is taken is taken from the listener's seat. -/
theorem seat?_fetched (hs : e.seat? w = some s) :
    (e.fetched w w).seat? w = some { s with handover := .taken } := by
  obtain ⟨v, li, hv, hli, rfl⟩ := exists_of_seat? hs
  refine seat?_of_some (v := { v with handover := .taken }) ?_ hli
  show (e.crew.workers.modify w _)[w]? = _
  rw [List.getElem?_modify_eq, hv]
  rfl

/-- A listener that relays does not concern the seats of others. -/
theorem seat?_relayed_of_ne (hw : w ≠ l) (ch : Channel) :
    (e.relayed l l t ch).seat? w = e.seat? w := by
  refine seat?_congr ?_ (List.getElem?_modify_ne _ _ (Ne.symm hw))
  show (if t = .receiving then e.crew.acknowledge l else e.crew).workers[w]? = _
  split
  · exact List.getElem?_modify_ne _ _ (Ne.symm hw)
  · rfl

/-- A listener that relays acknowledges in its seat if it goes back to wait for results. -/
theorem seat?_relayed (hs : e.seat? w = some s) (ch : Channel) :
    (e.relayed w w t ch).seat? w = some (s.relayed t) := by
  obtain ⟨v, li, hv, hli, rfl⟩ := exists_of_seat? hs
  have hmoved : (e.listeners.modify w ({ · with stage := t }))[w]? =
      some { li with stage := t } := by
    rw [List.getElem?_modify_eq, hli]
    rfl
  have hsettled : (if t = .receiving then e.crew.acknowledge w else e.crew).workers[w]? =
      some { v with handover := if t = .receiving then .acknowledged else v.handover } := by
    split
    · show (e.crew.workers.modify w _)[w]? = _
      rw [List.getElem?_modify_eq, hv]
      rfl
    · exact hv
  exact seat?_of_some (e := e.relayed w w t ch) hsettled hmoved

/-! ### Every step -/

/-- Everything a step can make of the seat of a worker. -/
inductive SeatCase (c : Config) (e : Engine) (w : WorkerId) : Action → Engine → List Event → Prop
  /-- Neither the worker nor its listener runs. -/
  | rests {a : Action} {e' : Engine} {events : List Event} (reseated : Reseated e e' w)
      (other : a ≠ .resume (.listener w)) (quiet : Event.milestones w events = []) :
      SeatCase c e w a e' events
  | works {v v' : Worker} {wa : Worker.Action} {e' : Engine} {events : List Event}
      {listening : ListenerStage}
      (seat : e.seat? w = some ⟨v.stage, v.handover, v.hasConsumer, listening⟩)
      (seat' : e'.seat? w = some ⟨v'.stage, v'.handover, v.hasConsumer, listening⟩)
      (pace : v.Pace v' w (Event.milestones w events)) : SeatCase c e w (.work w wa) e' events
  /-- The worker has left, and the listener has nothing left to do. -/
  | ends {s : Seat} {e' : Engine} (seat : e.seat? w = some s) (stage : s.stage = .exited)
      (handover : s.handover ≠ .offered) (listening : s.listening = .receiving)
      (seat' : e'.seat? w = some { s with listening := .ended }) :
      SeatCase c e w (.resume (.listener w)) e' []
  /-- The listener takes a result, and waits for the lock. -/
  | queues {s : Seat} {e' : Engine} (seat : e.seat? w = some s) (handover : s.handover = .offered)
      (listening : s.listening = .receiving)
      (seat' : e'.seat? w = some { s with listening := .locking, handover := .taken }) :
      SeatCase c e w (.resume (.listener w)) e' []
  /-- The listener takes a result if it has none yet, and publishes or has done so; then it tells
      of it, if there is room. -/
  | relays {s s₀ : Seat} {t : ListenerStage} {ch : Channel} {e' : Engine}
      {events news : List Event} (seat : e.seat? w = some s)
      (due : s.handover = .offered ∧ s.listening = .receiving ∧ s₀ = { s with handover := .taken } ∨
        (s.listening = .locking ∨ s.listening = .sending) ∧ s₀ = s)
      (queue : ch = e.channel ∨ ch = e.channel.join (.listener w))
      (relays : ch.Relays (.listener w) t e'.channel news)
      (told : events = news ∨ events = .published :: news)
      (seat' : e'.seat? w = some (s₀.relayed t)) :
      SeatCase c e w (.resume (.listener w)) e' events
  /-- The listener has got room for one more notification, and acknowledges. -/
  | settles {s : Seat} {e' : Engine} (seat : e.seat? w = some s)
      (listening : s.listening = .reserving)
      (ready : e.channel.isReady (.listener w) = true)
      (channel : e'.channel = e.channel.quit (.listener w))
      (seat' : e'.seat? w = some (s.relayed .receiving)) :
      SeatCase c e w (.resume (.listener w)) e' []

/-- A worker offers a result exactly when one lies in its seat. -/
theorem handover_of_offers (hs : e.seat? w = some s) :
    e.crew.offers w = decide (s.handover = .offered) := by
  obtain ⟨v, li, hv, -, rfl⟩ := exists_of_seat? hs
  rw [Crew.offers, hv, Option.any_some]

/-- A listener that runs leaves other seats alone. -/
theorem seat?_of_listenerStep (h : Paired e) {t : Turn} (ht : ListenerStep c e l t) (hw : w ≠ l) :
    t.1.seat? w = e.seat? w := by
  cases ht with
  | ends => exact seat?_setListener_of_ne hw
  | @queues v hli =>
    obtain rfl : v = l := h.serves l _ hli
    exact (seat?_setListener_of_ne hw).trans (seat?_fetched_of_ne hw)
  | @takes v hli =>
    obtain rfl : v = l := h.serves l _ hli
    obtain ⟨t, ch, news, -, heq⟩ := announce_eq c (e.fetched v v) v v
    rw [heq]
    exact (seat?_relayed_of_ne hw ch).trans (seat?_fetched_of_ne hw)
  | @announces v hli =>
    obtain rfl : v = l := h.serves l _ hli
    obtain ⟨t, ch, news, -, heq⟩ := announce_eq c e v v
    rw [heq]
    exact seat?_relayed_of_ne hw ch
  | @delivers v hli hready =>
    obtain rfl : v = l := h.serves l _ hli
    obtain ⟨t, ch, news, -, -, heq⟩ := deliver_eq e v v hready
    rw [heq]
    exact seat?_relayed_of_ne hw ch
  | @settles v hli =>
    obtain rfl : v = l := h.serves l _ hli
    rw [settle_eq]
    exact seat?_relayed_of_ne hw _

/-- A listener that runs moves its own seat. -/
theorem seatCase_of_listenerStep (h : Paired e) {t : Turn} (ht : ListenerStep c e w t) :
    SeatCase c e w (.resume (.listener w)) t.1 t.2 := by
  -- The listener's number is that of the worker it serves.
  have hseat : ∀ {v : WorkerId} {stage : ListenerStage}, e.listeners[w]? = some ⟨v, stage⟩ →
      v = w ∧ ∃ s, e.seat? w = some s ∧ s.listening = stage := by
    intro v stage hli
    have hlt : w < e.crew.workers.length := by
      rw [← h.length]
      exact (List.getElem?_eq_some_iff.1 hli).1
    exact ⟨h.serves w _ hli, _, seat?_of_some (List.getElem?_eq_getElem hlt) hli, rfl⟩
  cases ht with
  | @ends v hli hnone hgone =>
    obtain ⟨rfl, s, hs, hlistening⟩ := hseat hli
    have hhandover : s.handover ≠ .offered := by
      rw [handover_of_offers hs] at hnone
      exact of_decide_eq_false hnone
    -- A listener ends only when its worker is gone.
    have hexited : s.stage = .exited := by
      obtain ⟨u, li, hu, -, rfl⟩ := exists_of_seat? hs
      rw [Crew.isLive, hu, Option.any_some, Worker.isLive] at hgone
      exact Classical.byContradiction (of_decide_eq_false hgone)
    exact .ends hs hexited hhandover hlistening (seat?_setListener hs)
  | @queues v hli hoffers =>
    obtain ⟨rfl, s, hs, hlistening⟩ := hseat hli
    rw [handover_of_offers hs] at hoffers
    exact .queues hs (of_decide_eq_true hoffers) hlistening (seat?_setListener (seat?_fetched hs))
  | @takes v hli hoffers =>
    obtain ⟨rfl, s, hs, hlistening⟩ := hseat hli
    rw [handover_of_offers hs] at hoffers
    obtain ⟨t, ch, news, hrelays, heq⟩ := announce_eq c (e.fetched v v) v v
    rw [heq]
    refine .relays hs (.inl ⟨of_decide_eq_true hoffers, hlistening, rfl⟩) (.inr rfl) hrelays
      (.inr rfl) ?_
    exact seat?_relayed (e := (e.fetched v v).gathered c (.listener v)) (seat?_fetched hs) ch
  | @announces v hli =>
    obtain ⟨rfl, s, hs, hlistening⟩ := hseat hli
    obtain ⟨t, ch, news, hrelays, heq⟩ := announce_eq c e v v
    rw [heq]
    refine .relays hs (.inr ⟨.inl hlistening, rfl⟩) (.inr rfl) hrelays (.inr rfl) ?_
    exact seat?_relayed (e := e.gathered c (.listener v)) hs ch
  | @delivers v hli hready =>
    obtain ⟨rfl, s, hs, hlistening⟩ := hseat hli
    obtain ⟨t, ch, news, hrelays, -, heq⟩ := deliver_eq e v v hready
    rw [heq]
    exact .relays hs (.inr ⟨.inr hlistening, rfl⟩) (.inl rfl) hrelays (.inl rfl)
      (seat?_relayed hs ch)
  | @settles v hli hready =>
    obtain ⟨rfl, s, hs, hlistening⟩ := hseat hli
    rw [settle_eq]
    exact .settles hs hlistening hready rfl (seat?_relayed hs _)

/-- **A seat changes only when its worker or its listener runs**, comes, or is ended. -/
theorem seatCase_of_step? (h : Paired e) (hs : e.step? c a = some (e', events)) (w : WorkerId) :
    SeatCase c e w a e' events := by
  cases a with
  | alter | elapse | cancel | invoke | hangUp =>
    cases hs
    exact .rests (.same rfl) nofun rfl
  | abandon id =>
    obtain ⟨e₁, he₁, heq⟩ := Option.map_eq_some_iff.1 hs
    cases heq
    refine .rests (.same ?_) nofun rfl
    rw [(abandons_of_abandonCall? he₁).eq]
    rfl
  | resume p =>
    cases p with
    | call id =>
      exact .rests (.resumeCall? h hs w) nofun (Event.milestones_of_isNews (isNews_resumeCall? hs))
    | listener l =>
      -- A step of another listener does not touch the seat.
      have hstep := listenerStep_of_resumeListener? hs
      by_cases hw : w = l
      · subst hw
        exact seatCase_of_listenerStep h hstep
      · refine .rests (.same (seat?_of_listenerStep h hstep hw)) (fun ha => ?_)
          (Event.milestones_of_isNews (isNews_resumeListener? hs))
        cases ha
        exact hw rfl
  | work i wa =>
    obtain ⟨⟨crew, evs⟩, hact, heq⟩ := Option.map_eq_some_iff.1 hs
    cases heq
    obtain ⟨v, t, hv, ht, rfl, rfl⟩ := Crew.exists_turn_of_act? hact
    -- A step of another worker does not touch the seat.
    by_cases hw : w = i
    · subst hw
      obtain ⟨li, hli, hseat⟩ := exists_seat h hv
      have hv' : (e.crew.workers.set w t.worker)[w]? = some t.worker :=
        List.getElem?_set_self (List.getElem?_eq_some_iff.1 hv).1
      refine .works hseat ?_ (Worker.pace_of_act? ht)
      rw [← Worker.hasConsumer_of_act? ht]
      exact seat?_of_some (e := { e with
        crew := { e.crew with world := t.world, workers := e.crew.workers.set w t.worker } }) hv' hli
    · refine .rests (.same (seat?_congr (List.getElem?_set_ne (Ne.symm hw)) rfl)) nofun ?_
      exact Worker.milestones_of_act? ht hw
  | receive =>
    obtain ⟨ch, -, heq⟩ := Option.map_eq_some_iff.1 hs
    cases heq
    exact .rests (.same rfl) nofun rfl

end Engine

end TokenCatalog
