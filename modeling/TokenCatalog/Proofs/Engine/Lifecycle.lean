import TokenCatalog.Proofs.Engine.News
import TokenCatalog.Proofs.Engine.Pairing
import TokenCatalog.Proofs.Engine.Succession
import TokenCatalog.Proofs.Engine.Turns

namespace TokenCatalog

/-!
# Lifecycles — an engine starts once and stops once

Only a started engine has a live worker; and an engine that has been stopped has nobody left who
could fetch, write or publish, as long as no call is given up while it waits for a worker to leave.

* `Lifecycle.Moves`, `moves_of_step` — how a life goes on;
* `Engaged` — a call that waits for a worker to leave does so in a started engine;
* `Halting` — a call to stop that has succeeded has stopped the engine;
* `Retired`, `Retired.step` — nobody is left, and nothing happens any more;
* `lifecycle_safety` — all of it, for every run.
-/

/-- How a life goes on in one step. -/
inductive Lifecycle.Moves : Lifecycle → Lifecycle → Prop
  | stays (l : Lifecycle) : Moves l l
  | starts : Moves .unstarted .started
  | stops : Moves .started .stopped

/-- What a call to stop may wait for, and what its success says. -/
def CallStage.Halts (l : Lifecycle) : CallStage → Prop
  | .joining _ next => next = .stop
  | .sending => False
  | .returned (.ok _) => l = .stopped
  | .locking | .returned (.error _) | .abandoned => True

/-- What a call to stop waits for, and what its success says, stay true as life goes on. -/
theorem CallStage.Halts.moves {l l' : Lifecycle} {s : CallStage} (h : s.Halts l)
    (hm : l.Moves l') : s.Halts l' := by
  cases hm with
  | stays => exact h
  | starts | stops =>
    cases s with
    | returned r =>
      cases r with
      | ok => cases h
      | error => trivial
    | locking | joining | sending | abandoned => exact h

namespace Engine

/-- Nobody fetches, writes or publishes; whatever changes the world comes from the application. -/
structure Transition.IsIdle (t : Transition) : Prop where
  snapshot : t.after.snapshot = t.before.snapshot
  world : t.after.crew.world = t.before.crew.world ∨ t.action = .alter t.after.crew.world
  events : ∀ ev ∈ t.events, ev = .notified ∨ ev = .received

variable {c : Config} {start e e' : Engine} {a : Action} {events : List Event} {id j : CallId}
  {next : AfterLeave} {w : WorkerId} {call : Call} {ts : List Transition}

/-! ### How a life goes on -/

/-- Of what is done after a worker has left, only what a call to stop has planned ends the life. -/
theorem lifecycle_afterLeave (c : Config) (e : Engine) (id : CallId) (next : AfterLeave) :
    (e.afterLeave c id next).1.lifecycle = if next = .stop then .stopped else e.lifecycle := by
  have hdrop : e.dropListener.lifecycle = e.lifecycle := (keeps_dropListener e).lifecycle
  rw [(closes_afterLeave c e id next).lifecycle]
  cases next with
  | restart =>
    rw [if_neg nofun, ← hdrop]
    exact lifecycle_startWorker e.dropListener true
  | stop => rfl
  | done | goPrivate =>
    rw [if_neg nofun]
    exact hdrop

/-- Only a call to stop ends the life when it does its duty. -/
theorem lifecycle_perform (c : Config) (e : Engine) (id : CallId) (d : Duty) :
    (e.perform c id d).1.lifecycle = e.lifecycle ∨
      d = .dismiss .stop ∧ (e.perform c id d).1.lifecycle = .stopped := by
  cases d with
  | refuse | keep => exact .inl rfl
  | publish => exact .inl (closes_publishPrivately c e id).lifecycle
  | hire => exact .inl (lifecycle_startWorker e false)
  | dismiss next =>
    rw [perform]
    rcases stopWorker_eq c e id next with heq | ⟨worker, -, -, heq⟩
    · rw [heq, lifecycle_afterLeave, lifecycle_forget]
      split
      · rename_i hnext
        exact .inr ⟨by rw [hnext], rfl⟩
      · exact .inl rfl
    · rw [heq]
      exact .inl (lifecycle_forget e)

/-- What a call notes moves a life from its beginning at most. -/
theorem moves_note (c : Config) (e : Engine) (call : Call) :
    e.lifecycle.Moves (call.note c e).lifecycle := by
  cases hl : e.lifecycle with
  | unstarted =>
    cases call with
    | start token =>
      simp only [Call.note, hl]
      exact .starts
    | stop | refreshNow | privacyModeUpdated =>
      simp only [Call.note, refusal?, hl]
      exact .stays _
  | started | stopped =>
    have hstarted : e.lifecycle ≠ .unstarted := by
      intro hunstarted
      cases hl.symm.trans hunstarted
    rw [lifecycle_note hstarted, hl]
    exact .stays _

/-- A worker is dismissed in a started engine only. -/
theorem started_of_dismiss (h : call.duty e = .dismiss next) (c : Config) :
    (call.note c e).lifecycle = .started := by
  cases hl : e.lifecycle <;> cases call <;> simp_all [Call.duty, Call.note, refusal?]

/-- Only a call to stop dismisses the worker for good. -/
theorem eq_stop_of_dismiss (h : call.duty e = .dismiss .stop) : call = .stop := by
  cases call with
  | stop => rfl
  | start | refreshNow | privacyModeUpdated =>
    simp only [Call.duty] at h
    repeat' split at h
    all_goals cases h

/-- A call that waits for a worker to leave does so in a started engine. -/
structure Engaged (e : Engine) : Prop where
  joins : ∀ id w next, e.stage? id = some (.joining w next) → e.lifecycle = .started

/-- Who waits for a worker after a call has done its duty did so before, or is that call. -/
theorem joining_of_perform {d : Duty}
    (h : (e.perform c id d).1.stage? j = some (.joining w next)) :
    e.stage? j = some (.joining w next) ∨
      d = .dismiss next ∧ (e.perform c id d).1.lifecycle = e.lifecycle := by
  -- A call that gives up the lock is put where it waits for no worker.
  have hclosed : ∀ {e₁ e₂ : Engine}, e₁.calls = e.calls → Closes id e₁ e₂ →
      e₂.stage? j = some (.joining w next) → e.stage? j = some (.joining w next) := by
    intro e₁ e₂ he₁ hclose hj
    obtain ⟨s, hclear, hcalls⟩ := hclose.calls
    rw [he₁] at hcalls
    exact (stage?_of_modify hcalls hj (ne_joining_of_isClear hclear w next)).2
  cases d with
  | refuse | keep => exact .inl (hclosed rfl (closes_answer e id _) h)
  | publish => exact .inl (hclosed rfl (closes_publishPrivately c e id) h)
  | hire => exact .inl (hclosed (calls_startWorker e false) (closes_answer _ id _) h)
  | dismiss next' =>
    rw [perform] at h ⊢
    -- It goes on at once, or is itself the one that waits.
    rcases stopWorker_eq c e id next' with heq | ⟨worker, -, -, heq⟩
    · rw [heq] at h
      refine .inl (hclosed ?_ (closes_afterLeave c e.forget id next') h)
      rw [calls_heed, (keeps_dropListener _).calls, calls_forget]
    · rw [heq] at h ⊢
      have hcalls : (e.forget.setCall id (.joining worker next')).calls =
          e.calls.modify id ({ · with stage := .joining worker next' }) := by
        rw [setCall, calls_forget]
      rw [stage?_modify hcalls] at h
      split at h
      · obtain ⟨_, -, hstage⟩ := Option.map_eq_some_iff.1 h
        cases hstage
        exact .inr ⟨rfl, lifecycle_forget e⟩
      · exact .inl h

/-- A step keeps the calls that wait for a worker in a started engine. -/
theorem Engaged.step (h : Engaged e) (hc : Custody e) (hs : e.step? c a = some (e', events)) :
    Engaged e' := by
  refine ⟨fun j w next hj => ?_⟩
  cases stepCase_of_step? hs with
  | steady hsteady =>
    rw [stage?_of_calls hsteady.calls] at hj
    rw [hsteady.lifecycle]
    exact h.joins j w next hj
  | invoke call =>
    rw [stage?_invoke] at hj
    split at hj
    · cases hj
    · exact h.joins j w next hj
  | abandon habandon =>
    obtain ⟨-, hj⟩ := stage?_of_modify habandon.calls hj fun heq => by cases heq
    rw [habandon.eq]
    exact h.joins j w next hj
  | @resume i _ _ hresume =>
    have hsplit : ∀ t, CallStep c e i t → t.1 = e' → e'.lifecycle = .started := by
      rintro t ht rfl
      cases ht with
      | @run call hp hheld =>
        rw [runCall_eq] at hj ⊢
        rcases joining_of_perform hj with hold | ⟨hduty, hlife⟩
        · -- Nobody else waits for a worker while this call has the lock, and it did not either.
          rw [stage?_of_calls (calls_note c e call)] at hold
          obtain rfl := (hc.tended hheld).joins j w next hold
          rw [stage?, hp] at hold
          cases hold
        · rw [hlife]
          exact started_of_dismiss hduty c
      | @left call worker next' hp =>
        -- It has had the lock, so no other call has been waiting.
        obtain ⟨hheld, -⟩ := hc.joins i worker next' (stage?_of_getElem? hp)
        obtain ⟨s, hclear, hcalls⟩ := (closes_afterLeave c e i next').calls
        rw [calls_heed, (keeps_dropListener e).calls] at hcalls
        obtain ⟨hne, hold⟩ := stage?_of_modify hcalls hj (ne_joining_of_isClear hclear w next)
        exact absurd ((hc.tended hheld).joins j w next hold) hne
      | sent =>
        obtain ⟨-, hold⟩ := stage?_of_modify (calls_sent e i) hj fun heq => by cases heq
        rw [enqueue_fst]
        exact h.joins j w next hold
    exact hsplit _ (callStep_of_resumeCall? hresume) rfl

/-- In every reachable engine the calls that wait for a worker wait in a started one. -/
theorem engaged_of_reachable (hr : Reachable c e) : Engaged e :=
  hr.invariant_of_reachable (fun _ _ => ⟨nofun⟩) fun _ _ _ _ hr h hs =>
    h.step (custody_of_reachable hr) hs

/-- **A life only goes on.** -/
theorem moves_of_step (h : Engaged e) (hs : e.step? c a = some (e', events)) :
    e.lifecycle.Moves e'.lifecycle := by
  have hsame : e'.lifecycle = e.lifecycle → e.lifecycle.Moves e'.lifecycle := fun heq => by
    rw [heq]
    exact .stays _
  cases stepCase_of_step? hs with
  | steady hsteady => exact hsame hsteady.lifecycle
  | invoke => exact hsame rfl
  | abandon habandon => exact hsame (by rw [habandon.eq]; rfl)
  | @resume i _ _ hresume =>
    have hsplit : ∀ t, CallStep c e i t → t.1 = e' → e.lifecycle.Moves e'.lifecycle := by
      rintro t ht rfl
      -- A call ends the life only by its duty to stop, done at once or after the worker has left.
      cases ht with
      | @run call =>
        rw [runCall_eq]
        rcases lifecycle_perform c (call.note c e) i (call.duty e) with heq | ⟨hduty, heq⟩
        · rw [heq]
          exact moves_note c e call
        · have hstarted := started_of_dismiss hduty c
          obtain rfl := eq_stop_of_dismiss hduty
          have hstarted : e.lifecycle = .started := hstarted
          rw [heq, hstarted]
          exact .stops
      | @left call worker next hp =>
        have hstarted := h.joins i worker next (stage?_of_getElem? hp)
        rw [lifecycle_afterLeave, hstarted]
        split
        · exact .stops
        · exact .stays _
      | sent => exact hsame (Keeps.enqueue e (.call i)).lifecycle
    exact hsplit _ (callStep_of_resumeCall? hresume) rfl

/-! ### Before the first start -/

/-- A listener that runs is there, and has not ended. -/
theorem exists_listener_of_resumeListener? {l : ListenerId} {t : Turn}
    (h : e.resumeListener? c l = some t) :
    ∃ li, e.listeners[l]? = some li ∧ li.stage ≠ .ended := by
  cases listenerStep_of_resumeListener? h with
  | ends hli | queues hli | takes hli | announces hli | delivers hli | settles hli =>
    exact ⟨_, hli, nofun⟩

/-- An engine that has not been started never had been. -/
theorem unstarted_of_step (hs : e.step? c a = some (e', events)) (hl : e'.lifecycle = .unstarted) :
    e.lifecycle = .unstarted :=
  Classical.byContradiction fun h => lifecycle_of_step h hs hl

/-- An engine that has not been started has no workers yet. -/
theorem workers_of_unstarted (hp : Paired e) (hl : e.lifecycle = .unstarted) :
    e.crew.workers = [] := by
  rw [← List.length_eq_zero_iff, ← hp.length, hp.unstarted hl]
  rfl

/-- Nothing is published before the engine starts. -/
theorem snapshot_of_unstarted (hr : Reachable c e) (hl : e.lifecycle = .unstarted) :
    e.snapshot = {} := by
  revert hl
  refine hr.invariant_of_reachable (P := fun e => e.lifecycle = .unstarted → e.snapshot = {})
    (fun _ _ _ => rfl) ?_
  intro e a e' events hr h hs hl'
  have hl := unstarted_of_step hs hl'
  have hsnapshot := h hl
  cases newsCase_of_step? hs with
  | still htidies => exact htidies.snapshot.trans hsnapshot
  | forsakes _ heq | posts heq | receives heq | hangsUp heq => exact heq.trans hsnapshot
  | @announces l =>
    obtain ⟨li, hli, -⟩ := exists_listener_of_resumeListener? hs
    rw [(paired_of_reachable hr).unstarted hl] at hli
    cases hli
  | @opens i | @republishes i =>
    -- A call that gets its turn now is refused, unless it starts the engine.
    have hsplit : ∀ t, CallStep c e i t → t.1 = e' → e'.snapshot = {} := by
      rintro t ht rfl
      cases ht with
      | @run call =>
        cases hm : call.misuse? e.lifecycle with
        | some error =>
          rw [runCall_of_misuse hm]
          exact hsnapshot
        | none =>
          rcases refuses_or_begins hl c call with ⟨error, hduty⟩ | hbegins
          · rw [duty_eq_refuse_iff, hm] at hduty
            cases hduty
          · rw [runCall_eq] at hl'
            exact absurd hl' (callInvariant_lifecycle.perform hbegins c i _)
      | @left call worker next hp =>
        have hstarted := (engaged_of_reachable hr).joins i worker next (stage?_of_getElem? hp)
        rw [hl] at hstarted
        cases hstarted
      | sent =>
        rw [enqueue_fst]
        exact hsnapshot
    exact hsplit _ (callStep_of_resumeCall? hs) rfl

/-- Nothing is requested before the engine starts. -/
theorem not_requested_of_unstarted {allowed : Engine → Action → Prop} {world : World}
    {capacity : Nat} (hp : Path c allowed (initial world capacity) ts e)
    (hl : e.lifecycle = .unstarted) : ∀ t ∈ ts, ∀ f r b, .requested f r b ∉ t.events := by
  induction hp with
  | nil => exact fun t ht => absurd ht List.not_mem_nil
  | snoc path _ hs ih =>
    have hl₀ := unstarted_of_step hs hl
    have hpaired := paired_of_reachable ((reachable_initial c world capacity).path path)
    refine List.forall_mem_append.2 ⟨ih hl₀, List.forall_mem_singleton.2 fun f r b hreq => ?_⟩
    -- Only a worker sends requests, and there is none.
    obtain ⟨i, wa, crew, -, hact, -⟩ := exists_act_of_step hs hreq nofun
    obtain ⟨v, t, hv, -⟩ := Crew.exists_turn_of_act? hact
    rw [workers_of_unstarted hpaired hl₀] at hv
    cases hv

/-! ### After the stop -/

/-- A call to stop waits for the lock or for a worker to leave, and once it has succeeded, the
    engine has been stopped. -/
structure Halting (e : Engine) : Prop where
  plan : ∀ (id : CallId) (s : CallStage), e.calls[id]? = some ⟨.stop, s⟩ → s.Halts e.lifecycle

/-- As long as no call moves, the lives of calls to stop go on with the engine's. -/
theorem Halting.congr (h : Halting e) (hm : e.lifecycle.Moves e'.lifecycle)
    (hcalls : e'.calls = e.calls) : Halting e' :=
  ⟨fun id s hid => (h.plan id s (hcalls ▸ hid)).moves hm⟩

/-- One call moves. -/
theorem Halting.modify {s : CallStage} (h : Halting e) (hm : e.lifecycle.Moves e'.lifecycle)
    (hcalls : e'.calls = e.calls.modify id ({ · with stage := s }))
    (hs : ∀ s₀, e.calls[id]? = some ⟨.stop, s₀⟩ → s.Halts e'.lifecycle) : Halting e' := by
  refine ⟨fun j t hj => ?_⟩
  rw [hcalls, List.getElem?_modify] at hj
  obtain ⟨⟨call, s₀⟩, hp, heq⟩ := Option.map_eq_some_iff.1 hj
  by_cases hid : id = j
  · subst hid
    rw [if_pos rfl] at heq
    cases heq
    exact hs s₀ hp
  · rw [if_neg hid] at heq
    cases heq
    exact (h.plan j t hp).moves hm

/-- A call to stop whose worker has left has stopped the engine, and succeeds. -/
theorem halts_afterLeave (c : Config) (e : Engine) (id : CallId) :
    (e.afterLeave c id .stop).1.calls =
        e.calls.modify id ({ · with stage := .returned (.ok ()) }) ∧
      (e.afterLeave c id .stop).1.lifecycle = .stopped := by
  refine ⟨?_, rfl⟩
  rw [← (keeps_dropListener e).calls]
  rfl

/-- A call to stop waits for its worker, or has stopped the engine. -/
theorem halts_stopWorker (c : Config) (e : Engine) (id : CallId) :
    ∃ s : CallStage, s.Halts (e.stopWorker c id .stop).1.lifecycle ∧
      (e.stopWorker c id .stop).1.calls = e.calls.modify id ({ · with stage := s }) := by
  rcases stopWorker_eq c e id .stop with heq | ⟨worker, -, -, heq⟩
  · obtain ⟨hcalls, hlife⟩ := halts_afterLeave c e.forget id
    rw [heq, hcalls, calls_forget]
    exact ⟨.returned (.ok ()), hlife, rfl⟩
  · rw [heq]
    exact ⟨.joining worker .stop, rfl, by rw [setCall, calls_forget]⟩

/-- A step keeps what calls to stop wait for, and what their success says. -/
theorem Halting.step (h : Halting e) (hm : e.lifecycle.Moves e'.lifecycle)
    (hs : e.step? c a = some (e', events)) : Halting e' := by
  cases stepCase_of_step? hs with
  | steady hsteady => exact h.congr hm hsteady.calls
  | invoke call =>
    refine ⟨fun j s hj => ?_⟩
    have hj : (e.calls ++ [{ call := call }])[j]? = some ⟨.stop, s⟩ := hj
    rw [getElem?_snoc] at hj
    split at hj
    · cases hj
      trivial
    · exact (h.plan j s hj).moves hm
  | abandon habandon => exact h.modify hm habandon.calls fun _ _ => trivial
  | @resume i _ _ hresume =>
    have hsplit : ∀ t, CallStep c e i t → t.1 = e' → Halting e' := by
      rintro t ht rfl
      cases ht with
      | @run call hp =>
        obtain ⟨s, hcalls⟩ := calls_resumeCall? hresume
        -- What a call to stop does is what it has to; other calls are not meant.
        by_cases hstop : call = .stop
        · subst hstop
          cases hrefusal : e.refusal? with
          | some error =>
            have hrun : e.runCall c i .stop = e.answer i (.error error) := by
              simp only [runCall, hrefusal]
            rw [hrun] at hm ⊢
            exact h.modify (s := .returned (.error error)) hm rfl fun _ _ => trivial
          | none =>
            have hrun : e.runCall c i .stop = e.stopWorker c i .stop := by
              simp only [runCall, hrefusal]
            obtain ⟨s, hhalts, hcalls⟩ := halts_stopWorker c e i
            rw [hrun] at hm ⊢
            exact h.modify hm hcalls fun _ _ => hhalts
        · refine h.modify hm hcalls fun s₀ hs₀ => ?_
          rw [hp] at hs₀
          cases hs₀
          exact absurd rfl hstop
      -- A call to stop that waited for a worker had planned nothing else.
      | @left call worker next hp =>
        by_cases hstop : call = .stop
        · subst hstop
          obtain rfl : next = .stop := h.plan i _ hp
          obtain ⟨hcalls, hlife⟩ := halts_afterLeave c e i
          exact h.modify hm hcalls fun _ _ => hlife
        · obtain ⟨s, -, hcalls⟩ := calls_afterLeave c e i next
          refine h.modify hm hcalls fun s₀ hs₀ => ?_
          rw [hp] at hs₀
          cases hs₀
          exact absurd rfl hstop
      | @sent call hp =>
        refine h.modify hm (calls_sent e i) fun s₀ hs₀ => ?_
        rw [hp] at hs₀
        cases hs₀
        exact (h.plan i _ hp).elim
    exact hsplit _ (callStep_of_resumeCall? hresume) rfl

/-- In every reachable engine a call to stop that has succeeded has stopped it. -/
theorem halting_of_reachable (hr : Reachable c e) : Halting e :=
  hr.invariant_of_reachable (fun _ _ => ⟨nofun⟩) fun _ _ _ _ hr h hs =>
    h.step (moves_of_step (engaged_of_reachable hr) hs) hs

/-- The engine has been stopped, every worker has left, and every listener has ended. -/
structure Retired (e : Engine) : Prop where
  lifecycle : e.lifecycle = .stopped
  gone : ∀ w, e.crew.isLive w = false
  ended : ∀ (l : ListenerId) (li : Listener), e.listeners[l]? = some li → li.stage = .ended

/-- Whether nobody is left depends on the life, the workers and the listeners. -/
theorem Retired.congr (h : Retired e) (hlife : e'.lifecycle = e.lifecycle)
    (hworkers : e'.crew.workers = e.crew.workers) (hlisteners : e'.listeners = e.listeners) :
    Retired e' where
  lifecycle := hlife.trans h.lifecycle
  gone w := by
    rw [Crew.isLive, hworkers]
    exact h.gone w
  ended l li hli := h.ended l li (hlisteners ▸ hli)

/-- What others see of a send is the notification. -/
theorem eq_notified_of_enqueue (e : Engine) (p : Process) :
    ∀ ev ∈ (e.enqueue p).2, ev = .notified ∨ ev = .received := by
  unfold enqueue
  split
  · exact fun ev hev => .inl (List.mem_singleton.1 hev)
  · exact fun ev hev => absurd hev List.not_mem_nil

/-- **Nothing happens any more.**  Calls are refused, and there is nobody else. -/
theorem Retired.step (h : Retired e) (he : Engaged e) (hs : e.step? c a = some (e', events)) :
    Retired e' ∧ Transition.IsIdle ⟨e, a, e', events⟩ := by
  have hnone : ∀ ev ∈ ([] : List Event), ev = .notified ∨ ev = .received := fun ev hev =>
    absurd hev List.not_mem_nil
  cases a with
  | alter =>
    cases hs
    exact ⟨h.congr rfl rfl rfl, rfl, .inr rfl, hnone⟩
  | elapse | cancel | invoke | hangUp =>
    cases hs
    exact ⟨h.congr rfl rfl rfl, rfl, .inl rfl, hnone⟩
  | abandon i =>
    obtain ⟨e₁, he₁, heq⟩ := Option.map_eq_some_iff.1 hs
    cases heq
    rw [(abandons_of_abandonCall? he₁).eq]
    exact ⟨h.congr rfl rfl rfl, rfl, .inl rfl, hnone⟩
  | resume p =>
    cases p with
    | call i =>
      have hsplit : ∀ t, CallStep c e i t → t = (e', events) →
          Retired e' ∧ Transition.IsIdle ⟨e, .resume (.call i), e', events⟩ := by
        intro t ht heq
        cases ht with
        -- A stopped engine refuses every call, and no call waits for a worker.
        | @run call =>
          rw [runCall_of_stopped h.lifecycle] at heq
          cases heq
          exact ⟨h.congr rfl rfl rfl, rfl, .inl rfl, hnone⟩
        | @left call worker next hp =>
          have hstarted := he.joins i worker next (stage?_of_getElem? hp)
          rw [h.lifecycle] at hstarted
          cases hstarted
        | sent =>
          cases heq
          rw [enqueue_fst]
          exact ⟨h.congr rfl rfl rfl, rfl, .inl rfl, eq_notified_of_enqueue e (.call i)⟩
      exact hsplit _ (callStep_of_resumeCall? hs) rfl
    | listener l =>
      -- Every listener has ended, so none takes a step.
      obtain ⟨li, hli, hactive⟩ := exists_listener_of_resumeListener? hs
      exact absurd (h.ended l li hli) hactive
  | work i wa =>
    obtain ⟨v, t, hv, ht, -, -⟩ := exists_turn_of_step hs
    -- Every worker has left, so none takes a step.
    have hlive : e.crew.isLive i = true := by
      rw [Crew.isLive, hv, Option.any_some]
      exact Worker.isLive_of_act? ht
    rw [h.gone i] at hlive
    cases hlive
  | receive =>
    obtain ⟨ch, -, heq⟩ := Option.map_eq_some_iff.1 hs
    cases heq
    exact ⟨h.congr rfl rfl rfl, rfl, .inl rfl, fun ev hev => .inr (List.mem_singleton.1 hev)⟩

/-- A call that stops an engine in which nobody is live leaves nobody behind. -/
theorem retired_afterLeave (hgone : ∀ w, e.crew.isLive w = false) (hp : Paired e) (c : Config)
    (id : CallId) : Retired (e.afterLeave c id .stop).1 where
  lifecycle := rfl
  gone w := by
    show e.dropListener.crew.isLive w = false
    rw [isLive_of_bare (keeps_dropListener e).crew]
    exact hgone w
  ended _ _ hli := hp.ended_dropListener hli

/-- A call to stop that finds no worker, or whose worker has left, leaves nobody behind. -/
theorem retired_stopWorker (h : Single e) (hp : Paired e) (hl : e.lifecycle ≠ .stopped)
    (hstopped : (e.stopWorker c id .stop).1.lifecycle = .stopped) :
    Retired (e.stopWorker c id .stop).1 := by
  cases hlive : e.hasLiveWorker with
  | false =>
    have hnone : e.forget.hasLiveWorker = false := by
      rw [hasLiveWorker, worker_forget]
      rfl
    rw [stopWorker_of_not_hasLiveWorker c id .stop hlive]
    exact retired_afterLeave ((h.forget hlive).not_isLive hnone) hp.forget c id
  | true =>
    -- It waits, and the engine has not been stopped yet.
    obtain ⟨worker, hworker, hlive'⟩ := (Option.any_eq_true _ _).1 hlive
    have hstop : (e.stopWorker c id .stop).1 = e.forget.setCall id (.joining worker .stop) := by
      simp only [Engine.stopWorker, Engine.forget, hworker, Crew.isLive_stop, hlive', if_true]
    rw [hstop] at hstopped
    exact absurd ((lifecycle_forget e).symm.trans hstopped) hl

/-- Whoever stops an engine has seen its worker leave. -/
theorem retired_of_step (hr : Reachable c e) (hsucc : Succession e)
    (hs : e.step? c a = some (e', events)) (hl : e.lifecycle ≠ .stopped)
    (hstopped : e'.lifecycle = .stopped) : Retired e' := by
  have hc := custody_of_reachable hr
  have hpaired := paired_of_reachable hr
  cases stepCase_of_step? hs with
  | steady hsteady => exact absurd (hsteady.lifecycle.symm.trans hstopped) hl
  | invoke => exact absurd hstopped hl
  | abandon habandon =>
    rw [habandon.eq] at hstopped
    exact absurd hstopped hl
  | @resume i _ _ hresume =>
    have hsplit : ∀ t, CallStep c e i t → t.1 = e' → Retired e' := by
      rintro t ht rfl
      cases ht with
      | @run call hp hheld =>
        -- What the call notes does not stop the engine; so its duty was to.
        have hnoted : (call.note c e).lifecycle ≠ .stopped := by
          intro heq
          by_cases hnew : e.lifecycle = .unstarted
          · have hmoves := moves_note c e call
            rw [hnew, heq] at hmoves
            cases hmoves
          · exact hl ((lifecycle_note hnew c call).symm.trans heq)
        rw [runCall_eq] at hstopped ⊢
        rcases lifecycle_perform c (call.note c e) i (call.duty e) with heq | ⟨hduty, -⟩
        · exact absurd (heq.symm.trans hstopped) hnoted
        · rw [hduty] at hstopped ⊢
          obtain rfl := eq_stop_of_dismiss hduty
          exact retired_stopWorker (hsucc.single hc hp rfl hheld) hpaired hl hstopped
      | @left call worker next hp hgone =>
        rw [lifecycle_afterLeave] at hstopped
        split at hstopped
        -- The worker it waited for has left, and no other is live.
        · rename_i hnext
          subst hnext
          have hj : e.stage? i = some (.joining worker .stop) := stage?_of_getElem? hp
          have hnone : e.hasLiveWorker = false := by
            rw [hasLiveWorker, (hc.joins i worker .stop hj).2]
            rfl
          exact retired_afterLeave ((hsucc.single_of_left hc hj hgone).not_isLive hnone) hpaired c i
        · exact absurd hstopped hl
      | sent => exact absurd ((Keeps.enqueue e (.call i)).lifecycle.symm.trans hstopped) hl
    exact hsplit _ (callStep_of_resumeCall? hresume) rfl

/-- On a run on which nobody gives up waiting for a worker, an engine that has been stopped has
    nobody left. -/
theorem retired_of_path {world : World} {capacity : Nat}
    (hp : Path c Patient (initial world capacity) ts e) (hl : e.lifecycle = .stopped) :
    Retired e := by
  have hall : Reachable c e ∧ Succession e ∧ (e.lifecycle = .stopped → Retired e) := by
    refine hp.invariant
      (P := fun e => Reachable c e ∧ Succession e ∧ (e.lifecycle = .stopped → Retired e))
      ⟨reachable_initial c world capacity, succession_initial world capacity, nofun⟩ ?_
    rintro e a e' events ⟨hr, hsucc, hretired⟩ ok hs
    refine ⟨hr.step hs, hsucc.step (custody_of_reachable hr) ok hs, fun hl' => ?_⟩
    by_cases hl : e.lifecycle = .stopped
    · exact ((hretired hl).step (engaged_of_reachable hr) hs).1
    · exact retired_of_step hr hsucc hs hl hl'
  exact hall.2.2 hl

/-- Whatever comes after that, and even if calls are given up, nothing happens any more. -/
theorem Retired.isIdle_of_path {allowed : Engine → Action → Prop} (h : Retired start)
    (hr : Reachable c start) (hp : Path c allowed start ts e) : ∀ t ∈ ts, t.IsIdle := by
  obtain ⟨hbefore, -⟩ := hp.invariant_before (P := fun e => Reachable c e ∧ Retired e) ⟨hr, h⟩
    fun _ _ _ _ h _ hs => ⟨h.1.step hs, (h.2.step (engaged_of_reachable h.1) hs).1⟩
  intro t ht
  obtain ⟨hr', hretired⟩ := hbefore t ht
  exact (hretired.step (engaged_of_reachable hr') (hp.step_of_mem ht).2).2

/-! ### The main result -/

/-- **Lifecycle safety.**  On a run on which no call is given up while it waits for a worker to leave,
    a life only goes from unstarted over started to stopped.  A call that is out of place when it
    gets its turn is refused for just that reason, and gives up the lock, nothing else; no call is
    refused otherwise.  Workers are live only in a started engine, and before that nothing has been
    published or requested.  Once a call to stop has succeeded, nobody fetches, writes or publishes
    any more, whatever comes. -/
theorem lifecycle_safety {world : World} {capacity : Nat}
    (hp : Path c Patient (initial world capacity) ts e) :
    (∀ t ∈ ts, t.before.lifecycle.Moves t.after.lifecycle) ∧
    (∀ id call error, e.calls[id]? = some ⟨call, .locking⟩ → e.holds (.call id) = true →
      call.misuse? e.lifecycle = some error →
      e.step? c (.resume (.call id)) =
        some ({ e with
          lock := e.lock.erase (.call id)
          calls := e.calls.modify id ({ · with stage := .returned (.error error) }) }, [])) ∧
    (∀ t ∈ ts, ∀ id error, t.after.stage? id = some (.returned (.error error)) →
      t.before.stage? id = some (.returned (.error error)) ∨
        t.action = .resume (.call id) ∧ ∃ call, t.before.calls[id]? = some ⟨call, .locking⟩ ∧
          call.misuse? t.before.lifecycle = some error) ∧
    (∀ w, e.crew.isLive w = true → e.lifecycle = .started) ∧
    (e.lifecycle = .unstarted →
      e.snapshot = {} ∧ ∀ t ∈ ts, ∀ f r b, .requested f r b ∉ t.events) ∧
    ∀ id : CallId, e.calls[id]? = some ⟨.stop, .returned (.ok ())⟩ →
      ∀ (allowed : Engine → Action → Prop) us e', Path c allowed e us e' → ∀ u ∈ us, u.IsIdle := by
  have hr : Reachable c e := (reachable_initial c world capacity).path hp
  -- Every state on the path can be reached.
  obtain ⟨hbefore, -⟩ := hp.invariant_before (P := Reachable c)
    (reachable_initial c world capacity) fun _ _ _ _ hr _ hs => hr.step hs
  refine ⟨fun t ht => ?_, fun id call error hpending hheld hm => ?_, fun t ht id error => ?_,
    fun w hlive => ?_, fun hl => ?_, fun id hid allowed us e' hpath => ?_⟩
  · exact moves_of_step (engaged_of_reachable (hbefore t ht)) (hp.step_of_mem ht).2
  · have hrun : e.resumeCall? c id = some (e.runCall c id call) := by
      simp only [resumeCall?, hpending, hheld, if_true]
    rw [runCall_of_misuse hm] at hrun
    exact hrun
  · exact misuse_of_error (hp.step_of_mem ht).2
  -- A live worker rules out both ends of a life.
  · cases hl : e.lifecycle with
    | unstarted =>
      rw [Crew.isLive, workers_of_unstarted (paired_of_reachable hr) hl] at hlive
      cases hlive
    | started => rfl
    | stopped =>
      rw [(retired_of_path hp hl).gone w] at hlive
      cases hlive
  · exact ⟨snapshot_of_unstarted hr hl, not_requested_of_unstarted hp hl⟩
  · have hstopped : e.lifecycle = .stopped := (halting_of_reachable hr).plan id _ hid
    exact (retired_of_path hp hstopped).isIdle_of_path hr hpath

/-- A refresh waits for a list when the engine is stopped: the task is cancelled, the refresh ends
    without it, and the listener that has taken its result waits for the lock that the call to stop
    has. -/
def halted : List Transition × Engine :=
  follow .remote (initial { now := 10000 } 1)
    (asking "remote" "https://a.example" ++
      [.invoke .stop, .resume (.call 1), .work 0 (.taskAnswered 0 (.error .cancelled)),
        .work 0 (.collect false), .resume (.listener 0), .resume (.call 1)])

/-- All that the kernel has to find out about that run. -/
theorem halted_facts : (∀ t ∈ halted.1, Patient t.before t.action) ∧ halted.1.length = 11 ∧
    halted.2.calls[1]?.map (·.call) = some .stop ∧ halted.2.hasSucceeded 1 = true := by
  decide +kernel

/-- The halted run is a run in which nobody loses patience. -/
theorem path_halted : Path .remote Patient (initial { now := 10000 } 1) halted.1 halted.2 :=
  path_follow halted_facts.1

/-- In the halted run the call to stop succeeds. -/
theorem getElem?_calls_halted : halted.2.calls[1]? = some ⟨.stop, .returned (.ok ())⟩ := by
  obtain ⟨-, -, hcall, hdone⟩ := halted_facts
  obtain ⟨⟨call, s⟩, hp, rfl⟩ := Option.map_eq_some_iff.1 hcall
  have hstage := hasSucceeded_iff.1 hdone
  rw [stage?, hp] at hstage
  cases hstage
  exact hp

/-- After that stop nothing happens any more. -/
theorem lifecycle_safety_amid_refresh : halted.2.hasSucceeded 1 = true ∧
    (∀ w, halted.2.crew.isLive w = true → halted.2.lifecycle = .started) ∧
    ∀ us e', Path .remote (fun _ _ => True) halted.2 us e' → ∀ u ∈ us, u.IsIdle := by
  obtain ⟨-, -, -, hlive, -, hidle⟩ := lifecycle_safety path_halted
  exact ⟨halted_facts.2.2.2, hlive, hidle 1 getElem?_calls_halted _⟩

end Engine

end TokenCatalog
