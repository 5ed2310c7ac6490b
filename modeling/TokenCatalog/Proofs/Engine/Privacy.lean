import TokenCatalog.Proofs.Engine.Custody

namespace TokenCatalog

/-!
# Privacy — nothing goes over the network

Once a call that found the guard on has returned, nobody sends a request, whichever way calls,
workers and listeners interleave, until some later call finds the guard off.

* `Engine.seesPublic` — a call gets its turn and finds the guard off;
* `Engine.Quiet` — no worker is known, and no call is about to start one;
* `Engine.Quiet.step` — so it stays until a call sees that the guard is off;
* `Engine.quiet_of_path` — so it is once a call has returned that found the guard on;
* `Engine.silent_while_private` — hence nothing is requested from then on.
-/

namespace Call

/-- Whether a call looks at the guard when it gets its turn. -/
def looks : Call → Lifecycle → Bool
  | .start _, .unstarted | .refreshNow _, .started | .privacyModeUpdated _, .started => true
  | _, _ => false

/-- Whether a call sends the worker away if it finds the guard on. -/
def obeys : Call → Bool
  | .start _ | .privacyModeUpdated _ => true
  | .stop | .refreshNow _ => false

end Call

/-- Whether a duty may bring a new worker. -/
def Duty.Hires : Duty → Prop
  | .hire | .dismiss .restart => True
  | _ => False

namespace Engine

variable {c : Config} {e e' : Engine} {a : Action} {events : List Event} {id : CallId}

/-- Whether an action gives a call its turn, and the call looks at the guard. -/
def looks (e : Engine) : Action → Bool
  | .resume (.call id) =>
    match e.calls[id]? with
    | some ⟨call, .locking⟩ => e.holds (.call id) && call.looks e.lifecycle
    | _ => false
  | _ => false

/-- Whether an action gives a call its turn, and the call finds the guard off. -/
def seesPublic (e : Engine) (a : Action) : Bool := e.looks a && !e.crew.world.isOffline

/-- Only a call that looks at the guard hires, and only while it sees it off. -/
theorem hires_duty {call : Call} (h : (call.duty e).Hires) :
    call.looks e.lifecycle = true ∧ e.crew.world.isOffline = false := by
  cases call <;> simp only [Call.duty, refusal?] at h <;> cases hl : e.lifecycle <;>
    simp only [hl] at h <;> cases hoff : e.crew.world.isOffline <;>
    simp_all [Duty.Hires, Call.looks]

/-! ### Quiet -/

/-- No worker is known, and no call is about to start one. -/
structure Quiet (e : Engine) : Prop where
  worker : e.worker = none
  joins : ∀ id w, e.stage? id ≠ some (.joining w .restart)

/-- In order and quiet: nobody runs. -/
theorem Quiet.not_runs (h : Quiet e) (hc : Custody e) (w : WorkerId) : e.crew.runs w = false := by
  rw [Bool.eq_false_iff]
  intro hrun
  have hknown := ((hc.runs w).1 hrun).1
  rw [h.worker] at hknown
  cases hknown

/-- A steady step keeps the engine quiet. -/
theorem Quiet.steady (h : Quiet e) (hs : Steady e e') : Quiet e' := by
  refine ⟨hs.worker.trans h.worker, fun j w => ?_⟩
  rw [stage?_of_calls hs.calls]
  exact h.joins j w

/-- A call moves; it does not wait to start a worker. -/
theorem Quiet.of_modify {s : CallStage} (hworker : e'.worker = none)
    (hcalls : e'.calls = e.calls.modify id ({ · with stage := s }))
    (hs : ∀ w, s ≠ .joining w .restart)
    (hj : ∀ j w, j ≠ id → e.stage? j ≠ some (.joining w .restart)) : Quiet e' := by
  refine ⟨hworker, fun j w hjoin => ?_⟩
  obtain ⟨hjid, hjoin⟩ := stage?_of_modify hcalls hjoin (hs w)
  exact hj j w hjid hjoin

/-- A call that gives up the lock leaves the engine quiet where no worker is known or waited for. -/
theorem Quiet.of_closes (h : Closes id e e') (hworker : e.worker = none)
    (hj : ∀ j w, j ≠ id → e.stage? j ≠ some (.joining w .restart)) : Quiet e' := by
  obtain ⟨s, hclear, hcalls⟩ := h.calls
  exact .of_modify (h.worker.trans hworker) hcalls
    (fun w => ne_joining_of_isClear hclear w .restart) hj

section

variable {next : AfterLeave} (hnext : next ≠ .restart)
  (hj : ∀ j w, j ≠ id → e.stage? j ≠ some (.joining w .restart))
include hnext hj

/-- What is done after the worker has left leaves the engine quiet, unless a restart was planned. -/
theorem quiet_afterLeave (c : Config) (hworker : e.worker = none) :
    Quiet (e.afterLeave c id next).1 := by
  refine .of_closes (closes_afterLeave c e id next) ?_ fun j w hjid => ?_
  · have hdrop : e.dropListener.worker = none := (keeps_dropListener e).worker.trans hworker
    cases next with
    | restart => exact absurd rfl hnext
    | done | stop | goPrivate => exact hdrop
  · rw [stage?_of_calls (e := e) (by rw [calls_heed, (keeps_dropListener e).calls])]
    exact hj j w hjid

/-- Whoever dismisses the worker for good leaves quiet behind. -/
theorem quiet_stopWorker (c : Config) : Quiet (e.stopWorker c id next).1 := by
  rcases stopWorker_eq c e id next with heq | ⟨worker, -, -, heq⟩
  · rw [heq]
    refine quiet_afterLeave hnext (fun j w hjid => ?_) c (worker_forget e)
    rw [stage?_of_calls (calls_forget e)]
    exact hj j w hjid
  · rw [heq]
    refine .of_modify (worker_forget e) (by rw [setCall, calls_forget]) (fun w hs => ?_) hj
    cases hs
    exact hnext rfl

end

/-- A call whose duty is not to hire leaves the engine quiet. -/
theorem Quiet.perform (h : Quiet e) (c : Config) {d : Duty} (hd : ¬ d.Hires) :
    Quiet (e.perform c id d).1 := by
  have hj : ∀ j w, j ≠ id → e.stage? j ≠ some (.joining w .restart) := fun j w _ => h.joins j w
  cases d with
  | refuse error => exact .of_closes (closes_answer e id _) h.worker hj
  | keep => exact .of_closes (closes_answer e id _) h.worker hj
  | publish => exact .of_closes (closes_publishPrivately c e id) h.worker hj
  | hire => exact absurd trivial hd
  | dismiss next =>
    refine quiet_stopWorker (fun hnext => ?_) hj c
    rw [hnext] at hd
    exact hd trivial

/-- A call that notes what it sees leaves the engine quiet. -/
theorem Quiet.note (h : Quiet e) (c : Config) (call : Call) : Quiet (call.note c e) := by
  refine ⟨(worker_note c e call).trans h.worker, fun j w => ?_⟩
  rw [stage?_of_calls (calls_note c e call)]
  exact h.joins j w

/-- **Quiet lasts until a call sees that the guard is off.** -/
theorem Quiet.step (h : Quiet e) (hpublic : e.seesPublic a = false)
    (hs : e.step? c a = some (e', events)) : Quiet e' := by
  cases stepCase_of_step? hs with
  | steady hsteady => exact h.steady hsteady
  | invoke call =>
    refine ⟨h.worker, fun j w => ?_⟩
    rw [stage?_invoke]
    split
    · intro hjoining
      cases hjoining
    · exact h.joins j w
  | abandon habandon =>
    exact .of_modify (habandon.worker.trans h.worker) habandon.calls (by simp) fun j w _ =>
      h.joins j w
  | @resume i _ _ hresume =>
    have hcase := callStep_of_resumeCall? hresume
    have hsplit : ∀ t, CallStep c e i t → Quiet t.1 := by
      intro t ht
      cases ht with
      | @run call hpending hholds =>
        -- A call that may bring a worker has seen that the guard is off.
        rw [runCall_eq]
        refine (h.note c call).perform c fun hhires => ?_
        obtain ⟨hlooks, hoff⟩ := hires_duty hhires
        simp [seesPublic, looks, hpending, hholds, hlooks, hoff] at hpublic
      | @left call worker next hpending =>
        refine quiet_afterLeave (fun hnext => ?_) (fun j w _ => h.joins j w) c h.worker
        exact h.joins i worker (by rw [stage?, hpending, hnext]; rfl)
      | sent =>
        have hworker := (Keeps.enqueue e (.call i)).worker.trans h.worker
        exact .of_modify hworker (calls_sent e i) (by simp) fun j w _ => h.joins j w
    exact hsplit _ hcase

/-- What a call that obeys the guard has to do when it finds it on. -/
theorem duty_of_obeys {call : Call} (hobeys : call.obeys = true)
    (hoff : e.crew.world.isOffline = true) :
    (∃ error, call.duty e = .refuse error) ∨
      ∃ next, next ≠ .restart ∧ call.duty e = .dismiss next := by
  cases call with
  | start token =>
    cases hl : e.lifecycle with
    | unstarted => exact .inr ⟨.done, by simp, by simp [Call.duty, hl, hoff]⟩
    | started => exact .inl ⟨.alreadyStarted, by simp [Call.duty, hl]⟩
    | stopped => exact .inl ⟨.alreadyStopped, by simp [Call.duty, hl]⟩
  | privacyModeUpdated token =>
    cases hr : e.refusal? with
    | none => exact .inr ⟨.goPrivate e.wasPrivate, by simp, by simp [Call.duty, hr, hoff]⟩
    | some error => exact .inl ⟨error, by simp [Call.duty, hr]⟩
  | stop | refreshNow token => cases hobeys

/-- A call that obeys the guard and finds it on leaves quiet behind, unless it is refused. -/
theorem quiet_runCall {call : Call} (hc : Custody e)
    (hpending : e.calls[id]? = some ⟨call, .locking⟩) (hheld : e.holds (.call id) = true)
    (hobeys : call.obeys = true) (hoff : e.crew.world.isOffline = true) :
    Quiet (e.runCall c id call).1 ∨
      ∃ error, (e.runCall c id call).1.stage? id = some (.returned (.error error)) := by
  rw [runCall_eq]
  rcases duty_of_obeys hobeys hoff with ⟨error, hd⟩ | ⟨next, hnext, hd⟩
  · right
    refine ⟨error, ?_⟩
    rw [hd]
    rw [← calls_note c e call] at hpending
    exact stage?_modify_self hpending rfl
  · -- The call has the lock, so no other one waits for a worker to leave.
    left
    rw [hd]
    refine quiet_stopWorker hnext (fun j w hjid hj => ?_) c
    rw [stage?_of_calls (calls_note c e call)] at hj
    exact hjid ((hc.tended hheld).joins j w _ hj)

/-! ### Runs -/

/-- Where a call that obeys a guard which stays on can be: it waits for its turn, it is over without
    success, or it has left quiet behind. -/
structure Obeyed (call : Call) (id : CallId) (e : Engine) : Prop where
  custody : Custody e
  cases : e.calls[id]? = some ⟨call, .locking⟩ ∨
    (∃ s, e.stage? id = some s ∧ s.IsOver ∧ s ≠ .returned (.ok ())) ∨ Quiet e

/-- While the guard stays on, an obeyed call stays obeyed. -/
theorem Obeyed.step {call : Call} (h : Obeyed call id e) (hobeys : call.obeys = true)
    (hoff : e.crew.world.isOffline = true) (hs : e.step? c a = some (e', events)) :
    Obeyed call id e' := by
  refine ⟨h.custody.step hs, ?_⟩
  rcases h.cases with hwait | ⟨s, hstage, hover, hfailed⟩ | hquiet
  -- It waits until it moves, and then obeys; once it is over, or has left quiet, that stays so.
  · by_cases hmoves : a.Moves id
    · rcases moves_cases hs hmoves with ⟨-, habandon⟩ | ⟨-, hresume⟩
      · have hstage := stage?_modify_self hwait habandon.calls
        exact .inr (.inl ⟨.abandoned, hstage, trivial, nofun⟩)
      · obtain ⟨hholds, hrun⟩ := runCall_of_resumeCall? hwait hresume
        rcases quiet_runCall (c := c) h.custody hwait hholds hobeys hoff with hq | ⟨error, herr⟩
        · rw [← hrun] at hq
          exact .inr (.inr hq)
        · rw [← hrun] at herr
          exact .inr (.inl ⟨_, herr, trivial, nofun⟩)
    · exact .inl (getElem?_calls_of_step hs hwait hmoves)
  · exact .inr (.inl ⟨s, stage?_of_isOver hs hstage hover, hover, hfailed⟩)
  · refine .inr (.inr (hquiet.step ?_ hs))
    rw [seesPublic, hoff, Bool.not_true, Bool.and_false]

/-- A call that obeys the guard, and throughout which it is on, leaves quiet behind. -/
theorem quiet_of_path {call : Call} {start : Engine} {ts : List Transition}
    (hr : Reachable c start) (hobeys : call.obeys = true)
    (during : Path c Offline (start.invoke call) ts e)
    (returned : e.hasSucceeded start.calls.length = true) : Quiet e := by
  have hstart : Obeyed call start.calls.length (start.invoke call) :=
    ⟨(custody_of_reachable hr).invoke call, .inl (getElem?_calls_invoke start call)⟩
  have hend : Obeyed call start.calls.length e :=
    during.invariant hstart fun _ _ _ _ h hoff hs => h.step hobeys hoff hs
  have hok := hasSucceeded_iff.1 returned
  rcases hend.cases with hwait | ⟨s, hstage, -, hfailed⟩ | hquiet
  · rw [stage?, hwait] at hok
    cases hok
  · rw [hok] at hstage
    exact absurd (Option.some.inj hstage).symm hfailed
  · exact hquiet

/-- **Privacy holds over whole runs.**  Once a call to start or to look at the guard, throughout
    which the guard was on or could not be read, has returned without an error, no request is issued
    under a token that is not cancelled until some call finds the guard off; and a worker begins a
    refresh only if it reads, there and then, that the guard is off. -/
theorem silent_while_private (c : Config) :
    (∀ (e₀ e₁ e₂ : Engine) (call : Call) (ts us : List Transition), Reachable c e₀ →
      call.obeys = true →
      Path c Offline (e₀.invoke call) ts e₁ →
      e₁.hasSucceeded e₀.calls.length = true →
      Path c (fun e a => e.seesPublic a = false) e₁ us e₂ →
      ∀ t ∈ us, ∀ f r, .requested f r false ∉ t.events) ∧
    ∀ (e e' : Engine) (a : Action) (events : List Event) (w : WorkerId), Reachable c e →
      e.step? c a = some (e', events) → .refreshBegan w ∈ events →
      e.crew.world.isPrivate? = some false := by
  refine ⟨fun e₀ e₁ e₂ call ts us hr hobeys during returned after => ?_, ?_⟩
  · have hreach : Reachable c e₁ := (hr.step (a := .invoke call) rfl).path during
    obtain ⟨hbefore, -⟩ := after.invariant_before (P := fun e => Custody e ∧ Quiet e)
      ⟨custody_of_reachable hreach, quiet_of_path hr hobeys during returned⟩
      fun _ _ _ _ h hpublic hs => ⟨h.1.step hs, h.2.step hpublic hs⟩
    -- Whoever sends a request runs, and in a quiet engine nobody does.
    intro t ht f r hreq
    obtain ⟨hcustody, hquiet⟩ := hbefore t ht
    obtain ⟨w, wa, crew, -, hact, -⟩ :=
      exists_act_of_step (after.step_of_mem ht).2 hreq nofun
    have hruns := Crew.requested_of_act? hact hreq
    rw [hquiet.not_runs hcustody w] at hruns
    cases hruns
  · intro e e' a events w _ hs hbegan
    obtain ⟨i, wa, crew, -, hact, -⟩ := exists_act_of_step hs hbegan nofun
    exact Crew.isPrivate?_of_refreshBegan hact hbegan

/-- A call waits for the worker that was interrupted to leave, publishes, and notifies. -/
def obeyed : List Transition × Engine :=
  follow .remote (interrupted.invoke (.privacyModeUpdated 0))
    [.resume (.call 1), .work 0 (.manifestAnswered (.error .cancelled) true), .resume (.call 1)]

/-- What happens then. -/
def settled : List Transition × Engine :=
  follow .remote obeyed.2 [.receive, .elapse 1, .invoke .stop, .resume (.call 2)]

/-- A refresh that was under way ends without another request; it had begun while the guard was
    off. -/
theorem silent_while_private_interrupted :
    (interrupted.crew.runs 0 = true ∧ obeyed.2.hasSucceeded 1 = true ∧ settled.1.length = 4 ∧
      ∀ t ∈ settled.1, ∀ f r, .requested f r false ∉ t.events) ∧
    ∃ e' events, poised.step? .remote (.work 0 .start) = some (e', events) ∧
      .refreshBegan 0 ∈ events ∧ poised.crew.world.isPrivate? = some false := by
  refine ⟨⟨by decide +kernel, by decide +kernel, by decide +kernel, ?_⟩, ?_⟩
  · exact (silent_while_private .remote).1 interrupted obeyed.2 settled.2 (.privacyModeUpdated 0)
      obeyed.1 settled.1 reachable_interrupted rfl (path_follow (by decide +kernel))
      (by decide +kernel) (path_follow (by decide +kernel))
  · have hbegins : (poised.step? .remote (.work 0 .start)).any (.refreshBegan 0 ∈ ·.2) = true := by
      decide +kernel
    obtain ⟨⟨e', events⟩, hstep, hbegan⟩ := (Option.any_eq_true _ _).1 hbegins
    have hmem := of_decide_eq_true hbegan
    exact ⟨e', events, hstep, hmem, (silent_while_private .remote).2 poised e' _ events 0
      reachable_poised hstep hmem⟩

end Engine

end TokenCatalog
