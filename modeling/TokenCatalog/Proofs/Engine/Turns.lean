import TokenCatalog.Proofs.Engine.Delivery
import TokenCatalog.Proofs.Engine.Step

namespace TokenCatalog

/-!
# Turns — where a call is after it has run

A call that is out of place when it gets its turn is refused.  Any other call does its duty, at once
or after a worker has left, and then has only its notification before it.

* `Call.misuse?`, `runCall_of_misuse`, `misuse_of_error` — which calls are refused, and why;
* `Duty.LeadsTo`, `leadsTo_perform` — where a duty leaves a call;
* `CallStage.left`, `exists_stage_of_resumeCall?` — whenever a call runs, it gets on.
-/

/-- Why a call is out of place, if it is. -/
def Call.misuse? : Call → Lifecycle → Option CallError
  | .start _, .unstarted => none
  | .start _, .started => some .alreadyStarted
  | _, .unstarted => some .notStarted
  | _, .started => none
  | _, .stopped => some .alreadyStopped

/-- Whether a call that waits there has done its duty, its notification apart. -/
def CallStage.IsFulfilled : CallStage → Prop
  | .sending | .returned (.ok _) => True
  | _ => False

/-- How often a call that waits there runs at most. -/
def CallStage.left : CallStage → Nat
  | .locking => 3
  | .joining .. => 2
  | .sending => 1
  | .returned _ | .abandoned => 0

/-- A call that has done its duty has one step left at most. -/
theorem CallStage.IsFulfilled.left_le {s : CallStage} (h : s.IsFulfilled) : s.left ≤ 1 := by
  cases s with
  | sending => exact Nat.le_refl 1
  | returned => exact Nat.zero_le 1
  | locking | joining | abandoned => exact h.elim

/-- A call that has done its duty has not been given up. -/
theorem CallStage.IsFulfilled.ne_abandoned {s : CallStage} (h : s.IsFulfilled) : s ≠ .abandoned := by
  rintro rfl
  exact h

/-- A call that has done its duty has met with no error. -/
theorem CallStage.IsFulfilled.ne_error {s : CallStage} (h : s.IsFulfilled) (error : CallError) :
    s ≠ .returned (.error error) := by
  rintro rfl
  exact h

/-- Where a duty leaves a call. -/
inductive Duty.LeadsTo : Duty → CallStage → Prop
  | refused (error : CallError) : LeadsTo (.refuse error) (.returned (.error error))
  | fulfilled {d : Duty} {s : CallStage} (fulfilled : s.IsFulfilled) : LeadsTo d s
  | joins (next : AfterLeave) (w : WorkerId) : LeadsTo (.dismiss next) (.joining w next)

namespace Duty.LeadsTo

variable {d : Duty} {s : CallStage} {error : CallError}

/-- Every duty leads on from the queue for the lock. -/
theorem left_lt (h : d.LeadsTo s) : s.left < CallStage.locking.left := by
  cases h with
  | refused => exact Nat.zero_lt_succ 2
  | joins => exact Nat.lt_succ_self 2
  | fulfilled hs => exact Nat.lt_of_le_of_lt hs.left_le (Nat.succ_lt_succ Nat.two_pos)

/-- No duty leads to giving up. -/
theorem ne_abandoned (h : d.LeadsTo s) : s ≠ .abandoned := by
  cases h with
  | refused | joins => exact nofun
  | fulfilled hs => exact hs.ne_abandoned

/-- Only the duty to refuse ends in a refusal. -/
theorem eq_refuse (h : d.LeadsTo (.returned (.error error))) : d = .refuse error := by
  cases h with
  | refused => rfl
  | fulfilled hs => exact hs.elim

end Duty.LeadsTo

namespace Engine

variable {c : Config} {e e' : Engine} {a : Action} {events : List Event} {id : CallId}
  {next : AfterLeave} {call : Call} {error : CallError}

/-! ### Where a call is after its turn -/

/-- A call that publishes has done its duty. -/
theorem calls_publishPrivately (c : Config) (e : Engine) (id : CallId) :
    ∃ s : CallStage, s.IsFulfilled ∧
      (e.publishPrivately c id).1.calls = e.calls.modify id ({ · with stage := s }) := by
  obtain ⟨s, ch, events, hsends, heq⟩ := publishPrivately_sends c e id
  refine ⟨s, ?_, by rw [heq]; rfl⟩
  cases hsends <;> exact trivial

/-- A call whose worker has left does its duty. -/
theorem calls_afterLeave (c : Config) (e : Engine) (id : CallId) (next : AfterLeave) :
    ∃ s : CallStage, s.IsFulfilled ∧
      (e.afterLeave c id next).1.calls = e.calls.modify id ({ · with stage := s }) := by
  have hdrop : e.dropListener.calls = e.calls := (keeps_dropListener e).calls
  have hanswer : ∀ e' : Engine, e'.calls = e.calls → ∃ s : CallStage, s.IsFulfilled ∧
      (e'.answer id (.ok ())).1.calls = e.calls.modify id ({ · with stage := s }) :=
    fun e' he' => ⟨.returned (.ok ()), trivial, by rw [← he']; rfl⟩
  cases next with
  | done | stop => exact hanswer _ hdrop
  | restart => exact hanswer _ ((calls_startWorker _ true).trans hdrop)
  | goPrivate wasPrivate =>
    cases wasPrivate with
    | true => exact hanswer _ hdrop
    | false =>
      rw [← hdrop]
      exact calls_publishPrivately c e.dropListener id

/-- **A duty leaves a call refused, fulfilled, or waiting for the worker it has dismissed.** -/
theorem leadsTo_perform (c : Config) (e : Engine) (id : CallId) (d : Duty) :
    ∃ s, d.LeadsTo s ∧ (e.perform c id d).1.calls = e.calls.modify id ({ · with stage := s }) := by
  have hfulfilled : (∃ s : CallStage, s.IsFulfilled ∧
      (e.perform c id d).1.calls = e.calls.modify id ({ · with stage := s })) →
      ∃ s, d.LeadsTo s ∧
        (e.perform c id d).1.calls = e.calls.modify id ({ · with stage := s }) :=
    fun ⟨s, hs, hcalls⟩ => ⟨s, .fulfilled hs, hcalls⟩
  cases d with
  | refuse error => exact ⟨_, .refused error, rfl⟩
  | keep => exact hfulfilled ⟨.returned (.ok ()), trivial, rfl⟩
  | publish => exact hfulfilled (calls_publishPrivately c e id)
  | hire =>
    exact hfulfilled ⟨.returned (.ok ()), trivial, by rw [← calls_startWorker e false]; rfl⟩
  | dismiss next =>
    rw [perform] at hfulfilled ⊢
    -- The call goes on, or waits for the worker.
    rcases stopWorker_eq c e id next with heq | ⟨worker, -, -, heq⟩
    · rw [heq, ← calls_forget e] at hfulfilled ⊢
      exact hfulfilled (calls_afterLeave c e.forget id next)
    · rw [heq, ← calls_forget e]
      exact ⟨_, .joins next worker, rfl⟩

/-- **A call that runs gets on.** -/
theorem exists_stage_of_resumeCall? {t : Turn} (h : e.resumeCall? c id = some t) :
    ∃ s s' : CallStage, e.stage? id = some s ∧ s' ≠ .abandoned ∧ s'.left < s.left ∧
      t.1.calls = e.calls.modify id ({ · with stage := s' }) := by
  cases callStep_of_resumeCall? h with
  | @run call hp =>
    obtain ⟨s, hleads, hcalls⟩ := leadsTo_perform c (call.note c e) id (call.duty e)
    rw [calls_note] at hcalls
    rw [runCall_eq]
    exact ⟨.locking, s, stage?_of_getElem? hp, hleads.ne_abandoned, hleads.left_lt, hcalls⟩
  | @left call worker next hp =>
    obtain ⟨s, hs, hcalls⟩ := calls_afterLeave c e id next
    exact ⟨.joining worker next, s, stage?_of_getElem? hp, hs.ne_abandoned,
      Nat.lt_of_le_of_lt hs.left_le Nat.one_lt_two, hcalls⟩
  | sent hp =>
    exact ⟨.sending, .returned (.ok ()), stage?_of_getElem? hp, nofun, Nat.one_pos,
      calls_sent e id⟩

/-! ### Refusals -/

/-- A call that is out of place is refused at its turn. -/
theorem runCall_of_misuse (h : call.misuse? e.lifecycle = some error) (c : Config) (id : CallId) :
    e.runCall c id call = e.answer id (.error error) := by
  cases hl : e.lifecycle <;> cases call <;> rw [hl] at h <;> cases h <;>
    simp [runCall, refusal?, hl]

/-- A call is refused exactly when it is a misuse of an engine at that point of its life. -/
theorem duty_eq_refuse_iff :
    call.duty e = .refuse error ↔ call.misuse? e.lifecycle = some error := by
  cases hl : e.lifecycle <;> cases call <;> simp only [Call.duty, refusal?, hl, Call.misuse?] <;>
    (repeat' split) <;> simp

/-- **A call is refused at its turn, and only if it is out of place.** -/
theorem misuse_of_error (hs : e.step? c a = some (e', events))
    (herror : e'.stage? id = some (.returned (.error error))) :
    e.stage? id = some (.returned (.error error)) ∨
      a = .resume (.call id) ∧ ∃ call, e.calls[id]? = some ⟨call, .locking⟩ ∧
        call.misuse? e.lifecycle = some error := by
  -- A call that moves elsewhere than to a refusal does not account for one.
  have hother : ∀ {i : CallId} (s : CallStage), s ≠ .returned (.error error) →
      e'.calls = e.calls.modify i ({ · with stage := s }) →
      e.stage? id = some (.returned (.error error)) := fun s hne hcalls =>
    (stage?_of_modify hcalls herror hne).2
  cases stepCase_of_step? hs with
  | steady hsteady =>
    rw [stage?_of_calls hsteady.calls] at herror
    exact .inl herror
  | invoke call =>
    rw [stage?_invoke] at herror
    split at herror
    · cases herror
    · exact .inl herror
  | abandon habandon => exact .inl (hother .abandoned nofun habandon.calls)
  | @resume i _ _ hresume =>
    have hsplit : ∀ t, CallStep c e i t → t.1 = e' →
        e.stage? id = some (.returned (.error error)) ∨
          Action.resume (.call i) = .resume (.call id) ∧
            ∃ call, e.calls[id]? = some ⟨call, .locking⟩ ∧
              call.misuse? e.lifecycle = some error := by
      rintro t ht rfl
      cases ht with
      | @run call hp =>
        obtain ⟨s, hleads, hcalls⟩ := leadsTo_perform c (call.note c e) i (call.duty e)
        rw [calls_note] at hcalls
        rw [runCall_eq] at herror hother
        by_cases hs : s = .returned (.error error)
        · subst hs
          have hm : call.misuse? e.lifecycle = some error := by
            rw [← duty_eq_refuse_iff]
            exact hleads.eq_refuse
          rw [stage?_modify hcalls] at herror
          split at herror
          · rename_i hi
            subst hi
            exact .inr ⟨rfl, call, hp, hm⟩
          · exact .inl herror
        · exact .inl (hother s hs hcalls)
      | left =>
        obtain ⟨s, hs, hcalls⟩ := calls_afterLeave c e i _
        exact .inl (hother s (hs.ne_error error) hcalls)
      | sent => exact .inl (hother (.returned (.ok ())) nofun (calls_sent e i))
    exact hsplit _ (callStep_of_resumeCall? hresume) rfl

end Engine

end TokenCatalog
