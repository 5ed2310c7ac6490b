import TokenCatalog.Proofs.Engine.Path
import TokenCatalog.Proofs.Engine.Step

namespace TokenCatalog.Engine

/-!
# Custody — the engine knows the worker that runs

Workers come and go one at a time: the one that nobody has told to stop is the one that the engine
knows of.  A call that waits for a worker to leave has the lock meanwhile, and the engine has
forgotten that worker already.

* `Custody` — the invariant, and `custody_of_reachable`, which says that it always holds;
* `Tended` — what holds of it while a call that has the lock is at work.
-/

variable {c : Config} {e e' : Engine} {id : CallId}

/-- The worker that runs is the one that is known; who waits for another one to leave has the
    lock. -/
structure Custody (e : Engine) : Prop where
  runs : ∀ w, e.crew.runs w = true ↔ e.worker = some w ∧ e.crew.isLive w = true
  joins : ∀ id w next, e.stage? id = some (.joining w next) →
    e.holds (.call id) = true ∧ e.worker = none

/-- While a call is at work, the worker that runs is the one that is known, and no other call waits
    for a worker to leave. -/
structure Tended (id : CallId) (e : Engine) : Prop where
  runs : ∀ w, e.crew.runs w = true ↔ e.worker = some w ∧ e.crew.isLive w = true
  joins : ∀ j w next, e.stage? j = some (.joining w next) → j = id

/-- A call that has the lock finds the engine tended. -/
theorem Custody.tended (h : Custody e) (hid : e.holds (.call id) = true) : Tended id e := by
  refine ⟨h.runs, fun j w next hj => ?_⟩
  have hheld := (h.joins j w next hj).1
  exact Process.call.inj (holds_unique hheld hid)

/-! ### While a call is at work -/

namespace Tended

/-- It matters only which worker is known, who runs, and where calls wait. -/
theorem congr (h : Tended id e) (hworker : e'.worker = e.worker) (hcrew : e.crew.Ages e'.crew)
    (hcalls : e'.calls = e.calls) : Tended id e' := by
  constructor
  · intro w
    rw [hcrew.runs w, h.runs w, hworker]
    exact ⟨fun hw => ⟨hw.1.1, hw.2⟩, fun hw => ⟨⟨hw.1, hcrew.isLive hw.2⟩, hw.2⟩⟩
  · intro j w next hj
    rw [stage?_of_calls hcalls] at hj
    exact h.joins j w next hj

/-- A call that notes what it sees keeps the engine tended. -/
theorem note (h : Tended id e) (c : Config) (call : Call) : Tended id (call.note c e) := by
  refine h.congr (worker_note c e call) ?_ (calls_note c e call)
  rw [crew_note]
  exact .of_bare rfl

/-- Dropping the listener keeps the engine tended. -/
theorem dropListener (h : Tended id e) : Tended id e.dropListener :=
  h.congr (keeps_dropListener e).worker (.of_bare (keeps_dropListener e).crew)
    (keeps_dropListener e).calls

/-- Forgetting the worker, which is told to stop, keeps the engine tended. -/
theorem forget (h : Tended id e) : Tended id e.forget := by
  constructor
  · intro w
    rw [worker_forget]
    refine ⟨fun hw => ?_, fun hw => absurd hw.1 (Option.some_ne_none w).symm⟩
    unfold Engine.forget at hw
    split at hw
    · rename_i hnone
      rw [(h.runs w).1 hw |>.1] at hnone
      cases hnone
    · rename_i worker hsome
      obtain ⟨hne, hrun⟩ := (Crew.runs_stop e.crew worker w).1 hw
      rw [(h.runs w).1 hrun |>.1] at hsome
      exact absurd (Option.some.inj hsome) hne
  · intro j w next hj
    rw [stage?_of_calls (calls_forget e)] at hj
    exact h.joins j w next hj

/-- A new worker is the one that is known; no other one runs, since none was live. -/
theorem startWorker (h : Tended id e) (force : Bool) : Tended id (e.startWorker force) := by
  refine ⟨fun w => ?_, fun j w next hj => ?_⟩
  · unfold Engine.startWorker
    split
    · exact h.runs w
    · rename_i hnone
      show (e.crew.spawn e.token force).1.runs w = true ↔
        some (e.crew.spawn e.token force).2 = some w ∧
          (e.crew.spawn e.token force).1.isLive w = true
      rw [Crew.runs_spawn, Crew.isLive_spawn]
      constructor
      · rintro (hrun | rfl)
        · -- An old one that runs is known and live, but no known one is live here.
          obtain ⟨hw, hlive⟩ := (h.runs w).1 hrun
          rw [hasLiveWorker, hw, Option.any_some, hlive] at hnone
          exact absurd rfl hnone
        · exact ⟨rfl, .inr rfl⟩
      · rintro ⟨hw, -⟩
        exact .inr (Option.some.inj hw).symm
  · rw [stage?_of_calls (calls_startWorker e force)] at hj
    exact h.joins j w next hj

/-- What was planned for after the worker has left keeps the engine tended. -/
theorem heed (h : Tended id e) (next : AfterLeave) : Tended id (e.heed next) := by
  cases next with
  | restart => exact h.startWorker true
  | stop => exact h.congr rfl (.of_bare rfl) rfl
  | done | goPrivate => exact h

/-- A call that gives up the lock leaves the engine in order. -/
theorem custody (h : Tended id e) (hclose : Closes id e e') : Custody e' := by
  obtain ⟨s, hclear, hcalls⟩ := hclose.calls
  constructor
  · intro w
    rw [hclose.crew, hclose.worker]
    exact h.runs w
  · intro j w next hj
    obtain ⟨hjid, hj⟩ := stage?_of_modify hcalls hj (ne_joining_of_isClear hclear w next)
    exact absurd (h.joins j w next hj) hjid

/-- What is done after the worker has left leaves the engine in custody. -/
theorem afterLeave (h : Tended id e) (c : Config) (next : AfterLeave) :
    Custody (e.afterLeave c id next).1 :=
  (h.dropListener.heed next).custody (closes_afterLeave c e id next)

/-- A call that dismisses a worker leaves the engine in custody: either nobody runs, or it waits
    with the lock. -/
theorem stopWorker (h : Tended id e) (hid : e.holds (.call id) = true) (c : Config)
    (next : AfterLeave) : Custody (e.stopWorker c id next).1 := by
  rcases stopWorker_eq c e id next with heq | ⟨worker, -, -, heq⟩
  · rw [heq]
    exact h.forget.afterLeave c next
  · rw [heq]
    refine ⟨h.forget.runs, fun j w next' hj => ⟨?_, worker_forget e⟩⟩
    rw [stage?_modify (e := e) (by rw [setCall, calls_forget])] at hj
    -- Only the call at work waits for a worker, and it still has the lock.
    have hjid : j = id := by
      by_cases hjid : id = j
      · exact hjid.symm
      · rw [if_neg hjid] at hj
        exact h.joins j w next' hj
    rw [hjid]
    show e.forget.holds (.call id) = true
    rw [holds, lock_forget]
    exact hid

/-- A call that does its duty leaves the engine in custody. -/
theorem perform (h : Tended id e) (hid : e.holds (.call id) = true) (c : Config) (d : Duty) :
    Custody (e.perform c id d).1 := by
  cases d with
  | refuse error => exact h.custody (closes_answer e id _)
  | keep => exact h.custody (closes_answer e id _)
  | publish => exact h.custody (closes_publishPrivately c e id)
  | hire => exact (h.startWorker false).custody (closes_answer _ id _)
  | dismiss next => exact h.stopWorker hid c next

end Tended

/-! ### From step to step -/

namespace Custody

/-- A steady step keeps custody. -/
theorem steady (h : Custody e) (hs : Steady e e') : Custody e' := by
  constructor
  · intro w
    rw [hs.ages.runs w, h.runs w, hs.worker]
    exact ⟨fun hw => ⟨hw.1.1, hw.2⟩, fun hw => ⟨⟨hw.1, hs.ages.isLive hw.2⟩, hw.2⟩⟩
  · intro j w next hj
    rw [stage?_of_calls hs.calls] at hj
    obtain ⟨hheld, hnone⟩ := h.joins j w next hj
    exact ⟨hs.holds j hheld, hs.worker.trans hnone⟩

/-- A call put where it waits for no worker keeps custody. -/
theorem setCall {s : CallStage} (h : Custody e) (id : CallId) (hs : s.IsClear) :
    Custody (e.setCall id s) := by
  refine ⟨h.runs, fun j w next hj => ?_⟩
  obtain ⟨-, hj⟩ := stage?_of_modify (e := e) rfl hj (ne_joining_of_isClear hs w next)
  exact h.joins j w next hj

/-- A new call keeps custody. -/
theorem invoke (h : Custody e) (call : Call) : Custody (e.invoke call) := by
  refine ⟨h.runs, fun j w next hj => ?_⟩
  rw [stage?_invoke] at hj
  by_cases hnew : j = e.calls.length
  · rw [if_pos hnew] at hj
    cases hj
  · rw [if_neg hnew] at hj
    obtain ⟨hheld, hnone⟩ := h.joins j w next hj
    obtain ⟨rest, hlock⟩ := holds_iff.1 hheld
    refine ⟨holds_iff.2 ⟨rest ++ [Process.call e.calls.length], ?_⟩, hnone⟩
    show e.lock ++ _ = _
    rw [hlock]
    rfl

/-- A call that is given up keeps custody. -/
theorem abandon (h : Custody e) (ha : Abandons id e e') : Custody e' := by
  constructor
  · intro w
    rw [ha.crew, ha.worker]
    exact h.runs w
  · intro j w next hj
    obtain ⟨hjid, hj⟩ := stage?_of_modify ha.calls hj nofun
    obtain ⟨hheld, hnone⟩ := h.joins j w next hj
    refine ⟨?_, ha.worker.trans hnone⟩
    -- Whoever gives up a place in the queue is not the one in front.
    rw [holds]
    rcases ha.lock with hlock | hlock
    · rw [hlock]
      exact hheld
    · rw [hlock]
      exact holds_release (fun hpq => hjid (Process.call.inj hpq)) hheld

/-- A call's step keeps custody. -/
theorem resumeCall? {t : Turn} (h : Custody e) (hr : e.resumeCall? c id = some t) :
    Custody t.1 := by
  cases callStep_of_resumeCall? hr with
  | @run call _ hholds =>
    rw [runCall_eq]
    refine ((h.tended hholds).note c call).perform ?_ c _
    rw [holds, lock_note]
    exact hholds
  | @left call worker next hpending =>
    have hjoin := h.joins id worker next (stage?_of_getElem? hpending)
    exact (h.tended hjoin.1).afterLeave c next
  | sent => exact (h.steady (Keeps.enqueue e (.call id)).steady).setCall id trivial

/-- Every step keeps custody. -/
theorem step {a : Action} {events : List Event} (h : Custody e)
    (hs : e.step? c a = some (e', events)) : Custody e' := by
  cases stepCase_of_step? hs with
  | steady hsteady => exact h.steady hsteady
  | invoke call => exact h.invoke call
  | abandon habandon => exact h.abandon habandon
  | resume hresume => exact h.resumeCall? hresume

end Custody

/-- **The engine knows the worker that runs.** -/
theorem custody_of_reachable (hr : Reachable c e) : Custody e := by
  refine hr.invariant (fun world capacity => ?_) fun _ _ _ _ h hs => h.step hs
  constructor
  · intro w
    exact ⟨fun hw => absurd hw Bool.false_ne_true, fun hw => absurd hw.1 (by simp [initial])⟩
  · intro id w next hj
    cases hj

end TokenCatalog.Engine
