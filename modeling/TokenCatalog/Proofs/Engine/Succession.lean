import TokenCatalog.Proofs.Engine.Custody
import TokenCatalog.Proofs.Engine.Provenance

namespace TokenCatalog.Engine

/-!
# Succession — one worker after the other

A call waits for a worker to leave before it starts another one.  If no caller loses interest
meanwhile, no worker comes before every earlier one has left.

* `Patient` — the promise that no call is given up while it waits for a worker to leave;
* `Single` — only the worker that is known is live, as long as a call that has the lock is at work;
* `Succession` — every live worker is known or waited for, and it is the newest one;
  `Succession.step` says that it always is.
-/

variable {c : Config} {e e' : Engine} {a : Action} {events : List Event} {id : CallId}
  {next : AfterLeave} {w i j : WorkerId}

/-- The promise that no call is given up while it waits for a worker to leave. -/
def Patient (e : Engine) : Action → Prop
  | .abandon id =>
    match e.stage? id with
    | some (.joining ..) => False
    | _ => True
  | _ => True

instance (e : Engine) (a : Action) : Decidable (Patient e a) :=
  match a with
  | .abandon id =>
    match h : e.stage? id with
    | some (.joining ..) => .isFalse (by rw [Patient, h]; exact not_false)
    | some .locking | some .sending | some (.returned _) | some .abandoned | none =>
      .isTrue (by rw [Patient, h]; trivial)
  | .alter _ | .elapse _ | .cancel _ | .invoke _ | .resume _ | .work .. | .receive | .hangUp =>
    .isTrue trivial

/-- A patient caller does not give up a call that waits for a worker to leave. -/
theorem Patient.not_joining (h : Patient e (.abandon id)) :
    e.stage? id ≠ some (.joining w next) := by
  intro hj
  rw [Patient, hj] at h
  exact h

/-! ### While a call is at work -/

/-- Only the worker that is known is live, and none is newer. -/
structure Single (e : Engine) : Prop where
  known : ∀ w, e.crew.isLive w = true → e.worker = some w
  newest : ∀ w, e.crew.isLive w = true → w + 1 = e.crew.workers.length

/-- Crews that agree barely have equally many workers. -/
theorem length_workers_of_bare {k k' : Crew} (h : k'.bare = k.bare) :
    k'.workers.length = k.workers.length := by
  have hworkers := congrArg (·.workers.length) h
  simpa [Crew.bare] using hworkers

/-- Crews that agree barely have the same workers live. -/
theorem isLive_of_bare {k k' : Crew} (h : k'.bare = k.bare) (w : WorkerId) :
    k'.isLive w = k.isLive w := by
  rw [← Crew.isLive_bare k', h, Crew.isLive_bare]

namespace Single

/-- It matters only who is live and known. -/
theorem of_bare (h : Single e) (hcrew : e'.crew.bare = e.crew.bare)
    (hworker : e'.worker = e.worker) : Single e' := by
  constructor
  · intro w hlive
    rw [isLive_of_bare hcrew] at hlive
    exact hworker.trans (h.known w hlive)
  · intro w hlive
    rw [isLive_of_bare hcrew] at hlive
    rw [length_workers_of_bare hcrew]
    exact h.newest w hlive

/-- Where the known worker is not live, none is. -/
theorem not_isLive (h : Single e) (hnone : e.hasLiveWorker = false) (w : WorkerId) :
    e.crew.isLive w = false := by
  refine Bool.eq_false_iff.2 fun hlive => ?_
  rw [hasLiveWorker, h.known w hlive, Option.any_some, hlive] at hnone
  cases hnone

/-- Where nobody is live, it does not matter who is known. -/
theorem of_not_isLive (h : ∀ w, e.crew.isLive w = false) : Single e := by
  constructor <;>
  · intro w hlive
    rw [h w] at hlive
    cases hlive

/-- A single worker is started where none was live. -/
theorem startWorker (h : Single e) (force : Bool) : Single (e.startWorker force) := by
  unfold Engine.startWorker
  split
  · exact h
  · rename_i hnone
    -- Nobody was live, so whoever is live now is new.
    have hnew : ∀ w, (e.crew.spawn e.token force).1.isLive w = true →
        w = e.crew.workers.length := by
      intro w hlive
      refine ((Crew.isLive_spawn ..).1 hlive).resolve_left fun hold => ?_
      rw [h.not_isLive (Bool.eq_false_iff.2 hnone)] at hold
      cases hold
    constructor
    · intro w hlive
      show some e.crew.workers.length = some w
      rw [hnew w hlive]
    · intro w hlive
      show w + 1 = (e.crew.workers ++ [_]).length
      rw [hnew w hlive, List.length_append, List.length_singleton]

/-- What was planned for after the worker has left keeps workers single. -/
theorem heed (h : Single e) (next : AfterLeave) : Single (e.heed next) := by
  cases next with
  | restart => exact h.startWorker true
  | stop => exact h.of_bare rfl rfl
  | done | goPrivate => exact h

/-- What is done after the worker has left keeps workers single. -/
theorem afterLeave (h : Single e) (c : Config) (id : CallId) (next : AfterLeave) :
    Single (e.afterLeave c id next).1 := by
  have hclose := closes_afterLeave c e id next
  have hdrop := h.of_bare (keeps_dropListener e).crew (keeps_dropListener e).worker
  exact (hdrop.heed next).of_bare (by rw [hclose.crew]) hclose.worker

/-- Where the known worker is not live, it does not matter that it is forgotten. -/
theorem forget (h : Single e) (hnone : e.hasLiveWorker = false) : Single e.forget := by
  refine of_not_isLive fun w => ?_
  have hlive : e.forget.crew.isLive w = e.crew.isLive w := by
    unfold Engine.forget
    split
    · rfl
    · exact Crew.isLive_stop ..
  rw [hlive]
  exact h.not_isLive hnone w

end Single

/-! ### From step to step -/

/-- Every live worker is known or waited for, and it is the newest one. -/
structure Succession (e : Engine) : Prop where
  attended : ∀ w, e.crew.isLive w = true →
    e.worker = some w ∨ ∃ id next, e.stage? id = some (.joining w next)
  newest : ∀ w, e.crew.isLive w = true → w + 1 = e.crew.workers.length

/-- Single workers follow one another. -/
theorem Single.succession (h : Single e) : Succession e :=
  ⟨fun w hlive => .inl (h.known w hlive), h.newest⟩

/-- Forgetting the worker removes nobody from the crew. -/
theorem length_workers_forget (e : Engine) :
    e.forget.crew.workers.length = e.crew.workers.length := by
  unfold forget
  split
  · rfl
  · exact List.length_modify ..

/-- A call that dismisses the worker waits for it, or nobody is live. -/
theorem Single.stopWorker {p : PendingCall} (h : Single e) (hp : e.calls[id]? = some p)
    (c : Config) (next : AfterLeave) : Succession (e.stopWorker c id next).1 := by
  cases hlive : e.hasLiveWorker with
  | false =>
    rw [stopWorker_of_not_hasLiveWorker c id next hlive]
    exact ((h.forget hlive).afterLeave c id next).succession
  | true =>
    obtain ⟨worker, hworker, hlive'⟩ := (Option.any_eq_true _ _).1 hlive
    have hstop : e.stopWorker c id next = (e.forget.setCall id (.joining worker next), []) := by
      simp only [Engine.stopWorker, Engine.forget, hworker, Crew.isLive_stop, hlive', if_true]
    have hsame : ∀ w, e.forget.crew.isLive w = e.crew.isLive w := by
      intro w
      simp only [Engine.forget, hworker, Crew.isLive_stop]
    have hcalls : (e.forget.setCall id (.joining worker next)).calls =
        e.calls.modify id ({ · with stage := .joining worker next }) := by
      rw [setCall, calls_forget]
    rw [hstop]
    constructor
    · intro w hw
      rw [show (e.forget.setCall id _).crew = e.forget.crew from rfl, hsame] at hw
      have hknown := h.known w hw
      rw [hworker] at hknown
      cases hknown
      -- The live worker is the one that the call waits for.
      exact .inr ⟨id, next, stage?_modify_self hp hcalls⟩
    · intro w hw
      rw [show (e.forget.setCall id _).crew = e.forget.crew from rfl, hsame] at hw
      rw [show (e.forget.setCall id _).crew = e.forget.crew from rfl, length_workers_forget]
      exact h.newest w hw

/-- A call that does its duty keeps one worker after the other. -/
theorem Single.perform {p : PendingCall} (h : Single e) (hp : e.calls[id]? = some p) (c : Config)
    (d : Duty) : Succession (e.perform c id d).1 := by
  have hcloses : ∀ {e' e'' : Engine}, Single e' → Closes id e' e'' → Succession e'' :=
    fun h hclose => (h.of_bare (by rw [hclose.crew]) hclose.worker).succession
  cases d with
  | refuse error => exact hcloses h (closes_answer e id _)
  | keep => exact hcloses h (closes_answer e id _)
  | publish => exact hcloses h (closes_publishPrivately c e id)
  | hire => exact hcloses (h.startWorker false) (closes_answer _ id _)
  | dismiss next => exact h.stopWorker hp c next

/-- Only calls bring workers. -/
theorem length_workers_of_step (hs : e.step? c a = some (e', events))
    (ha : ∀ id, a ≠ .resume (.call id)) : e'.crew.workers.length = e.crew.workers.length := by
  cases a with
  | alter | elapse | cancel | invoke | hangUp =>
    cases hs
    rfl
  | abandon i =>
    obtain ⟨e₁, he₁, heq⟩ := Option.map_eq_some_iff.1 hs
    cases heq
    rw [(abandons_of_abandonCall? he₁).crew]
  | resume p =>
    cases p with
    | call i => exact absurd rfl (ha i)
    | listener l => exact length_workers_of_bare (Keeps.resumeListener? hs).crew
  | work i wa =>
    obtain ⟨v, t, -, -, hcrew, -⟩ := exists_turn_of_step hs
    rw [hcrew]
    exact List.length_set ..
  | receive =>
    obtain ⟨ch, -, heq⟩ := Option.map_eq_some_iff.1 hs
    cases heq
    rfl

namespace Succession

/-- **Two workers are never live at a time.** -/
theorem unique (h : Succession e) (hi : e.crew.isLive i = true) (hj : e.crew.isLive j = true) :
    i = j := by
  have hi' := h.newest i hi
  have hj' := h.newest j hj
  exact Nat.succ.inj (hi'.trans hj'.symm)

/-- A call that gets its turn finds nobody waiting for a worker. -/
theorem single (h : Succession e) (hc : Custody e) {p : PendingCall} (hp : e.calls[id]? = some p)
    (hstage : p.stage = .locking) (hheld : e.holds (.call id) = true) : Single e := by
  refine ⟨fun w hlive => (h.attended w hlive).resolve_right ?_, h.newest⟩
  rintro ⟨j, next, hj⟩
  obtain ⟨hjheld, -⟩ := hc.joins j w next hj
  obtain rfl := Process.call.inj (holds_unique hjheld hheld)
  rw [stage?, hp, Option.map_some, hstage] at hj
  cases hj

/-- A call that goes on after a worker has left finds nobody live. -/
theorem single_of_left (h : Succession e) (hc : Custody e)
    (hj : e.stage? id = some (.joining w next)) (hgone : e.crew.isLive w = false) : Single e := by
  obtain ⟨hheld, hnone⟩ := hc.joins id w next hj
  refine .of_not_isLive fun v => Bool.eq_false_iff.2 fun hlive => ?_
  rcases h.attended v hlive with hknown | ⟨j, next', hj'⟩
  · rw [hnone] at hknown
    cases hknown
  · obtain ⟨hheld', -⟩ := hc.joins j v next' hj'
    obtain rfl := Process.call.inj (holds_unique hheld' hheld)
    rw [hj] at hj'
    cases hj'
    rw [hgone] at hlive
    cases hlive

/-- Calls apart that end a wait for a worker, whoever is waited for still is. -/
theorem congr (h : Succession e) (hlive : ∀ {w}, e'.crew.isLive w = true → e.crew.isLive w = true)
    (hlength : e'.crew.workers.length = e.crew.workers.length) (hworker : e'.worker = e.worker)
    (hjoins : ∀ id w next, e.stage? id = some (.joining w next) →
      e'.stage? id = some (.joining w next)) : Succession e' := by
  constructor
  · intro w hw
    rcases h.attended w (hlive hw) with hknown | ⟨j, next, hj⟩
    · exact .inl (hworker.trans hknown)
    · exact .inr ⟨j, next, hjoins j w next hj⟩
  · intro w hw
    rw [hlength]
    exact h.newest w (hlive hw)

/-- A call's step keeps one worker after the other. -/
theorem resumeCall? (h : Succession e) (hc : Custody e)
    (hs : e.resumeCall? c id = some (e', events)) : Succession e' := by
  have hsplit : ∀ t, CallStep c e id t → Succession t.1 := by
    intro t ht
    cases ht with
    | @run call hp hheld =>
      rw [runCall_eq]
      have hnoted : Single (call.note c e) :=
        (h.single hc hp rfl hheld).of_bare (by rw [crew_note]) (worker_note c e call)
      exact hnoted.perform (by rw [calls_note, hp]) c _
    | @left call worker next hp hgone =>
      have hj : e.stage? id = some (.joining worker next) := stage?_of_getElem? hp
      exact ((h.single_of_left hc hj hgone).afterLeave c id next).succession
    | @sent call hp =>
      rw [enqueue_fst]
      refine h.congr (fun hlive => hlive) rfl rfl fun j w next hj => ?_
      -- A call that sends does not wait for a worker, so this one is another.
      have hne : id ≠ j := by
        rintro rfl
        rw [stage?, hp] at hj
        cases hj
      rw [stage?_modify (e := e) rfl, if_neg hne]
      exact hj
  exact hsplit _ (callStep_of_resumeCall? hs)

/-- A step in which nobody loses patience keeps one worker after the other. -/
theorem step (h : Succession e) (hc : Custody e) (ok : Patient e a)
    (hs : e.step? c a = some (e', events)) : Succession e' := by
  cases stepCase_of_step? hs with
  | steady hsteady hother =>
    have hlength := length_workers_of_step hs fun id ha => hother id (by rw [ha]; rfl)
    refine h.congr hsteady.ages.isLive hlength hsteady.worker fun j w next hj => ?_
    rw [stage?_of_calls hsteady.calls]
    exact hj
  | invoke call =>
    refine h.congr (fun hlive => hlive) rfl rfl fun j w next hj => ?_
    have hne : j ≠ e.calls.length := by
      rintro rfl
      rw [stage?, List.getElem?_eq_none (Nat.le_refl _)] at hj
      cases hj
    rw [stage?_invoke, if_neg hne]
    exact hj
  | @abandon i _ habandon =>
    have hlength := length_workers_of_step hs fun id hresume => by cases hresume
    refine h.congr (fun hlive => habandon.crew ▸ hlive) hlength habandon.worker fun j w next hj => ?_
    have hne : i ≠ j := by
      -- A patient caller does not give up while a worker has to leave.
      rintro rfl
      exact ok.not_joining hj
    rw [stage?_modify habandon.calls, if_neg hne]
    exact hj
  | resume hresume => exact h.resumeCall? hc hresume

end Succession

variable {start : Engine} {ts : List Transition}

/-- In a new engine there is no worker to follow. -/
theorem succession_initial (world : World) (capacity : Nat) : Succession (initial world capacity) :=
  ⟨nofun, nofun⟩

/-- **One worker comes after the other** on a run on which no call is given up while it waits for
    one to leave. -/
theorem Succession.path (h : Succession start) (hr : Reachable c start)
    (hp : Path c Patient start ts e) : Succession e := by
  have hboth : Reachable c e ∧ Succession e := by
    refine hp.invariant (P := fun e => Reachable c e ∧ Succession e) ⟨hr, h⟩ ?_
    exact fun _ _ _ _ h ok hs => ⟨h.1.step hs, h.2.step (custody_of_reachable h.1) ok hs⟩
  exact hboth.2

end TokenCatalog.Engine
