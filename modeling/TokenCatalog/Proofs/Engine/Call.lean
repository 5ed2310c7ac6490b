import TokenCatalog.Engine.Call
import TokenCatalog.Proofs.Engine.Listener

namespace TokenCatalog

/-!
# Calls — from one wait to the next

A call that gets its turn first notes what it sees, then does its duty, and waits for the worker it
has dismissed, or gives up the lock.  Each part is a function of its own here, and a step of a call
is put together from them.

* `Call.note`, `Call.duty` — what a call notes, and what it has to do;
* `Engine.perform` — what it does, and `Engine.runCall_eq`, which says that this is all;
* `Engine.forget`, `Engine.dropListener`, `Engine.heed` — what happens to the worker it dismisses,
  to that worker's listener, and afterwards;
* `Engine.Closes` — a call gives up the lock;
* `Engine.CallStep` — everything a step of a call can be;
* `Engine.CallInvariant` — what every part of a call preserves, and hence every call.
-/

/-- Whether a call that waits there does not wait for a worker. -/
def CallStage.IsClear : CallStage → Prop
  | .joining .. => False
  | _ => True

/-- What a call has to do when it gets its turn. -/
inductive Duty where
  | refuse (error : CallError)
  /-- Leave the worker alone. -/
  | keep
  /-- Publish local data and notify. -/
  | publish
  /-- Start a worker if none is live. -/
  | hire
  /-- Tell the worker to stop, and do something once it has left. -/
  | dismiss (next : AfterLeave)

namespace Call

/-- What a call has to do in a state. -/
def duty (e : Engine) : Call → Duty
  | .start _ =>
    match e.lifecycle with
    | .started => .refuse .alreadyStarted
    | .stopped => .refuse .alreadyStopped
    | .unstarted => if e.crew.world.isOffline then .dismiss .done else .hire
  | .stop =>
    match e.refusal? with
    | some error => .refuse error
    | none => .dismiss .stop
  | .refreshNow _ =>
    match e.refusal? with
    | some error => .refuse error
    | none => if e.crew.world.isOffline then .publish else .dismiss .restart
  | .privacyModeUpdated _ =>
    match e.refusal? with
    | some error => .refuse error
    | none =>
      if e.crew.world.isOffline then .dismiss (.goPrivate e.wasPrivate)
      else if e.hasLiveWorker then .keep
      else .dismiss .restart

/-- What a call notes before it does its duty. -/
def note (c : Config) (e : Engine) : Call → Engine
  | .start token =>
    match e.lifecycle with
    | .unstarted =>
      { e.publish c with wasPrivate := e.crew.world.isOffline, token, lifecycle := .started }
    | _ => e
  | .stop => e
  | .refreshNow token =>
    match e.refusal? with
    | some _ => e
    | none =>
      { e with
        wasPrivate := e.crew.world.isOffline
        token := if e.crew.world.isOffline then e.token else token }
  | .privacyModeUpdated token =>
    match e.refusal? with
    | some _ => e
    | none => { e with token, wasPrivate := e.crew.world.isOffline }

/-- What others see of a call before it does its duty. -/
def opening (e : Engine) : Call → List Event
  | .start _ => if e.lifecycle = .unstarted then [.published] else []
  | _ => []

end Call

namespace Engine

variable {c : Config} {e e' : Engine} {id j : CallId} {next : AfterLeave}

/-- Do the duty of a call that has the lock. -/
def perform (c : Config) (e : Engine) (id : CallId) : Duty → Turn
  | .refuse error => e.answer id (.error error)
  | .keep => e.answer id (.ok ())
  | .publish => e.publishPrivately c id
  | .hire => (e.startWorker false).answer id (.ok ())
  | .dismiss next => e.stopWorker c id next

/-- **A call that gets its turn notes what it sees and does its duty.** -/
theorem runCall_eq (c : Config) (e : Engine) (id : CallId) (call : Call) :
    e.runCall c id call =
      (((call.note c e).perform c id (call.duty e)).1,
        call.opening e ++ ((call.note c e).perform c id (call.duty e)).2) := by
  -- Each call by what it looks at: the life of the engine, the guard, and whether a worker is live.
  cases call with
  | start token =>
    cases hl : e.lifecycle with
    | unstarted =>
      cases hoff : e.crew.world.isOffline <;>
        simp [runCall, Call.note, Call.duty, Call.opening, hl, hoff, perform, manageWorker, publish]
    | started => simp [runCall, Call.note, Call.duty, Call.opening, hl, perform]
    | stopped => simp [runCall, Call.note, Call.duty, Call.opening, hl, perform]
  | stop =>
    cases hr : e.refusal? <;> simp [runCall, Call.note, Call.duty, Call.opening, hr, perform]
  | refreshNow token =>
    cases hr : e.refusal? with
    | some error => simp [runCall, Call.note, Call.duty, Call.opening, hr, perform]
    | none =>
      cases hoff : e.crew.world.isOffline <;>
        simp [runCall, Call.note, Call.duty, Call.opening, hr, hoff, perform, manageWorker]
  | privacyModeUpdated token =>
    cases hr : e.refusal? with
    | some error => simp [runCall, Call.note, Call.duty, Call.opening, hr, perform]
    | none =>
      have hlive : ∀ b, { e with token, wasPrivate := b }.hasLiveWorker = e.hasLiveWorker :=
        fun _ => rfl
      cases hoff : e.crew.world.isOffline <;> cases hw : e.hasLiveWorker <;>
        simp [runCall, Call.note, Call.duty, Call.opening, hr, hoff, hlive, hw, perform,
          manageWorker]

/-- An engine that has been stopped refuses every call. -/
theorem runCall_of_stopped (hl : e.lifecycle = .stopped) (c : Config) (id : CallId) (call : Call) :
    e.runCall c id call = e.answer id (.error .alreadyStopped) := by
  cases call <;> simp [runCall, refusal?, hl]

/-! ### Dismissing a worker -/

/-- The engine forgets its worker and tells it to stop. -/
def forget (e : Engine) : Engine :=
  match e.worker with
  | none => e
  | some worker => { e with worker := none, crew := e.crew.stop worker }

/-- The listener ends. -/
def dropListener (e : Engine) : Engine := { e.listener.elim e e.abort with listener := none }

/-- What was planned for after the worker has left, as far as it concerns workers. -/
def heed (next : AfterLeave) (e : Engine) : Engine :=
  match next with
  | .stop => { e with lifecycle := .stopped }
  | .restart => e.startWorker true
  | .done | .goPrivate _ => e

/-- Dismissing a worker is waiting for it if it is live, and going on at once if it is not. -/
theorem stopWorker_eq (c : Config) (e : Engine) (id : CallId) (next : AfterLeave) :
    e.stopWorker c id next = e.forget.afterLeave c id next ∨
      ∃ worker, e.worker = some worker ∧ e.crew.isLive worker = true ∧
        e.stopWorker c id next = (e.forget.setCall id (.joining worker next), []) := by
  unfold stopWorker forget
  cases hw : e.worker with
  | none => exact .inl rfl
  | some worker =>
    dsimp only
    cases hlive : e.crew.isLive worker with
    | true => exact .inr ⟨worker, rfl, hlive, by rw [Crew.isLive_stop, if_pos hlive]⟩
    | false =>
      left
      rw [Crew.isLive_stop, if_neg (by simp [hlive])]

/-- Where no worker is live, dismissing is going on at once. -/
theorem stopWorker_of_not_hasLiveWorker (c : Config) (id : CallId) (next : AfterLeave)
    (h : e.hasLiveWorker = false) : e.stopWorker c id next = e.forget.afterLeave c id next := by
  rcases stopWorker_eq c e id next with heq | ⟨worker, hw, hlive, -⟩
  · exact heq
  · rw [hasLiveWorker, hw, Option.any_some, hlive] at h
    cases h

/-- Dropping the listener leaves all the rest alone. -/
theorem keeps_dropListener (e : Engine) : Keeps e e.dropListener := by
  have helim : Keeps e (e.listener.elim e e.abort) := by
    cases e.listener with
    | none => exact .refl e
    | some l => exact .abort e l
  exact helim.trans ⟨rfl, rfl, rfl, rfl, rfl, rfl, fun _ h => h⟩

/-! ### Giving up the lock -/

/-- A call gives up the lock, and changes nothing else that decides who works. -/
structure Closes (id : CallId) (e e' : Engine) : Prop where
  worker : e'.worker = e.worker
  lifecycle : e'.lifecycle = e.lifecycle
  wasPrivate : e'.wasPrivate = e.wasPrivate
  token : e'.token = e.token
  crew : e'.crew = e.crew
  lock : e'.lock = e.lock.erase (.call id)
  calls : ∃ s, s.IsClear ∧ e'.calls = e.calls.modify id ({ · with stage := s })

/-- A call that is answered gives up the lock. -/
theorem closes_answer (e : Engine) (id : CallId) (r : Except CallError Unit) :
    Closes id e (e.answer id r).1 :=
  ⟨rfl, rfl, rfl, rfl, rfl, rfl, .returned r, trivial, rfl⟩

/-- Sending changes the channel only. -/
theorem enqueue_fst (e : Engine) (p : Process) :
    (e.enqueue p).1 = { e with channel := (e.enqueue p).1.channel } := by
  unfold enqueue
  split <;> rfl

/-- A call that publishes and is put where it waits for no worker gives up the lock. -/
theorem closes_setCall {channel : Channel} {s : CallStage} (c : Config) (e : Engine) (id : CallId)
    (hs : s.IsClear) :
    Closes id e ({ (e.publish c).release (.call id) with channel }.setCall id s) := by
  unfold publish release setCall
  exact ⟨rfl, rfl, rfl, rfl, rfl, rfl, s, hs, rfl⟩

/-- A call that publishes gives up the lock. -/
theorem closes_publishPrivately (c : Config) (e : Engine) (id : CallId) :
    Closes id e (e.publishPrivately c id).1 := by
  unfold publishPrivately
  dsimp only
  split
  · rw [enqueue_fst]
    exact closes_setCall c e id trivial
  · exact closes_setCall c e id trivial

/-- What is done after the worker has left gives up the lock. -/
theorem closes_afterLeave (c : Config) (e : Engine) (id : CallId) (next : AfterLeave) :
    Closes id (e.dropListener.heed next) (e.afterLeave c id next).1 := by
  cases next with
  | done => exact closes_answer _ id _
  | stop => exact closes_answer _ id _
  | restart => exact closes_answer _ id _
  | goPrivate wasPrivate =>
    cases wasPrivate with
    | true => exact closes_answer _ id _
    | false => exact closes_publishPrivately c _ id

/-! ### What calls leave alone -/

/-- Starting a worker leaves the calls where they are. -/
@[simp] theorem calls_startWorker (e : Engine) (force : Bool) :
    (e.startWorker force).calls = e.calls := by
  unfold startWorker
  split <;> rfl

/-- Starting a worker does not change how far the engine has come. -/
@[simp] theorem lifecycle_startWorker (e : Engine) (force : Bool) :
    (e.startWorker force).lifecycle = e.lifecycle := by
  unfold startWorker
  split <;> rfl

/-- What was planned leaves the calls where they are. -/
@[simp] theorem calls_heed (e : Engine) (next : AfterLeave) : (e.heed next).calls = e.calls := by
  cases next with
  | restart => exact calls_startWorker e true
  | done | stop | goPrivate => rfl

/-- Forgetting the worker leaves the calls where they are. -/
@[simp] theorem calls_forget (e : Engine) : e.forget.calls = e.calls := by
  unfold forget
  split <;> rfl

/-- Forgetting the worker does not touch the channel. -/
@[simp] theorem channel_forget (e : Engine) : e.forget.channel = e.channel := by
  unfold forget
  split <;> rfl

/-- Forgetting the worker does not touch the lock. -/
@[simp] theorem lock_forget (e : Engine) : e.forget.lock = e.lock := by
  unfold forget
  split <;> rfl

/-- Forgetting the worker does not change how far the engine has come. -/
@[simp] theorem lifecycle_forget (e : Engine) : e.forget.lifecycle = e.lifecycle := by
  unfold forget
  split <;> rfl

/-- A worker that is forgotten is forgotten. -/
@[simp] theorem worker_forget (e : Engine) : e.forget.worker = none := by
  unfold forget
  split
  · assumption
  · rfl

/-- A call's note concerns neither workers nor calls. -/
theorem note_eq (c : Config) (e : Engine) (call : Call) :
    call.note c e = { e with
      snapshot := (call.note c e).snapshot, wasPrivate := (call.note c e).wasPrivate,
      token := (call.note c e).token, lifecycle := (call.note c e).lifecycle } := by
  cases call with
  | start token =>
    simp only [Call.note]
    split <;> rfl
  | stop => rfl
  | refreshNow token | privacyModeUpdated token =>
    simp only [Call.note]
    split <;> rfl

/-- A call that notes what it sees leaves the calls where they are. -/
@[simp] theorem calls_note (c : Config) (e : Engine) (call : Call) :
    (call.note c e).calls = e.calls := by
  rw [note_eq]

/-- A call that notes what it sees does not touch the lock. -/
@[simp] theorem lock_note (c : Config) (e : Engine) (call : Call) :
    (call.note c e).lock = e.lock := by
  rw [note_eq]

/-- A call that notes what it sees does not touch the workers. -/
@[simp] theorem crew_note (c : Config) (e : Engine) (call : Call) :
    (call.note c e).crew = e.crew := by
  rw [note_eq]

/-- A call that notes what it sees does not touch the worker the engine has. -/
@[simp] theorem worker_note (c : Config) (e : Engine) (call : Call) :
    (call.note c e).worker = e.worker := by
  rw [note_eq]

/-! ### Steps of calls -/

/-- Everything a step of a call can be. -/
inductive CallStep (c : Config) (e : Engine) (id : CallId) : Turn → Prop
  | run {call : Call} (pending : e.calls[id]? = some ⟨call, .locking⟩)
      (holds : e.holds (.call id) = true) : CallStep c e id (e.runCall c id call)
  | left {call : Call} {worker : WorkerId} {next : AfterLeave}
      (pending : e.calls[id]? = some ⟨call, .joining worker next⟩)
      (gone : e.crew.isLive worker = false) : CallStep c e id (e.afterLeave c id next)
  | sent {call : Call} (pending : e.calls[id]? = some ⟨call, .sending⟩)
      (ready : e.channel.isReady (.call id) = true) :
      CallStep c e id
        ((e.enqueue (.call id)).1.setCall id (.returned (.ok ())), (e.enqueue (.call id)).2)

/-- A call's step is one of the steps a call can take. -/
theorem callStep_of_resumeCall? {t : Turn} (h : e.resumeCall? c id = some t) :
    CallStep c e id t := by
  unfold resumeCall? at h
  split at h
  · cases h
  · rename_i p hp
    obtain ⟨call, stage⟩ := p
    -- What a call does depends on where it waits; it stays there until that is granted.
    cases stage with
    | locking =>
      dsimp only at h
      split at h <;> cases h
      exact .run hp ‹_›
    | joining worker next =>
      dsimp only at h
      split at h <;> cases h
      exact .left hp (Bool.eq_false_iff.2 ‹_›)
    | sending =>
      dsimp only at h
      split at h <;> cases h
      exact .sent hp ‹_›
    | returned | abandoned => cases h

/-- A call that waits for the lock, and runs, has got it. -/
theorem runCall_of_resumeCall? {call : Call} {t : Turn}
    (hpending : e.calls[id]? = some ⟨call, .locking⟩) (h : e.resumeCall? c id = some t) :
    e.holds (.call id) = true ∧ t = e.runCall c id call := by
  cases callStep_of_resumeCall? h with
  | run hp hholds =>
    rw [hpending] at hp
    cases hp
    exact ⟨hholds, rfl⟩
  | left hp | sent hp =>
    rw [hpending] at hp
    cases hp

/-- A call that waits for a worker to leave, and runs, goes on. -/
theorem left_of_resumeCall? {call : Call} {worker : WorkerId} {t : Turn}
    (hpending : e.calls[id]? = some ⟨call, .joining worker next⟩)
    (h : e.resumeCall? c id = some t) : e.afterLeave c id next = t := by
  cases callStep_of_resumeCall? h with
  | left hp =>
    rw [hpending] at hp
    cases hp
    rfl
  | run hp | sent hp =>
    rw [hpending] at hp
    cases hp

/-- A call that waits for room in the channel, and runs, notifies and returns. -/
theorem sent_of_resumeCall? {call : Call} {t : Turn}
    (hpending : e.calls[id]? = some ⟨call, .sending⟩) (h : e.resumeCall? c id = some t) :
    t = ((e.enqueue (.call id)).1.setCall id (.returned (.ok ())), (e.enqueue (.call id)).2) := by
  cases callStep_of_resumeCall? h with
  | sent => rfl
  | run hp | left hp =>
    rw [hpending] at hp
    cases hp

/-- A call that has sent returns. -/
theorem calls_sent (e : Engine) (id : CallId) :
    ((e.enqueue (.call id)).1.setCall id (.returned (.ok ()))).calls =
      e.calls.modify id ({ · with stage := .returned (.ok ()) }) := by
  rw [setCall, (Keeps.enqueue e (.call id)).calls]

/-- Doing a duty moves one call, and no other. -/
theorem calls_perform (c : Config) (e : Engine) (id : CallId) (d : Duty) :
    ∃ s, (e.perform c id d).1.calls = e.calls.modify id ({ · with stage := s }) := by
  have hcloses : ∀ e' e'' : Engine, e'.calls = e.calls → Closes id e' e'' →
      ∃ s, e''.calls = e.calls.modify id ({ · with stage := s }) := by
    intro e' e'' he' hclose
    obtain ⟨s, -, hs⟩ := hclose.calls
    exact ⟨s, he' ▸ hs⟩
  cases d with
  | refuse error => exact hcloses e _ rfl (closes_answer e id _)
  | keep => exact hcloses e _ rfl (closes_answer e id _)
  | publish => exact hcloses e _ rfl (closes_publishPrivately c e id)
  | hire => exact hcloses _ _ (calls_startWorker e false) (closes_answer _ id _)
  | dismiss next =>
    rw [perform]
    -- The call goes on, or is the one that waits for the worker.
    rcases stopWorker_eq c e id next with heq | ⟨worker, -, -, heq⟩
    · rw [heq]
      refine hcloses _ _ ?_ (closes_afterLeave c e.forget id next)
      rw [calls_heed, (keeps_dropListener e.forget).calls, calls_forget]
    · rw [heq]
      exact ⟨_, by rw [setCall, calls_forget]⟩

/-- **A call that runs moves itself, and no other call.** -/
theorem calls_resumeCall? {t : Turn} (h : e.resumeCall? c id = some t) :
    ∃ s, t.1.calls = e.calls.modify id ({ · with stage := s }) := by
  cases callStep_of_resumeCall? h with
  | @run call =>
    obtain ⟨s, hs⟩ := calls_perform c (call.note c e) id (call.duty e)
    rw [runCall_eq]
    exact ⟨s, by rw [hs, calls_note]⟩
  | @left call worker next =>
    obtain ⟨s, -, hs⟩ := (closes_afterLeave c e id next).calls
    exact ⟨s, by rw [hs, calls_heed, (keeps_dropListener e).calls]⟩
  | sent => exact ⟨.returned (.ok ()), calls_sent e id⟩

/-! ### What calls let others see -/

/-- What others see of a call that publishes is news. -/
theorem isNews_publishPrivately (c : Config) (e : Engine) (id : CallId) :
    ∀ ev ∈ (e.publishPrivately c id).2, ev.IsNews := by
  unfold publishPrivately
  dsimp only
  split
  · exact List.forall_mem_cons.2 ⟨trivial, isNews_enqueue _ (.call id)⟩
  · exact List.forall_mem_cons.2 ⟨trivial, by simp⟩

/-- What others see of what is done after the worker has left is news. -/
theorem isNews_afterLeave (c : Config) (e : Engine) (id : CallId) (next : AfterLeave) :
    ∀ ev ∈ (e.afterLeave c id next).2, ev.IsNews := by
  intro ev hev
  cases next with
  | done | stop | restart => exact absurd hev List.not_mem_nil
  | goPrivate wasPrivate =>
    cases wasPrivate with
    | true => exact absurd hev List.not_mem_nil
    | false => exact isNews_publishPrivately c _ id ev hev

/-- What others see of a call that does its duty is news. -/
theorem isNews_perform (c : Config) (e : Engine) (id : CallId) (d : Duty) :
    ∀ ev ∈ (e.perform c id d).2, ev.IsNews := by
  intro ev hev
  cases d with
  | refuse | keep | hire => exact absurd hev List.not_mem_nil
  | publish => exact isNews_publishPrivately c e id ev hev
  | dismiss next =>
    rw [perform] at hev
    rcases stopWorker_eq c e id next with heq | ⟨worker, -, -, heq⟩
    · rw [heq] at hev
      exact isNews_afterLeave c _ id next ev hev
    · rw [heq] at hev
      exact absurd hev List.not_mem_nil

/-- What others see of a call's step is news. -/
theorem isNews_resumeCall? {t : Turn} (h : e.resumeCall? c id = some t) :
    ∀ ev ∈ t.2, ev.IsNews := by
  intro ev hev
  cases callStep_of_resumeCall? h with
  | @run call =>
    rw [runCall_eq] at hev
    rcases List.mem_append.1 hev with hev | hev
    · have hopening : ev = .published := by
        unfold Call.opening at hev
        split at hev
        · split at hev
          · exact List.mem_singleton.1 hev
          · exact absurd hev List.not_mem_nil
        · exact absurd hev List.not_mem_nil
      rw [hopening]
      exact trivial
    · exact isNews_perform c _ id _ ev hev
  | @left call worker next => exact isNews_afterLeave c e id next ev hev
  | sent => exact isNews_enqueue e (.call id) ev hev

/-! ### What the parts of a call preserve, a call preserves -/

/-- A property that every part of a call preserves, its note apart. -/
structure CallInvariant (P : Engine → Prop) : Prop where
  forget : ∀ e : Engine, P e → P e.forget
  startWorker : ∀ (e : Engine) (force : Bool), P e → P (e.startWorker force)
  finish : ∀ e : Engine, P e → P { e with lifecycle := .stopped }
  keeps : ∀ e e' : Engine, Keeps e e' → P e → P e'
  closes : ∀ (id : CallId) (e e' : Engine), Closes id e e' → P e → P e'
  setCall : ∀ (e : Engine) (id : CallId) (s : CallStage), P e → P (e.setCall id s)

namespace CallInvariant

variable {P : Engine → Prop}

/-- What was planned for after the worker has left preserves the invariant. -/
theorem heed (hP : CallInvariant P) (h : P e) (next : AfterLeave) : P (e.heed next) := by
  cases next with
  | restart => exact hP.startWorker e true h
  | stop => exact hP.finish e h
  | done | goPrivate => exact h

/-- What is done after the worker has left preserves the invariant. -/
theorem afterLeave (hP : CallInvariant P) (h : P e) (c : Config) (id : CallId)
    (next : AfterLeave) : P (e.afterLeave c id next).1 := by
  have hdrop : P e.dropListener := hP.keeps _ _ (keeps_dropListener e) h
  exact hP.closes id _ _ (closes_afterLeave c e id next) (hP.heed hdrop next)

/-- A call that does its duty preserves the invariant. -/
theorem perform (hP : CallInvariant P) (h : P e) (c : Config) (id : CallId) (d : Duty) :
    P (e.perform c id d).1 := by
  cases d with
  | refuse error => exact hP.closes id _ _ (closes_answer e id _) h
  | keep => exact hP.closes id _ _ (closes_answer e id _) h
  | publish => exact hP.closes id _ _ (closes_publishPrivately c e id) h
  | hire => exact hP.closes id _ _ (closes_answer _ id _) (hP.startWorker e false h)
  | dismiss next =>
    rw [Engine.perform]
    rcases stopWorker_eq c e id next with heq | ⟨worker, -, -, heq⟩
    · rw [heq]
      exact hP.afterLeave (hP.forget e h) c id next
    · rw [heq]
      exact hP.setCall _ id _ (hP.forget e h)

/-- A call's step preserves the invariant, if what it notes does. -/
theorem resumeCall? {t : Turn} (hP : CallInvariant P) (h : P e)
    (hnote : ∀ call : Call, P (call.note c e)) (hr : e.resumeCall? c id = some t) : P t.1 := by
  cases callStep_of_resumeCall? hr with
  | @run call =>
    rw [runCall_eq]
    exact hP.perform (hnote call) c id _
  | @left call worker next => exact hP.afterLeave h c id next
  | sent => exact hP.setCall _ id _ (hP.keeps _ _ (Keeps.enqueue e (.call id)) h)

/-- A note leaves the crew alone. -/
theorem resumeCall?_crew {P : Crew → Prop} {t : Turn} (hP : CallInvariant (P ·.crew))
    (h : P e.crew) (hr : e.resumeCall? c id = some t) : P t.1.crew :=
  hP.resumeCall? h (fun call => by rw [crew_note]; exact h) hr

end CallInvariant

/-- All that a call does to a crew is to dismiss a worker and to hire one. -/
theorem callInvariant_crew {P : Crew → Prop} (hstop : ∀ k w, P k → P (k.stop w))
    (hspawn : ∀ k parent force, P k → P (k.spawn parent force).1)
    (hbare : ∀ k k', k'.bare = k.bare → P k → P k') : CallInvariant (P ·.crew) where
  forget e h := by
    unfold Engine.forget
    split
    · exact h
    · exact hstop _ _ h
  startWorker e force h := by
    unfold Engine.startWorker
    split
    · exact h
    · exact hspawn _ _ _ h
  finish e h := h
  keeps e e' hk h := hbare _ _ hk.crew h
  closes id e e' hclose h := by
    show P e'.crew
    rw [hclose.crew]
    exact h
  setCall e id s h := h

/-- Once the engine has been started, a call that notes what it sees does not change how far it has
    come. -/
theorem lifecycle_note (h : e.lifecycle ≠ .unstarted) (c : Config) (call : Call) :
    (call.note c e).lifecycle = e.lifecycle := by
  cases call with
  | start token =>
    cases hl : e.lifecycle with
    | unstarted => exact absurd hl h
    | started | stopped => simp only [Call.note, hl]
  | stop => rfl
  | refreshNow token | privacyModeUpdated token =>
    cases hr : e.refusal? <;> simp only [Call.note, hr]

/-- An engine that has started is never again one that has not. -/
theorem callInvariant_lifecycle : CallInvariant (·.lifecycle ≠ .unstarted) where
  forget e h := by
    unfold Engine.forget
    split <;> exact h
  startWorker e force h := by
    unfold Engine.startWorker
    split <;> exact h
  finish e h := nofun
  keeps e e' hk h := by
    rw [hk.lifecycle]
    exact h
  closes id e e' hclose h := by
    rw [hclose.lifecycle]
    exact h
  setCall e id s h := h

end Engine

end TokenCatalog
