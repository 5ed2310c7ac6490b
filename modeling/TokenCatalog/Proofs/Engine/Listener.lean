import TokenCatalog.Engine.Listener
import TokenCatalog.Proofs.Refresh.Crew

namespace TokenCatalog

/-!
# Listeners — what they leave alone

Listeners publish and notify.  Whatever decides which worker runs, and which call has the lock, they
leave as it is.

* `Event.IsNews` — what others see of the consumer, of listeners and of calls;
* `Engine.Keeps` — a state in which all of that is as it was;
* `Engine.Keeps.resumeListener?`, `Engine.Keeps.abort` — so it is after a listener has run, or has
  been ended.
-/

/-- What others see of the consumer, of listeners and of calls. -/
def Event.IsNews : Event → Prop
  | .published | .notified | .received => True
  | _ => False

namespace Engine

variable {c : Config} {e e' e'' : Engine}

/-- What listeners leave as it was.  A call that has the lock keeps it. -/
structure Keeps (e e' : Engine) : Prop where
  worker : e'.worker = e.worker
  lifecycle : e'.lifecycle = e.lifecycle
  wasPrivate : e'.wasPrivate = e.wasPrivate
  token : e'.token = e.token
  calls : e'.calls = e.calls
  crew : e'.crew.bare = e.crew.bare
  holds : ∀ id, e.holds (.call id) = true → e'.holds (.call id) = true

namespace Keeps

theorem refl (e : Engine) : Keeps e e := ⟨rfl, rfl, rfl, rfl, rfl, rfl, fun _ => id⟩

/-- What is left alone twice is left alone. -/
theorem trans (h : Keeps e e') (h' : Keeps e' e'') : Keeps e e'' where
  worker := h'.worker.trans h.worker
  lifecycle := h'.lifecycle.trans h.lifecycle
  wasPrivate := h'.wasPrivate.trans h.wasPrivate
  token := h'.token.trans h.token
  calls := h'.calls.trans h.calls
  crew := h'.crew.trans h.crew
  holds id hid := h'.holds id (h.holds id hid)

/-- A listener may wait elsewhere. -/
theorem setListener (e : Engine) (id : ListenerId) (s : ListenerStage) :
    Keeps e (e.setListener id s) := ⟨rfl, rfl, rfl, rfl, rfl, rfl, fun _ h => h⟩

/-- The channel may change. -/
theorem setChannel (e : Engine) (channel : Channel) : Keeps e { e with channel } :=
  ⟨rfl, rfl, rfl, rfl, rfl, rfl, fun _ h => h⟩

/-- A snapshot may be published. -/
theorem publish (c : Config) (e : Engine) : Keeps e (e.publish c) :=
  ⟨rfl, rfl, rfl, rfl, rfl, rfl, fun _ h => h⟩

end Keeps

/-! ### Locks -/

/-- Whoever is at the head of the queue holds the lock. -/
theorem holds_iff {p : Process} : e.holds p = true ↔ ∃ rest, e.lock = p :: rest := by
  rw [holds, decide_eq_true_eq, List.head?_eq_some_iff]

/-- A lock that is held stays so when somebody else gives up its place. -/
theorem holds_release {p q : Process} (hpq : p ≠ q) (h : e.holds p = true) :
    (e.release q).holds p = true := by
  obtain ⟨rest, hlock⟩ := holds_iff.1 h
  refine holds_iff.2 ⟨rest.erase q, ?_⟩
  rw [release, hlock, List.erase_cons_tail (by simpa using hpq)]

/-- The lock is held by one at a time. -/
theorem holds_unique {p q : Process} (hp : e.holds p = true) (hq : e.holds q = true) : p = q := by
  obtain ⟨rest, hlock⟩ := holds_iff.1 hp
  obtain ⟨rest', hlock'⟩ := holds_iff.1 hq
  rw [hlock] at hlock'
  exact (List.cons.inj hlock').1

namespace Keeps

/-- A listener that gives up the lock leaves the rest alone. -/
theorem release (e : Engine) (id : ListenerId) : Keeps e (e.release (.listener id)) :=
  ⟨rfl, rfl, rfl, rfl, rfl, rfl, fun _ h => holds_release Process.noConfusion h⟩

/-- A listener that acknowledges leaves the rest alone. -/
theorem settle (e : Engine) (id : ListenerId) (worker : WorkerId) :
    Keeps e (e.settle id worker) :=
  ⟨rfl, rfl, rfl, rfl, rfl, Crew.bare_acknowledge e.crew worker, fun _ h => h⟩

/-- A listener that waits for room for one more leaves the rest alone. -/
theorem reserve (e : Engine) (id : ListenerId) (worker : WorkerId) :
    Keeps e (e.reserve id worker) := by
  have hjoin := setChannel e (e.channel.join (.listener id))
  unfold Engine.reserve
  dsimp only
  split
  · exact hjoin.trans (settle _ id worker)
  · exact hjoin.trans (setListener _ id .reserving)

/-- Sending leaves the rest alone. -/
theorem enqueue (e : Engine) (p : Process) : Keeps e (e.enqueue p).1 := by
  unfold Engine.enqueue
  split
  · exact setChannel e _
  · exact setChannel e _

/-- A listener that delivers leaves the rest alone. -/
theorem deliver (e : Engine) (id : ListenerId) (worker : WorkerId) :
    Keeps e (e.deliver id worker).1 := by
  unfold Engine.deliver
  split
  · exact (enqueue e (.listener id)).trans (reserve _ id worker)
  · exact settle e id worker

/-- A listener that announces leaves the rest alone. -/
theorem announce (c : Config) (e : Engine) (id : ListenerId) (worker : WorkerId) :
    Keeps e (e.announce c id worker).1 := by
  have hjoin : Keeps e { (e.publish c).release (.listener id) with
      channel := e.channel.join (.listener id) } :=
    (publish c e).trans ((release _ id).trans (setChannel _ _))
  unfold Engine.announce
  dsimp only
  split
  · exact hjoin.trans (deliver _ id worker)
  · exact hjoin.trans (setListener _ id .sending)

/-- A listener that accepts a result leaves the rest alone. -/
theorem accept (c : Config) (e : Engine) (id : ListenerId) (worker : WorkerId) :
    Keeps e (e.accept c id worker).1 := by
  have htake : Keeps e { e with
      crew := e.crew.take worker, lock := e.lock ++ [Process.listener id] } := by
    refine ⟨rfl, rfl, rfl, rfl, rfl, Crew.bare_take e.crew worker, fun j h => ?_⟩
    obtain ⟨rest, hlock⟩ := holds_iff.1 h
    exact holds_iff.2 ⟨rest ++ [Process.listener id], by rw [hlock]; rfl⟩
  unfold Engine.accept
  dsimp only
  split
  · exact htake.trans (announce c _ id worker)
  · exact htake.trans (setListener _ id .locking)

/-- **A listener that runs leaves alone what decides who works.** -/
theorem resumeListener? {id : ListenerId} {t : Turn} (h : e.resumeListener? c id = some t) :
    Keeps e t.1 := by
  unfold Engine.resumeListener? at h
  split at h
  · cases h
  · rename_i l _
    split at h
    -- Each wait ends in its own way, and none touches what is kept.
    · split at h
      · cases h
        exact accept c e id l.worker
      · split at h <;> cases h
        exact setListener e id .ended
    · split at h <;> cases h
      exact announce c e id l.worker
    · split at h <;> cases h
      exact deliver e id l.worker
    · split at h <;> cases h
      exact settle e id l.worker
    · cases h

/-- A listener that is ended leaves the rest alone. -/
theorem abort (e : Engine) (id : ListenerId) : Keeps e (e.abort id) := by
  unfold Engine.abort
  split
  · exact refl e
  · rename_i l _
    split
    · exact refl e
    · have hend := (release e id).trans (setListener _ id .ended)
      exact ⟨hend.worker, hend.lifecycle, hend.wasPrivate, hend.token, hend.calls,
        Crew.bare_leave e.crew l.worker, hend.holds⟩

end Keeps

/-! ### What listeners let others see -/

/-- What others see of sending is news. -/
theorem isNews_enqueue (e : Engine) (p : Process) : ∀ ev ∈ (e.enqueue p).2, ev.IsNews := by
  unfold enqueue
  split <;> simp [Event.IsNews]

/-- What others see of a listener that delivers is news. -/
theorem isNews_deliver (e : Engine) (id : ListenerId) (worker : WorkerId) :
    ∀ ev ∈ (e.deliver id worker).2, ev.IsNews := by
  unfold deliver
  split
  · exact isNews_enqueue e (.listener id)
  · simp

/-- What others see of a listener that announces is news. -/
theorem isNews_announce (c : Config) (e : Engine) (id : ListenerId) (worker : WorkerId) :
    ∀ ev ∈ (e.announce c id worker).2, ev.IsNews := by
  unfold announce
  dsimp only
  split
  · exact List.forall_mem_cons.2 ⟨trivial, isNews_deliver _ id worker⟩
  · exact List.forall_mem_cons.2 ⟨trivial, by simp⟩

/-- What others see of a listener's step is news. -/
theorem isNews_resumeListener? {id : ListenerId} {t : Turn}
    (h : e.resumeListener? c id = some t) : ∀ ev ∈ t.2, ev.IsNews := by
  unfold resumeListener? at h
  split at h
  · cases h
  · rename_i l _
    split at h
    · split at h
      · cases h
        unfold accept
        dsimp only
        split
        · exact isNews_announce c _ id l.worker
        · simp
      · split at h <;> cases h
        simp
    · split at h <;> cases h
      exact isNews_announce c e id l.worker
    · split at h <;> cases h
      exact isNews_deliver e id l.worker
    · split at h <;> cases h
      simp
    · cases h

end Engine

end TokenCatalog
