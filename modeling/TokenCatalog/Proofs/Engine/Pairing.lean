import TokenCatalog.Proofs.Engine.Delivery
import TokenCatalog.Proofs.Engine.Privacy

namespace TokenCatalog

/-!
# Pairing — every worker has its listener

Workers and listeners come in pairs: the listener that is spawned with a worker serves that worker
and no other one.  The engine knows of the only listener that has not ended.

* `Begun` — an engine with a worker has started;
* `Paired`, and `paired_of_reachable`, which says that it always holds.
-/

namespace Engine

variable {c : Config} {e e' e'' : Engine} {a : Action} {events : List Event} {id : CallId}
  {l : ListenerId}

/-- Every worker has its listener, and no listener but the one that is known has not ended. -/
structure Paired (e : Engine) : Prop where
  length : e.listeners.length = e.crew.workers.length
  serves : ∀ (l : ListenerId) (li : Listener), e.listeners[l]? = some li → li.worker = l
  known : ∀ (l : ListenerId) (li : Listener), e.listeners[l]? = some li → li.stage ≠ .ended →
    e.listener = some l
  unstarted : e.lifecycle = .unstarted → e.listeners = []

/-- Ending a listener does not change which one is known. -/
@[simp] theorem listener_abort (e : Engine) (l : ListenerId) :
    (e.abort l).listener = e.listener := by
  unfold abort
  split
  · rfl
  · split <;> rfl

/-- An engine that knows of a worker, or in which a call waits for one to leave, has started. -/
structure Begun (e : Engine) : Prop where
  worker : ∀ w, e.worker = some w → e.lifecycle ≠ .unstarted
  joins : ∀ id w next, e.stage? id = some (.joining w next) → e.lifecycle ≠ .unstarted

/-- A call has nothing to spawn before the first one to start has been noted. -/
theorem refuses_or_begins (hl : e.lifecycle = .unstarted) (c : Config) (call : Call) :
    (∃ error, call.duty e = .refuse error) ∨ (call.note c e).lifecycle ≠ .unstarted := by
  cases call with
  | start token => exact .inr (by simp [Call.note, hl])
  | stop | refreshNow | privacyModeUpdated =>
    exact .inl ⟨.notStarted, by simp [Call.duty, refusal?, hl]⟩

/-- A call hires only in an engine that has started once it has noted what it sees. -/
theorem begun_or_not_hires (c : Config) (e : Engine) (call : Call) :
    (call.note c e).lifecycle ≠ .unstarted ∨ ¬ (call.duty e).Hires := by
  by_cases hl : e.lifecycle = .unstarted
  · rcases refuses_or_begins hl c call with ⟨error, hd⟩ | hbegins
    · refine .inr ?_
      rw [hd]
      exact not_false
    · exact .inl hbegins
  · refine .inl ?_
    rw [lifecycle_note hl c call]
    exact hl

/-- Only the call that starts the engine hires straight away. -/
theorem unstarted_of_hire {call : Call} (h : call.duty e = .hire) : e.lifecycle = .unstarted := by
  cases call with
  | start token =>
    cases hl : e.lifecycle with
    | unstarted => rfl
    | started | stopped => simp [Call.duty, hl] at h
  | stop => cases hr : e.refusal? <;> simp [Call.duty, hr] at h
  | refreshNow token =>
    cases hr : e.refusal? <;> cases hoff : e.crew.world.isOffline <;> simp [Call.duty, hr, hoff] at h
  | privacyModeUpdated token =>
    cases hr : e.refusal? <;> cases hoff : e.crew.world.isOffline <;>
      cases hlive : e.hasLiveWorker <;> simp [Call.duty, hr, hoff, hlive] at h

/-- A step keeps it that an engine with a worker has started. -/
theorem Begun.step (h : Begun e) (hs : e.step? c a = some (e', events)) : Begun e' := by
  by_cases hl : e.lifecycle = .unstarted
  · have hworker : e.worker = none := by
      refine Option.eq_none_iff_forall_ne_some.2 fun w hw => ?_
      exact h.worker w hw hl
    have hjoins : ∀ j w next, e.stage? j ≠ some (.joining w next) := fun j w next hj =>
      h.joins j w next hj hl
    -- Nobody is known or waited for; so it stays unless the engine starts.
    have hkeeps : ∀ {i : CallId} {s : CallStage}, e'.worker = e.worker →
        e'.calls = e.calls.modify i ({ · with stage := s }) → s.IsClear → Begun e' := by
      intro i s hworker' hcalls hs
      refine ⟨fun w hw => ?_, fun j w next hj => ?_⟩
      · rw [hworker', hworker] at hw
        cases hw
      · obtain ⟨-, hj⟩ := stage?_of_modify hcalls hj (ne_joining_of_isClear hs w next)
        exact absurd hj (hjoins j w next)
    cases stepCase_of_step? hs with
    | steady hsteady =>
      refine ⟨fun w hw => ?_, fun j w next hj => ?_⟩
      · rw [hsteady.worker, hworker] at hw
        cases hw
      · rw [stage?_of_calls hsteady.calls] at hj
        exact absurd hj (hjoins j w next)
    | invoke call =>
      refine ⟨fun w hw => h.worker w hw, fun j w next hj => ?_⟩
      rw [stage?_invoke] at hj
      split at hj
      · cases hj
      · exact absurd hj (hjoins j w next)
    | @abandon i _ habandon => exact hkeeps habandon.worker habandon.calls trivial
    | @resume i _ _ hresume =>
      have hsplit : ∀ t, CallStep c e i t → t.1 = e' → Begun e' := by
        intro t ht heq
        cases ht with
        | @run call =>
          rw [runCall_eq] at heq
          rcases refuses_or_begins hl c call with ⟨error, hd⟩ | hbegins
          · rw [hd] at heq
            subst heq
            exact hkeeps (worker_note c e call) (s := .returned (.error error))
              (by rw [perform, answer, setCall, release, calls_note]) trivial
          · have hstarted : e'.lifecycle ≠ .unstarted := by
              rw [← heq]
              exact callInvariant_lifecycle.perform hbegins c i _
            exact ⟨fun _ _ => hstarted, fun _ _ _ _ => hstarted⟩
        | @left call worker next hpending =>
          exact absurd (stage?_of_getElem? hpending) (hjoins i worker next)
        | sent =>
          subst heq
          exact hkeeps ((Keeps.enqueue e (.call i)).worker) (calls_sent e i) trivial
      exact hsplit _ (callStep_of_resumeCall? hresume) rfl
  · have hstarted := lifecycle_of_step hl hs
    exact ⟨fun _ _ => hstarted, fun _ _ _ _ => hstarted⟩

/-! ### The parts of a step keep pairs -/

namespace Paired

/-- Whether all are paired depends on the listeners, the number of workers, the known listener and
    the beginning of the life. -/
theorem congr (h : Paired e) (hlisteners : e'.listeners = e.listeners)
    (hworkers : e'.crew.workers.length = e.crew.workers.length) (hlistener : e'.listener = e.listener)
    (hlifecycle : e'.lifecycle = .unstarted → e.lifecycle = .unstarted) : Paired e' where
  length := by rw [hlisteners, hworkers, h.length]
  serves l li hli := h.serves l li (hlisteners ▸ hli)
  known l li hli hs := hlistener.trans (h.known l li (hlisteners ▸ hli) hs)
  unstarted hl := hlisteners.trans (h.unstarted (hlifecycle hl))

/-- A listener that has not ended moves. -/
theorem move {t : ListenerStage} {li : Listener} (h : Paired e) (hli : e.listeners[l]? = some li)
    (hactive : li.stage ≠ .ended)
    (hlisteners : e'.listeners = e.listeners.modify l ({ · with stage := t }))
    (hworkers : e'.crew.workers.length = e.crew.workers.length) (hlistener : e'.listener = e.listener)
    (hlifecycle : e'.lifecycle = e.lifecycle) : Paired e' := by
  -- The listener that moves still serves its worker, and the others are as they were.
  have hback : ∀ (j : ListenerId) (lj : Listener), e'.listeners[j]? = some lj →
      ∃ lj', e.listeners[j]? = some lj' ∧ lj.worker = lj'.worker ∧ (j ≠ l → lj = lj') := by
    intro j lj hj
    rw [hlisteners, List.getElem?_modify] at hj
    obtain ⟨lj', hj', rfl⟩ := Option.map_eq_some_iff.1 hj
    by_cases hjl : l = j
    · rw [if_pos hjl]
      exact ⟨lj', hj', rfl, fun hne => absurd hjl.symm hne⟩
    · rw [if_neg hjl]
      exact ⟨lj', hj', rfl, fun _ => rfl⟩
  refine ⟨?_, fun j lj hj => ?_, fun j lj hj hs => ?_, fun hl => ?_⟩
  · rw [hlisteners, List.length_modify, h.length, hworkers]
  · obtain ⟨lj', hj', hworker, -⟩ := hback j lj hj
    rw [hworker]
    exact h.serves j lj' hj'
  · rw [hlistener]
    by_cases hjl : j = l
    · rw [hjl]
      exact h.known l li hli hactive
    · obtain ⟨lj', hj', -, heq⟩ := hback j lj hj
      exact h.known j lj' hj' (heq hjl ▸ hs)
  · have hnone := h.unstarted (hlifecycle ▸ hl)
    rw [hnone] at hli
    cases hli

/-- A listener that ends leaves the pairs together. -/
theorem abort (h : Paired e) (l : ListenerId) : Paired (e.abort l) := by
  unfold Engine.abort
  split
  · exact h
  · rename_i li hli
    split
    · exact h
    · exact h.move hli ‹_› rfl (List.length_modify ..) rfl rfl

/-- Where the known listener has ended, every one has. -/
theorem ended_dropListener (h : Paired e) {j : ListenerId} {lj : Listener}
    (hj : e.dropListener.listeners[j]? = some lj) : lj.stage = .ended := by
  refine Classical.byContradiction fun hactive => ?_
  unfold Engine.dropListener at hj
  cases hl : e.listener with
  | none =>
    rw [hl] at hj
    have hknown := h.known j lj hj hactive
    rw [hl] at hknown
    cases hknown
  | some l =>
    have hj : (e.abort l).listeners[j]? = some lj := by
      rw [hl] at hj
      exact hj
    -- The only listener that had not ended was the one that is dropped.
    have hjl : j = l := by
      have hknown := (h.abort l).known j lj hj hactive
      rw [(listener_abort e l), hl] at hknown
      exact (Option.some.inj hknown).symm
    subst hjl
    unfold Engine.abort at hj
    split at hj
    · rename_i hnone
      rw [hnone] at hj
      cases hj
    · rename_i li hli
      split at hj
      · rename_i hended
        rw [hli] at hj
        cases hj
        exact hactive hended
      · have hj : (e.listeners.modify j ({ · with stage := .ended }))[j]? = some lj := hj
        rw [List.getElem?_modify_eq, hli] at hj
        cases hj
        exact hactive rfl

/-- The listener that is dropped leaves the pairs together. -/
theorem dropListener (h : Paired e) : Paired e.dropListener := by
  have helim : Paired (e.listener.elim e e.abort) := by
    cases e.listener with
    | none => exact h
    | some l => exact h.abort l
  exact ⟨helim.length, helim.serves, fun j lj hj hs => absurd (h.ended_dropListener hj) hs,
    helim.unstarted⟩

/-- Forgetting the worker leaves the pairs together. -/
theorem forget (h : Paired e) : Paired e.forget := by
  unfold Engine.forget
  split
  · exact h
  · exact h.congr rfl (List.length_modify ..) rfl fun hu => hu

/-- A new pair; whoever listened before has ended. -/
theorem startWorker (h : Paired e) (hl : e.lifecycle ≠ .unstarted)
    (hended : ∀ (j : ListenerId) (lj : Listener), e.listeners[j]? = some lj → lj.stage = .ended)
    (force : Bool) : Paired (e.startWorker force) := by
  unfold Engine.startWorker
  split
  · exact h
  -- The new listener is the only one that has not ended.
  · have hnew : ∀ (j : ListenerId) (lj : Listener),
        (e.listeners ++ [⟨e.crew.workers.length, .receiving⟩])[j]? = some lj →
          j = e.listeners.length ∧ lj = ⟨e.crew.workers.length, .receiving⟩ ∨
            e.listeners[j]? = some lj := by
      intro j lj hj
      rw [getElem?_snoc] at hj
      split at hj
      · cases hj
        exact .inl ⟨‹_›, rfl⟩
      · exact .inr hj
    refine ⟨?_, fun j lj hj => ?_, fun j lj hj hs => ?_, fun hu => absurd hu hl⟩
    · show (e.listeners ++ [_]).length = (e.crew.workers ++ [_]).length
      rw [List.length_append, List.length_append, h.length]
      rfl
    · rcases hnew j lj hj with ⟨rfl, rfl⟩ | hj
      · exact h.length.symm
      · exact h.serves j lj hj
    · rcases hnew j lj hj with ⟨rfl, -⟩ | hj
      · rfl
      · exact absurd (hended j lj hj) hs

/-- What was planned for after the worker has left adds a pair at most, once the engine has
    started. -/
theorem heed (h : Paired e) (next : AfterLeave) (hl : e.lifecycle ≠ .unstarted ∨ next ≠ .restart) :
    Paired (e.dropListener.heed next) := by
  cases next with
  | restart =>
    have hstarted : e.dropListener.lifecycle ≠ .unstarted := by
      rw [(keeps_dropListener e).lifecycle]
      exact hl.resolve_right fun hne => hne rfl
    exact h.dropListener.startWorker hstarted (fun j lj hj => h.ended_dropListener hj) true
  | stop => exact h.dropListener.congr rfl rfl rfl nofun
  | done | goPrivate => exact h.dropListener

/-- What happens to the lock, the channel, the snapshot and the calls concerns no pair. -/
theorem publishPrivately (h : Paired e) (c : Config) (id : CallId) :
    Paired (e.publishPrivately c id).1 := by
  obtain ⟨s, ch, events, -, heq⟩ := publishPrivately_sends c e id
  rw [heq]
  exact h.congr rfl rfl rfl fun hu => hu

/-- What is done after the worker has left keeps the pairs together, once the engine has started. -/
theorem afterLeave (h : Paired e) (c : Config) (id : CallId) (next : AfterLeave)
    (hl : e.lifecycle ≠ .unstarted ∨ next ≠ .restart) : Paired (e.afterLeave c id next).1 := by
  have hheed := h.heed next hl
  cases next with
  | done | stop | restart => exact hheed.congr rfl rfl rfl fun hu => hu
  | goPrivate wasPrivate =>
    cases wasPrivate with
    | true => exact hheed.congr rfl rfl rfl fun hu => hu
    | false => exact hheed.publishPrivately c id

/-- A call that does its duty keeps the pairs together, if it hires in an engine without any. -/
theorem perform (h : Paired e) (c : Config) (id : CallId) (d : Duty)
    (hl : e.lifecycle ≠ .unstarted ∨ ¬ d.Hires) (hnew : d = .hire → e.listeners = []) :
    Paired (e.perform c id d).1 := by
  cases d with
  | refuse | keep => exact h.congr rfl rfl rfl fun hu => hu
  | publish => exact h.publishPrivately c id
  | hire =>
    -- The first worker comes where no listener is yet.
    have hstarted : e.lifecycle ≠ .unstarted := hl.resolve_right fun hd => hd trivial
    have hnone : ∀ (j : ListenerId) (lj : Listener), e.listeners[j]? = some lj →
        lj.stage = .ended := by
      intro j lj hj
      rw [hnew rfl] at hj
      cases hj
    exact (h.startWorker hstarted hnone false).congr rfl rfl rfl fun hu => hu
  | dismiss next =>
    have hl' : e.forget.lifecycle ≠ .unstarted ∨ next ≠ .restart := by
      rcases hl with hl | hl
      · exact .inl (callInvariant_lifecycle.forget e hl)
      · refine .inr fun hne => hl ?_
        rw [hne]
        trivial
    rw [Engine.perform]
    rcases stopWorker_eq c e id next with heq | ⟨worker, -, -, heq⟩
    · rw [heq]
      exact h.forget.afterLeave c id next hl'
    · rw [heq]
      exact h.forget.congr rfl rfl rfl fun hu => hu

/-- A call that notes what it sees leaves the pairs together. -/
theorem note (h : Paired e) (c : Config) (call : Call) : Paired (call.note c e) := by
  rw [note_eq]
  refine h.congr rfl rfl rfl fun hu => Classical.byContradiction fun hl => ?_
  rw [← lifecycle_note hl c call] at hl
  exact hl hu

/-- A call's step keeps the pairs together. -/
theorem resumeCall? {t : Turn} (h : Paired e) (hb : Begun e) (hr : e.resumeCall? c id = some t) :
    Paired t.1 := by
  cases callStep_of_resumeCall? hr with
  | @run call =>
    rw [runCall_eq]
    refine (h.note c call).perform c id _ (begun_or_not_hires c e call) fun hd => ?_
    rw [note_eq]
    exact h.unstarted (unstarted_of_hire hd)
  | @left call worker next hpending =>
    exact h.afterLeave c id next (.inl (hb.joins id worker next (stage?_of_getElem? hpending)))
  | sent =>
    rw [enqueue_fst]
    exact h.congr rfl rfl rfl fun hu => hu

/-- A listener that relays stays with its worker. -/
theorem relayed {li : Listener} (h : Paired e) (hli : e.listeners[l]? = some li)
    (hactive : li.stage ≠ .ended) (w : WorkerId) (t : ListenerStage) (ch : Channel) :
    Paired (e.relayed l w t ch) := by
  refine h.move (t := t) hli hactive rfl ?_ rfl rfl
  show (if t = .receiving then e.crew.acknowledge w else e.crew).workers.length = _
  split
  · exact List.length_modify ..
  · rfl

/-- A listener's step keeps the pairs together. -/
theorem resumeListener? {t : Turn} (h : Paired e) (hr : e.resumeListener? c l = some t) :
    Paired t.1 := by
  have hgathered : ∀ {e : Engine}, Paired e → Paired (e.gathered c (.listener l)) := fun h =>
    h.congr rfl rfl rfl fun hu => hu
  have hfetched : ∀ w, Paired (e.fetched l w) := fun w =>
    h.congr rfl (List.length_modify ..) rfl fun hu => hu
  cases listenerStep_of_resumeListener? hr with
  | ends hli => exact h.move hli nofun rfl rfl rfl rfl
  | @queues w hli => exact (hfetched w).move hli nofun rfl rfl rfl rfl
  | @takes w hli =>
    obtain ⟨s, ch, events, -, heq⟩ := announce_eq c (e.fetched l w) l w
    rw [heq]
    exact (hgathered (hfetched w)).relayed hli nofun w s ch
  | @announces w hli =>
    obtain ⟨s, ch, events, -, heq⟩ := announce_eq c e l w
    rw [heq]
    exact (hgathered h).relayed hli nofun w s ch
  | @delivers w hli hready =>
    obtain ⟨s, ch, events, -, -, heq⟩ := deliver_eq e l w hready
    rw [heq]
    exact h.relayed hli nofun w s ch
  | @settles w hli =>
    rw [settle_eq]
    exact h.relayed hli nofun w .receiving _

/-- Every step keeps the pairs together. -/
theorem step (h : Paired e) (hb : Begun e) (hs : e.step? c a = some (e', events)) : Paired e' := by
  cases a with
  | alter | elapse | cancel | hangUp | invoke =>
    cases hs
    exact h.congr rfl rfl rfl fun hu => hu
  | abandon i =>
    obtain ⟨e₁, he₁, heq⟩ := Option.map_eq_some_iff.1 hs
    cases heq
    rw [(abandons_of_abandonCall? he₁).eq]
    exact h.congr rfl rfl rfl fun hu => hu
  | resume p =>
    cases p with
    | call i => exact h.resumeCall? hb hs
    | listener i => exact h.resumeListener? hs
  | work i wa =>
    obtain ⟨⟨crew, evs⟩, hact, heq⟩ := Option.map_eq_some_iff.1 hs
    cases heq
    obtain ⟨v, t, -, -, rfl, -⟩ := Crew.exists_turn_of_act? hact
    exact h.congr rfl (List.length_set ..) rfl fun hu => hu
  | receive =>
    obtain ⟨ch, -, heq⟩ := Option.map_eq_some_iff.1 hs
    cases heq
    exact h.congr rfl rfl rfl fun hu => hu

end Paired

/-- An engine in which somebody works or waits for a worker has started. -/
theorem begun_of_reachable (hr : Reachable c e) : Begun e :=
  hr.invariant (fun _ _ => ⟨nofun, nofun⟩) fun _ _ _ _ h hs => h.step hs

/-- **Every worker has its listener, and one listens at most.** -/
theorem paired_of_reachable (hr : Reachable c e) : Paired e := by
  have hboth : Paired e ∧ Begun e := by
    refine hr.invariant (P := fun e => Paired e ∧ Begun e) (fun world capacity => ⟨?_, ?_⟩)
      fun _ _ _ _ h hs => ⟨h.1.step h.2 hs, h.2.step hs⟩
    · exact ⟨rfl, nofun, nofun, fun _ => rfl⟩
    · exact ⟨nofun, nofun⟩
  exact hboth.1

end Engine

end TokenCatalog
