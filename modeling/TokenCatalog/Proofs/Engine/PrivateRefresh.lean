import TokenCatalog.Proofs.Engine.Calm

namespace TokenCatalog.Engine

/-!
# Private refreshes — what a call to refresh does while the guard is on

Such a call publishes what the stores hold and notifies the consumer once.  It does not see to the
worker: what a refresh that is under way does afterwards depends on how far it is.

* `Transition.eventsOf` — what others see of one call;
* `Republishes` — a call publishes local data, notifies once, and touches nothing else;
* `private_refresh_now` — the call does that, and silence follows exactly if the crew is calm.
-/

variable {c : Config} {e e' : Engine} {a : Action} {events : List Event} {id : CallId}

/-- What others see of one call in a step. -/
def Transition.eventsOf (id : CallId) (t : Transition) : List Event :=
  match t.action with
  | .resume (.call j) => if j = id then t.events else []
  | _ => []

/-- A call publishes what the stores hold, notifies the consumer once unless it has hung up, and
    changes neither the workers nor the world. -/
structure Republishes (c : Config) (id : CallId) (ts : List Transition) : Prop where
  published : ∃ t ∈ ts, t.action = .resume (.call id) ∧ .published ∈ t.events ∧
    t.after.snapshot = t.before.localSnapshot c
  notified : ts.flatMap (·.eventsOf id) = [.published, .notified] ∨
    ts.flatMap (·.eventsOf id) = [.published] ∧
      ∃ t ∈ ts, t.action = .resume (.call id) ∧ t.before.channel.isOpen = false
  crew : ∀ t ∈ ts, t.action = .resume (.call id) → t.after.crew = t.before.crew

/-! ### One step -/

/-- A send sends a notification, unless nobody listens any more. -/
theorem enqueue_cases (e : Engine) (p : Process) :
    (e.enqueue p).2 = [.notified] ∨ (e.enqueue p).2 = [] ∧ e.channel.isOpen = false := by
  unfold enqueue
  split
  · exact .inl rfl
  · exact .inr ⟨rfl, Bool.eq_false_iff.2 ‹_›⟩

/-- A call has published and waits for room in the channel. -/
def queue (c : Config) (e : Engine) (id : CallId) : Engine :=
  { (e.publish c).release (.call id) with channel := e.channel.join (.call id) }

/-- A call that queues to send has published local data. -/
theorem snapshot_queue (c : Config) (e : Engine) (id : CallId) :
    (e.queue c id).snapshot = e.localSnapshot c := by
  unfold queue publish release
  rfl

/-- Queueing to send leaves the calls where they are. -/
theorem calls_queue (c : Config) (e : Engine) (id : CallId) : (e.queue c id).calls = e.calls := by
  unfold queue publish release
  rfl

theorem publishPrivately_eq (c : Config) (e : Engine) (id : CallId) :
    e.publishPrivately c id =
      if (e.queue c id).channel.isReady (.call id) then
        (((e.queue c id).enqueue (.call id)).1.setCall id (.returned (.ok ())),
          .published :: ((e.queue c id).enqueue (.call id)).2)
      else ((e.queue c id).setCall id .sending, [.published]) := rfl

/-- A call that publishes in private either notifies at once, or finds that the consumer has hung
    up, or waits for room. -/
theorem publishPrivately_cases (c : Config) (e : Engine) (id : CallId) :
    (e.publishPrivately c id).1.snapshot = e.localSnapshot c ∧
      ((e.publishPrivately c id).1.calls =
          e.calls.modify id ({ · with stage := .returned (.ok ()) }) ∧
        ((e.publishPrivately c id).2 = [.published, .notified] ∨
          (e.publishPrivately c id).2 = [.published] ∧ e.channel.isOpen = false) ∨
        (e.publishPrivately c id).1.calls = e.calls.modify id ({ · with stage := .sending }) ∧
          (e.publishPrivately c id).2 = [.published]) := by
  have hsnapshot := snapshot_queue c e id
  have hcalls := calls_queue c e id
  have hcases := enqueue_cases (e.queue c id) (.call id)
  have hopen : (e.queue c id).channel.isOpen = e.channel.isOpen := rfl
  rw [publishPrivately_eq]
  -- From here on it matters only what is published, and that no call has moved yet.
  generalize e.queue c id = q at hsnapshot hcalls hcases hopen
  rw [← hsnapshot, ← hcalls, ← hopen]
  split
  · rw [enqueue_fst]
    refine ⟨rfl, .inl ⟨rfl, ?_⟩⟩
    rcases hcases with hsent | ⟨hnone, hclosed⟩
    · left
      rw [hsent]
    · right
      rw [hnone]
      exact ⟨rfl, hclosed⟩
  · exact ⟨rfl, .inr ⟨rfl, rfl⟩⟩

/-- What a call to refresh does when it gets its turn and finds the guard on. -/
theorem runCall_refreshNow (c : Config) (e : Engine) (id : CallId) (token : TokenId)
    (hoff : e.crew.world.isOffline = true) (hl : e.lifecycle ≠ .unstarted) :
    e.runCall c id (.refreshNow token) = e.answer id (.error .alreadyStopped) ∨
      e.runCall c id (.refreshNow token) = { e with wasPrivate := true }.publishPrivately c id := by
  cases hlife : e.lifecycle with
  | unstarted => exact absurd hlife hl
  | started =>
    right
    simp [runCall, refusal?, hlife, hoff]
  | stopped => exact .inl (runCall_of_stopped hlife c id _)

/-! ### A whole call -/

/-- A call has published what the stores held, and touched neither the workers nor the world. -/
structure HasPublished (c : Config) (id : CallId) (ts : List Transition) : Prop where
  published : ∃ t ∈ ts, t.action = .resume (.call id) ∧ .published ∈ t.events ∧
    t.after.snapshot = t.before.localSnapshot c
  crew : ∀ t ∈ ts, t.action = .resume (.call id) → t.after.crew = t.before.crew

/-- How far a call to refresh has come on a path on which the guard stays on. -/
inductive Progress (c : Config) (id : CallId) (token : TokenId) (ts : List Transition)
    (e : Engine) : Prop
  | waiting (pending : e.calls[id]? = some ⟨.refreshNow token, .locking⟩)
      (unseen : ∀ t ∈ ts, t.action ≠ .resume (.call id))
  | sending (stage : e.stage? id = some .sending) (published : HasPublished c id ts)
      (seen : ts.flatMap (·.eventsOf id) = [.published])
  | done (stage : e.stage? id = some (.returned (.ok ()))) (republishes : Republishes c id ts)
  | refused (stage : e.stage? id = some (.returned (.error .alreadyStopped)))
  | abandoned (stage : e.stage? id = some .abandoned)

section

variable {ts : List Transition} {token : TokenId} {t : Transition}

/-- What others see of somebody else's step is not seen of the call. -/
theorem eventsOf_of_ne (h : t.action ≠ .resume (.call id)) : t.eventsOf id = [] := by
  unfold Transition.eventsOf
  split
  · rename_i j hj
    rw [if_neg]
    rintro rfl
    exact h hj
  · rfl

/-- What others see of the call's step is seen of the call. -/
theorem eventsOf_of_eq (h : t.action = .resume (.call id)) : t.eventsOf id = t.events := by
  rw [Transition.eventsOf, h]
  exact if_pos rfl

/-- Before a call runs nothing is seen of it. -/
theorem flatMap_eventsOf_of_unseen (h : ∀ t ∈ ts, t.action ≠ .resume (.call id)) :
    ts.flatMap (·.eventsOf id) = [] :=
  List.flatMap_eq_nil_iff.2 fun t ht => eventsOf_of_ne (h t ht)

/-- What a call has published it has published after one step more. -/
theorem HasPublished.snoc (h : HasPublished c id ts)
    (ht : t.action = .resume (.call id) → t.after.crew = t.before.crew) :
    HasPublished c id (ts ++ [t]) := by
  obtain ⟨u, hu, hpub⟩ := h.published
  refine ⟨⟨u, List.mem_append_left _ hu, hpub⟩, fun v hv => ?_⟩
  rcases List.mem_append.1 hv with hv | hv
  · exact h.crew v hv
  · rw [List.mem_singleton.1 hv]
    exact ht

/-- What a call has done once it is not seen to do again in somebody else's step. -/
theorem Republishes.snoc (h : Republishes c id ts) (ht : t.action ≠ .resume (.call id)) :
    Republishes c id (ts ++ [t]) := by
  obtain ⟨hpublished, hcrew⟩ :=
    HasPublished.snoc (t := t) ⟨h.published, h.crew⟩ fun heq => absurd heq ht
  refine ⟨hpublished, ?_, hcrew⟩
  rw [List.flatMap_append, List.flatMap_singleton, eventsOf_of_ne ht, List.append_nil]
  rcases h.notified with hboth | ⟨hone, u, hu, hhung⟩
  · exact .inl hboth
  · exact .inr ⟨hone, u, List.mem_append_left _ hu, hhung⟩

/-- The call gets its turn. -/
theorem Progress.run (hpending : e.calls[id]? = some ⟨.refreshNow token, .locking⟩)
    (hunseen : ∀ t ∈ ts, t.action ≠ .resume (.call id)) (hoff : e.crew.world.isOffline = true)
    (hl : e.lifecycle ≠ .unstarted)
    (hrun : e.runCall c id (.refreshNow token) = (e', events)) :
    Progress c id token (ts ++ [⟨e, .resume (.call id), e', events⟩]) e' := by
  have hstage : ∀ s, e'.calls = e.calls.modify id ({ · with stage := s }) →
      e'.stage? id = some s := fun s hs => stage?_modify_self hpending hs
  rcases runCall_refreshNow c e id token hoff hl with heq | heq
  · rw [heq] at hrun
    cases hrun
    exact .refused (hstage _ rfl)
  · rw [heq] at hrun
    obtain ⟨hsnapshot, hcases⟩ := publishPrivately_cases c { e with wasPrivate := true } id
    have hcrew := (closes_publishPrivately c { e with wasPrivate := true } id).crew
    rw [hrun] at hsnapshot hcases hcrew
    have hpublished : .published ∈ events →
        HasPublished c id (ts ++ [⟨e, .resume (.call id), e', events⟩]) := by
      intro hmem
      refine ⟨⟨_, List.mem_append_right _ (List.mem_singleton_self _), rfl, hmem, hsnapshot⟩, ?_⟩
      intro t ht hact
      rcases List.mem_append.1 ht with ht | ht
      · exact absurd hact (hunseen t ht)
      · rw [List.mem_singleton.1 ht]
        exact hcrew
    have hseen : (ts ++ [(⟨e, .resume (.call id), e', events⟩ : Transition)]).flatMap
        (·.eventsOf id) = events := by
      rw [List.flatMap_append, flatMap_eventsOf_of_unseen hunseen, List.flatMap_singleton,
        eventsOf_of_eq rfl]
      rfl
    -- It notifies at once, or the consumer has hung up, or it has to wait for room.
    rcases hcases with ⟨hcalls, hboth | ⟨hone, hclosed⟩⟩ | ⟨hcalls, hone⟩
    · have hp := hpublished (by rw [show events = _ from hboth]; exact List.mem_cons_self)
      exact .done (hstage _ hcalls) ⟨hp.published, .inl (hseen.trans hboth), hp.crew⟩
    · have hp := hpublished (by rw [show events = _ from hone]; exact List.mem_cons_self)
      refine .done (hstage _ hcalls) ⟨hp.published, .inr ⟨hseen.trans hone, ?_⟩, hp.crew⟩
      exact ⟨_, List.mem_append_right _ (List.mem_singleton_self _), rfl, hclosed⟩
    · have hp := hpublished (by rw [show events = _ from hone]; exact List.mem_cons_self)
      exact .sending (hstage _ hcalls) hp (hseen.trans hone)

/-- The call, which has published, finds room in the channel. -/
theorem Progress.send {call : Call} (hpending : e.calls[id]? = some ⟨call, .sending⟩)
    (hp : HasPublished c id ts) (hseen : ts.flatMap (·.eventsOf id) = [.published])
    (he : e' = (e.enqueue (.call id)).1.setCall id (.returned (.ok ())))
    (hev : events = (e.enqueue (.call id)).2) :
    Progress c id token (ts ++ [⟨e, .resume (.call id), e', events⟩]) e' := by
  have hcalls : e'.calls = e.calls.modify id ({ · with stage := .returned (.ok ()) }) := by
    rw [he, calls_sent]
  have hcrew : e'.crew = e.crew := by
    rw [he, enqueue_fst]
    rfl
  have hp' := hp.snoc (t := ⟨e, .resume (.call id), e', events⟩) fun _ => hcrew
  have hseen' : (ts ++ [(⟨e, .resume (.call id), e', events⟩ : Transition)]).flatMap
      (·.eventsOf id) = .published :: events := by
    rw [List.flatMap_append, hseen, List.flatMap_singleton, eventsOf_of_eq rfl]
    rfl
  refine .done (stage?_modify_self hpending hcalls) ⟨hp'.published, ?_, hp'.crew⟩
  rw [hseen', hev]
  -- The notification is sent, unless the consumer has hung up.
  rcases enqueue_cases e (.call id) with hsent | ⟨hnone, hclosed⟩
  · left
    rw [hsent]
  · right
    rw [hnone]
    exact ⟨rfl, _, List.mem_append_right _ (List.mem_singleton_self _), rfl, hclosed⟩

/-- **A call to refresh gets on while the guard stays on.** -/
theorem Progress.step (h : Progress c id token ts e) (hoff : e.crew.world.isOffline = true)
    (hl : e.lifecycle ≠ .unstarted) (hs : e.step? c a = some (e', events)) :
    Progress c id token (ts ++ [⟨e, a, e', events⟩]) e' := by
  -- A step that does not move the call shows nothing of it either.
  have hne : ¬ a.Moves id → a ≠ .resume (.call id) := by
    rintro hstill rfl
    exact hstill rfl
  cases h with
  | waiting hpending hunseen =>
    by_cases hm : a.Moves id
    · rcases moves_cases hs hm with ⟨-, hab⟩ | ⟨rfl, hresume⟩
      · exact .abandoned (stage?_modify_self hpending hab.calls)
      · exact .run hpending hunseen hoff hl (runCall_of_resumeCall? hpending hresume).2.symm
    · refine .waiting (getElem?_calls_of_step hs hpending hm) fun t ht => ?_
      rcases List.mem_append.1 ht with ht | ht
      · exact hunseen t ht
      · rw [List.mem_singleton.1 ht]
        exact hne hm
  | sending hstage hp hseen =>
    by_cases hm : a.Moves id
    · obtain ⟨⟨call, s⟩, hpending, rfl⟩ := Option.map_eq_some_iff.1 hstage
      rcases moves_cases hs hm with ⟨-, hab⟩ | ⟨rfl, hresume⟩
      · exact .abandoned (stage?_modify_self hpending hab.calls)
      · obtain ⟨he, hev⟩ := Prod.mk.inj (sent_of_resumeCall? hpending hresume)
        exact .send hpending hp hseen he hev
    · refine .sending (stage?_of_not_moves hs hstage hm)
        (hp.snoc fun heq => absurd heq (hne hm)) ?_
      rw [List.flatMap_append, hseen, List.flatMap_singleton, eventsOf_of_ne (hne hm)]
      rfl
  | done hstage hrep =>
    have hm := not_moves_of_isOver hs hstage trivial
    exact .done (stage?_of_not_moves hs hstage hm) (hrep.snoc (hne hm))
  | refused hstage => exact .refused (stage?_of_isOver hs hstage trivial)
  | abandoned hstage => exact .abandoned (stage?_of_isOver hs hstage trivial)

end

/-- A private refresh makes progress along every path that stays offline. -/
theorem Progress.of_path {start : Engine} {ts : List Transition} {token : TokenId}
    (hl : start.lifecycle ≠ .unstarted)
    (hp : Path c Offline (start.invoke (.refreshNow token)) ts e) :
    Progress c start.calls.length token ts e ∧ e.lifecycle ≠ .unstarted := by
  induction hp with
  | nil =>
    have hpending := getElem?_calls_invoke start (.refreshNow token)
    exact ⟨.waiting hpending fun t ht => absurd ht List.not_mem_nil, hl⟩
  | snoc _ hoff hs ih =>
    obtain ⟨hprogress, hlife⟩ := ih
    exact ⟨hprogress.step hoff hlife hs, lifecycle_of_step hlife hs⟩

/-- **What a private refresh does, and when silence follows.**  A call to refresh a started engine,
    throughout which the guard was on, is refused if the engine has been stopped before its turn.
    Otherwise it publishes what the stores hold, notifies once, and touches neither the workers nor
    the time of the last refresh; and while the guard stays on nobody sends a request from then on
    exactly if no worker had got past the guard to where it may still send one. -/
theorem private_refresh_now {e₀ e₁ : Engine} {token : TokenId} {ts : List Transition}
    {result : Except CallError Unit} (started : e₀.lifecycle = .started)
    (during : Path c Offline (e₀.invoke (.refreshNow token)) ts e₁)
    (returned : e₁.stage? e₀.calls.length = some (.returned result))
    (offline : e₁.crew.world.isOffline = true) :
    result = .error .alreadyStopped ∨
      result = .ok () ∧ Republishes c e₀.calls.length ts ∧
        ((∀ us e₂, Path c Offline e₁ us e₂ → ∀ t ∈ us, ∀ f r, .requested f r false ∉ t.events) ↔
          e₁.crew.Calm c) := by
  have hl : e₀.lifecycle ≠ .unstarted := by
    rw [started]
    exact nofun
  -- Only a call that is done or refused has returned.
  cases (Progress.of_path hl during).1 with
  | waiting hpending =>
    rw [stage?, hpending] at returned
    cases returned
  | sending hstage =>
    rw [hstage] at returned
    cases returned
  | done hstage hrep =>
    rw [hstage] at returned
    cases returned
    exact .inr ⟨rfl, hrep, silent_iff_calm offline⟩
  | refused hstage =>
    rw [hstage] at returned
    cases returned
    exact .inl rfl
  | abandoned hstage =>
    rw [hstage] at returned
    cases returned

/-! ### With and without a refresh under way -/

/-- The guard is turned on before the worker has run. -/
def guarded : Engine := (follow .remote poised [.alter { now := 10000, privacy := true }]).2

/-- A call to refresh then. -/
def refreshed : List Transition × Engine :=
  follow .remote (guarded.invoke (.refreshNow 0)) [.resume (.call 1)]

/-- After the refresh nobody has anything to ask. -/
theorem calm_refreshed : refreshed.2.crew.Calm .remote := by
  have hspawned : refreshed.2.crew.workers.all (·.stage = .spawned false) = true := by
    decide +kernel
  intro id w hw _ hask
  have hstage := List.all_eq_true.1 hspawned w (List.mem_of_getElem? hw)
  simp [Worker.MayAsk, of_decide_eq_true hstage] at hask

/-- A worker that has not looked at the guard yet keeps silent. -/
theorem private_refresh_now_guarded :
    Republishes .remote guarded.calls.length refreshed.1 ∧
      ∀ us e₂, Path .remote Offline refreshed.2 us e₂ →
        ∀ t ∈ us, ∀ f r, .requested f r false ∉ t.events := by
  have hreturned : refreshed.2.hasSucceeded guarded.calls.length = true := by decide +kernel
  have hpath : Path .remote Offline (guarded.invoke (.refreshNow 0)) refreshed.1 refreshed.2 :=
    path_follow (by decide +kernel)
  rcases private_refresh_now (by decide +kernel) hpath (hasSucceeded_iff.1 hreturned)
    (by decide +kernel) with hrefused | ⟨-, hrep, hsilent⟩
  · cases hrefused
  · exact ⟨hrep, hsilent.2 calm_refreshed⟩

/-- A manifest with one list. -/
def listing : Manifest :=
  { timestamp := "2024-01-01T00:00:00Z"
    entries := [{ id := "remote", sourceUrl := "https://lists.example/remote.json" }] }

/-- A call to refresh while a worker waits for the manifest, with the guard on. -/
def unheeded : List Transition × Engine :=
  follow .remote (interrupted.invoke (.refreshNow 0)) [.resume (.call 1)]

/-- The manifest comes, and its list is asked for. -/
def leaked : List Transition × Engine :=
  follow .remote unheeded.2
    [.work 0 (.manifestAnswered (.ok ⟨some (Bytes.ofText listing.toJson.toText), ""⟩) false),
      .work 0 (.poll 0)]

/-- Whether an event is a request under a token that is not cancelled. -/
def isLiveRequest : Event → Bool
  | .requested _ _ false => true
  | _ => false

/-- A private refresh is not silent whatever stage a refresh under way has reached: a worker that
    waits for the manifest goes on to ask for its lists. -/
theorem private_refresh_now_not_silent :
    ¬ ∀ (e₀ e₁ e₂ : Engine) (token : TokenId) (ts us : List Transition),
      Reachable .remote e₀ → e₀.lifecycle = .started →
      Path .remote Offline (e₀.invoke (.refreshNow token)) ts e₁ →
      e₁.hasSucceeded e₀.calls.length = true → Path .remote Offline e₁ us e₂ →
      ∀ t ∈ us, ∀ f r, .requested f r false ∉ t.events := by
  intro hsilent
  -- Both facts at once: reading the manifest is what takes the kernel time.
  have hleak : (∀ t ∈ leaked.1, Offline t.before t.action) ∧
      leaked.1.any (·.events.any isLiveRequest) = true := by decide +kernel
  obtain ⟨t, ht, hevents⟩ := List.any_eq_true.1 hleak.2
  obtain ⟨ev, hev, hlive⟩ := List.any_eq_true.1 hevents
  obtain ⟨f, r, rfl⟩ : ∃ f r, ev = .requested f r false := by
    unfold isLiveRequest at hlive
    split at hlive
    · exact ⟨_, _, rfl⟩
    · cases hlive
  exact hsilent interrupted unheeded.2 leaked.2 0 unheeded.1 leaked.1 reachable_interrupted
    (by decide +kernel) (path_follow (by decide +kernel)) (by decide +kernel)
    (path_follow hleak.1) t ht f r hev

end TokenCatalog.Engine
