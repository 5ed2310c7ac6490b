import TokenCatalog.Proofs.Engine.Backpressure
import TokenCatalog.Proofs.Engine.Departure
import TokenCatalog.Proofs.Engine.Queues
import TokenCatalog.Proofs.Engine.Resumption
import TokenCatalog.Proofs.Refresh.Cycle

namespace TokenCatalog

/-!
# Undisturbed — a forced refresh that nobody comes between

A call to refresh dismisses the worker that is live, waits until it has left, and starts another one
that refreshes at once.  As long as nobody else calls, the guard stays off and the application
leaves its stores alone, all that happens is that refresh.

* `Undisturbed` — the promise;
* `acts`, `deeds` — what workers have done, and what they have let others see;
* `Underway` — the new worker is on its way to its first result; `Underway.step`,
  `Underway.published` say how it gets there, and what is published then;
* `Course` — how far the call has come, and `course_of_path`, which says that it comes no other way.
-/

/-! ### What workers let others see -/

instance : DecidablePred Event.IsNews
  | .published | .notified | .received => .isTrue trivial
  | .refreshBegan _ | .requested .. | .wrote .. | .refreshRecorded .. => .isFalse not_false

/-- What workers have done, among events. -/
def Event.deeds (events : List Event) : List Event := events.filter fun ev => ¬ ev.IsNews

/-- News are nobody's deeds. -/
theorem Event.deeds_of_isNews {events : List Event} (h : ∀ ev ∈ events, ev.IsNews) :
    Event.deeds events = [] :=
  List.filter_eq_nil_iff.2 fun ev hev => by simpa using h ev hev

/-- What is no news is somebody's deed. -/
theorem Event.deeds_of_not_isNews {events : List Event} (h : ∀ ev ∈ events, ¬ ev.IsNews) :
    Event.deeds events = events :=
  List.filter_eq_self.2 fun ev hev => by simpa using h ev hev

namespace Engine

variable {c : Config} {e e' start : Engine} {a : Action} {events log : List Event}
  {done : List Worker.Act}
  {id j : CallId} {token : TokenId} {w : WorkerId} {w₀ : World} {v : Worker} {l : ListenerStage}
  {ts : List Transition}

/-- What a worker does in a step. -/
def Transition.act? (t : Transition) : Option Worker.Act :=
  match t.action with
  | .work _ a => some ⟨t.before.crew.world, a⟩
  | _ => none

/-- What workers have done in a run. -/
def acts (ts : List Transition) : List Worker.Act := ts.filterMap Transition.act?

/-- One step more adds what a worker does in it. -/
theorem acts_snoc (ts : List Transition) (t : Transition) :
    acts (ts ++ [t]) = acts ts ++ t.act?.toList := by
  rw [acts, List.filterMap_append, acts, List.filterMap_cons, List.filterMap_nil]
  cases t.act? <;> rfl

/-- What others have seen workers do in a run. -/
def deeds (ts : List Transition) : List Event := Event.deeds (ts.flatMap (·.events))

/-- One step more adds what others see workers do in it. -/
theorem deeds_snoc (ts : List Transition) (t : Transition) :
    deeds (ts ++ [t]) = deeds ts ++ Event.deeds t.events := by
  rw [deeds, List.flatMap_append, Event.deeds, List.filter_append, List.flatMap_singleton]
  rfl

/-! ### The promise -/

/-- Whether a call waits for room in the notification channel; it has given up the lock. -/
def isSending (e : Engine) (id : CallId) : Bool :=
  match e.stage? id with
  | some .sending => true
  | _ => false

/-- A call that is sending waits for room. -/
theorem stage?_of_isSending (h : e.isSending id = true) : e.stage? id = some .sending := by
  unfold isSending at h
  split at h
  · assumption
  · cases h

/-- The promise that the application leaves its stores alone, and that no call but one gets a turn
    and that one is not given up; others may come and wait, or notify of what they have
    published. -/
def StandsBack (id : CallId) (e : Engine) : Action → Prop
  | .alter world => e.crew.world.SameStores world
  | .abandon j => j ≠ id
  | .resume (.call j) => j = id ∨ e.isSending j = true
  | _ => True

instance (id : CallId) (e : Engine) (a : Action) : Decidable (StandsBack id e a) :=
  match a with
  | .alter world => inferInstanceAs (Decidable (e.crew.world.SameStores world))
  | .abandon j => inferInstanceAs (Decidable (j ≠ id))
  | .resume (.call j) => inferInstanceAs (Decidable (j = id ∨ e.isSending j = true))
  | .resume (.listener _) | .elapse _ | .cancel _ | .invoke _ | .work .. | .receive | .hangUp =>
    .isTrue trivial

/-- The promise that nobody comes between a call to refresh and its result: the guard is off, the
    call's token is not cancelled, the steady clock can hold the next tick, no call is given up
    while it waits for a worker to leave, and nobody interferes. -/
def Undisturbed (c : Config) (id : CallId) (token : TokenId) (e : Engine) (a : Action) : Prop :=
  Spares c token e a ∧ Patient e a ∧ StandsBack id e a

instance (c : Config) (id : CallId) (token : TokenId) (e : Engine) (a : Action) :
    Decidable (Undisturbed c id token e a) :=
  inferInstanceAs (Decidable ((_ ∧ _ ∧ _) ∧ Patient e a ∧ StandsBack id e a))

/-- Whether the listener of a worker publishes in a step. -/
def Transition.publishes (w : WorkerId) (t : Transition) : Bool :=
  match t.action with
  | .resume (.listener l) => l = w && t.events.contains .published
  | _ => false

/-- A call that waits for room does nothing but notify. -/
theorem notifies_of_isSending (hsending : e.isSending j = true)
    (hs : e.resumeCall? c j = some (e', events)) :
    (∃ ch, e' = { e.setCall j (.returned (.ok ())) with channel := ch }) ∧
      .published ∉ events ∧ ∀ ev ∈ events, ev.IsNews := by
  obtain ⟨⟨call, _⟩, hp, rfl⟩ := Option.map_eq_some_iff.1 (stage?_of_isSending hsending)
  have heq := sent_of_resumeCall? hp hs
  -- A call that is sending runs only when there is room for its notification.
  have hready : ∀ t, CallStep c e j t → e.channel.isReady (.call j) = true := by
    intro t ht
    cases ht with
    | sent _ hready => exact hready
    | run hp' | left hp' => cases hp.symm.trans hp'
  obtain ⟨ch, hsends, henqueue⟩ := enqueue_sends e j (hready _ (callStep_of_resumeCall? hs))
  rw [henqueue] at heq
  cases heq
  refine ⟨⟨ch, rfl⟩, fun hpublished => ?_, isNews_enqueue e (.call j)⟩
  -- A send notifies, or finds that nobody listens.
  rcases hsends.posts.events_cases with hnone | hone
  · rw [hnone] at hpublished
    cases hpublished
  · rw [hone] at hpublished
    cases List.mem_singleton.1 hpublished

/-! ### What others leave alone -/

/-- A step that is not the call's leaves it where it waits, and brings no worker. -/
structure Aside (id : CallId) (e e' : Engine) : Prop where
  call : ∀ p, e.calls[id]? = some p → e'.calls[id]? = some p
  length : e'.crew.workers.length = e.crew.workers.length
  lifecycle : e'.lifecycle = e.lifecycle
  token : e'.token = e.token

/-- A step that is not the call's, of somebody who stands back, leaves it where it waits. -/
theorem aside_of_step (ok : StandsBack id e a) (ha : a ≠ .resume (.call id))
    (hs : e.step? c a = some (e', events)) : Aside id e e' := by
  -- The call could only be moved by its own step, or by being given up.
  have hcall : ∀ p, e.calls[id]? = some p → e'.calls[id]? = some p := by
    refine fun p hp => getElem?_calls_of_step hs hp fun hmoves => ?_
    rcases moves_cases hs hmoves with ⟨rfl, -⟩ | ⟨rfl, -⟩
    · exact ok rfl
    · exact ha rfl
  cases stepCase_of_step? hs with
  | steady hsteady hother =>
    have hlength := length_workers_of_step hs fun j hj => hother j (by rw [hj]; rfl)
    exact ⟨hcall, hlength, hsteady.lifecycle, hsteady.token⟩
  | invoke call => exact ⟨hcall, rfl, rfl, rfl⟩
  | abandon habandon =>
    refine ⟨hcall, length_workers_of_step hs nofun, ?_, ?_⟩ <;>
    · rw [habandon.eq]
      rfl
  | @resume j _ _ hresume =>
    -- A call that runs meanwhile is one that sends what it has published.
    have hsending : e.isSending j = true := ok.resolve_left fun hj => ha (by rw [hj])
    obtain ⟨⟨ch, rfl⟩, -⟩ := notifies_of_isSending hsending hresume
    exact ⟨hcall, rfl, rfl, rfl⟩

/-- Where no worker comes, none is hired. -/
theorem unhired_snoc (h : ∀ t ∈ ts, ∀ i, ¬ t.Hires i)
    (hlength : e'.crew.workers.length = e.crew.workers.length) :
    ∀ t ∈ ts ++ [⟨e, a, e', events⟩], ∀ i, ¬ t.Hires i := by
  refine List.forall_mem_append.2 ⟨h, List.forall_mem_singleton.2 fun i => ?_⟩
  rintro ⟨hbefore, hafter⟩
  dsimp only at hbefore hafter
  omega

/-! ### On the way to a result -/

/-- Where the result of a refresh is that nobody has published yet: there is none, or it is offered,
    or the listener has it and waits for the lock. -/
inductive Pends : Worker.Stage → Worker.Handover → ListenerStage → Prop
  | unfinished {s : Worker.Stage} (stage : s ≠ .awaiting) : Pends s .none .receiving
  | offered : Pends .awaiting .offered .receiving
  | taken : Pends .awaiting .taken .locking

namespace Pends

variable {s : Worker.Stage} {o : Worker.Handover}

/-- A listener that may still bring a result has not ended. -/
theorem active (h : Pends s o l) : l ≠ .ended := by
  cases h <;> nofun

/-- It waits for a result, or for the lock. -/
theorem waits (h : Pends s o l) : l = .receiving ∨ l = .locking := by
  cases h with
  | unfinished | offered => exact .inl rfl
  | taken => exact .inr rfl

/-- A result that is offered may be taken. -/
theorem take (h : Pends s .offered l) : Pends s .taken .locking := by
  cases h
  exact .taken

/-- A worker that goes on offers its result when it has one. -/
theorem advance {s' : Worker.Stage} {o' : Worker.Handover} (h : Pends s o l) (hs : s ≠ .awaiting)
    (ho : o' = if s' = .awaiting then .offered else o) : Pends s' o' l := by
  cases h with
  | unfinished =>
    rw [ho]
    split
    · rename_i hawaits
      rw [hawaits]
      exact .offered
    · exact .unfinished ‹_›
  | offered | taken => exact absurd rfl hs

/-- A worker whose result is on its way waits for it to be acknowledged. -/
theorem awaits (h : Pends s o l) (hl : o = .offered ∨ l = .locking) : s = .awaiting := by
  cases h with
  | unfinished => rcases hl with hl | hl <;> cases hl
  | offered | taken => rfl

/-- A listener that waits for results has not taken the one there is. -/
theorem offered_of_receiving (h : Pends s o .receiving) (hs : s = .awaiting) : o = .offered := by
  cases h with
  | unfinished hne => exact absurd hs hne
  | offered => rfl

/-- A worker that waits for an answer has offered its result, and the listener has taken it or
    will. -/
theorem handover (h : Pends s o l) (hs : s = .awaiting) : o = .offered ∨ o = .taken := by
  cases h with
  | unfinished hne => exact absurd hs hne
  | offered => exact .inl rfl
  | taken => exact .inr rfl

end Pends

/-- The newest worker, started under a token by a call that has returned, is on its way to its first
    result, and its listener waits for that, or has it and waits for the lock. -/
structure Underway (c : Config) (id : CallId) (token : TokenId) (w : WorkerId) (w₀ : World)
    (done : List Worker.Act) (log : List Event) (e : Engine) (v : Worker) (l : ListenerStage) :
    Prop where
  newest : e.crew.workers.length = w + 1
  returned : e.stage? id = some (.returned (.ok ()))
  worker : e.crew.workers[w]? = some v
  listener : e.listeners[w]? = some ⟨w, l⟩
  parent : v.parent = token
  stopped : v.stopped = false
  heard : v.hasConsumer = true
  cycle : Worker.Cycle c w w₀ done log v.stage e.crew.world
  pends : Pends v.stage v.handover l

namespace Underway

/-- The worker on its way is live. -/
theorem isLive (h : Underway c id token w w₀ done log e v l) : e.crew.isLive w = true := by
  refine Crew.isLive_iff.2 ⟨v, h.worker, decide_eq_true fun hexited => ?_⟩
  have hcycle := h.cycle
  rw [hexited] at hcycle
  cases hcycle

/-- Nobody else listens. -/
theorem listens (h : Underway c id token w w₀ done log e v l) (hp : Paired e) {i : ListenerId}
    {li : Listener} (hli : e.listeners[i]? = some li) (hactive : li.stage ≠ .ended) : i = w := by
  have hknown := hp.known i li hli hactive
  have hthis := hp.known w ⟨w, l⟩ h.listener h.pends.active
  rw [hknown] at hthis
  exact Option.some.inj hthis

/-- Only the worker, its listener, the stores and the call count. -/
theorem congr (h : Underway c id token w w₀ done log e v l)
    (hlength : e'.crew.workers.length = e.crew.workers.length)
    (hreturned : e'.stage? id = e.stage? id)
    (hworker : e'.crew.workers[w]? = e.crew.workers[w]?)
    (hlistener : e'.listeners[w]? = e.listeners[w]?)
    (hstores : e.crew.world.SameStores e'.crew.world) :
    Underway c id token w w₀ done log e' v l :=
  { h with
    newest := hlength.trans h.newest
    returned := hreturned.trans h.returned
    worker := hworker.trans h.worker
    listener := hlistener.trans h.listener
    cycle := h.cycle.congr hstores }

/-- The listener takes the result, and waits for the lock. -/
theorem queues (h : Underway c id token w w₀ done log e v .receiving)
    (hoffered : v.handover = .offered) :
    Underway c id token w w₀ done log ((e.fetched w w).setListener w .locking)
      { v with handover := .taken } .locking where
  newest := (List.length_modify ..).trans h.newest
  returned := h.returned
  worker := by
    show (e.crew.workers.modify w _)[w]? = _
    rw [List.getElem?_modify_eq, h.worker]
    rfl
  listener := by
    show (e.listeners.modify w _)[w]? = _
    rw [List.getElem?_modify_eq, h.listener]
    rfl
  parent := h.parent
  stopped := h.stopped
  heard := h.heard
  cycle := h.cycle
  pends := Pends.take (hoffered ▸ h.pends)

/-- The listener of the worker takes its result, or publishes it. -/
theorem resumeListener (h : Underway c id token w w₀ done log e v l) (hp : Paired e)
    {i : ListenerId} (hs : e.resumeListener? c i = some (e', events)) :
    i = w ∧ (v.stage = .awaiting ∧ .published ∈ events ∨
      events = [] ∧ Underway c id token w w₀ done log e' { v with handover := .taken } .locking) := by
  have hsplit : ∀ t, ListenerStep c e i t → i = w ∧ (v.stage = .awaiting ∧ .published ∈ t.2 ∨
      t.2 = [] ∧ Underway c id token w w₀ done log t.1 { v with handover := .taken } .locking) := by
    intro t ht
    -- Only the worker's own listener has not ended.
    have hw : ∀ {u : WorkerId} {s : ListenerStage}, e.listeners[i]? = some ⟨u, s⟩ → s ≠ .ended →
        i = w ∧ u = w ∧ s = l := by
      intro u s hli hactive
      obtain rfl := h.listens hp hli hactive
      cases hli.symm.trans h.listener
      exact ⟨rfl, rfl, rfl⟩
    cases ht with
    | @ends u hli _ hgone =>
      obtain ⟨rfl, rfl, -⟩ := hw hli fun heq => by cases heq
      -- The worker is live, so its listener does not end.
      rw [h.isLive] at hgone
      cases hgone
    | @queues u hli hoffers =>
      obtain ⟨rfl, rfl, rfl⟩ := hw hli fun heq => by cases heq
      rw [Crew.offers, h.worker, Option.any_some] at hoffers
      exact ⟨rfl, .inr ⟨rfl, h.queues (of_decide_eq_true hoffers)⟩⟩
    | @takes u hli hoffers =>
      obtain ⟨rfl, rfl, -⟩ := hw hli fun heq => by cases heq
      rw [Crew.offers, h.worker, Option.any_some] at hoffers
      obtain ⟨s, ch, news, -, heq⟩ := announce_eq c (e.fetched u u) u u
      rw [heq]
      exact ⟨rfl, .inl ⟨h.pends.awaits (.inl (of_decide_eq_true hoffers)), List.mem_cons_self⟩⟩
    | @announces u hli =>
      obtain ⟨rfl, rfl, rfl⟩ := hw hli fun heq => by cases heq
      obtain ⟨s, ch, news, -, heq⟩ := announce_eq c e u u
      rw [heq]
      exact ⟨rfl, .inl ⟨h.pends.awaits (.inr rfl), List.mem_cons_self⟩⟩
    | delivers hli | settles hli =>
      obtain ⟨-, -, rfl⟩ := hw hli fun heq => by cases heq
      -- A pending result has not been published, so there is nothing to send yet.
      rcases h.pends.waits with h | h <;> cases h
  exact hsplit _ (listenerStep_of_resumeListener? hs)

/-- A worker that runs is this one, and goes on with its refresh. -/
theorem work (h : Underway c id token w w₀ done log e v l) (hsucc : Succession e)
    (hspares : Spares c token e a) {i : WorkerId} {wa : Worker.Action}
    (hs : e.step? c (.work i wa) = some (e', events)) :
    i = w ∧ ∃ t, v.act? ⟨c, e.crew.world, e.crew.clock, false, w⟩ wa = some t ∧
      e'.lock = e.lock ∧
      Underway c id token w w₀ (done ++ [⟨e.crew.world, wa⟩]) (log ++ events) e' t.worker l := by
  obtain ⟨⟨crew, evs⟩, hact, heq⟩ := Option.map_eq_some_iff.1 hs
  cases heq
  obtain ⟨u, t, hu, ht, rfl, rfl⟩ := Crew.exists_turn_of_act? hact
  -- Only the newest worker is live.
  obtain rfl : i = w := by
    have hlive := hsucc.newest i (Crew.isLive_iff.2 ⟨u, hu, Worker.isLive_of_act? ht⟩)
    exact Nat.succ.inj (hlive.trans h.newest)
  obtain rfl : u = v := Option.some.inj (hu.symm.trans h.worker)
  -- Nobody has told it to stop, and its token is spared.
  have hcancelled : e.crew.isCancelled u = false := by
    rw [Crew.isCancelled, h.stopped, h.parent, hspares.2.1]
    rfl
  rw [hcancelled] at ht
  have hbusy := Worker.busy_of_act? h.pends.handover rfl ht
  obtain ⟨hcycle, hhandover⟩ := Worker.advances_of_act?
    (s := ⟨c, e.crew.world, e.crew.clock, false, i⟩) h.cycle h.heard hbusy rfl hspares.1
    hspares.2.2 ht
  have hlawful := Worker.lawful_of_act? ht
  refine ⟨rfl, t, ht, rfl, ?_⟩
  exact {
    newest := (List.length_set ..).trans h.newest
    returned := h.returned
    worker := List.getElem?_set_self (List.getElem?_eq_some_iff.1 hu).1
    listener := h.listener
    parent := hlawful.parent.trans h.parent
    stopped := hlawful.stopped.trans h.stopped
    heard := (Worker.hasConsumer_of_act? ht).trans h.heard
    cycle := hcycle
    pends := h.pends.advance hbusy hhandover }

/-- What others do leaves the worker and its listener alone, and publishes nothing. -/
theorem others (h : Underway c id token w w₀ done log e v l) (ok : StandsBack id e a)
    (hs : e.step? c a = some (e', events)) (hwork : ∀ i wa, a ≠ .work i wa)
    (hlistener : ∀ i, a ≠ .resume (.listener i)) :
    .published ∉ events ∧ (∀ ev ∈ events, ev.IsNews) ∧
      Underway c id token w w₀ done log e' v l := by
  have hnone : ∀ ev ∈ ([] : List Event), ev.IsNews := fun ev hev => absurd hev List.not_mem_nil
  -- The call has returned, and stays so.
  have hreturned : e'.stage? id = e.stage? id := by
    rw [h.returned]
    exact stage?_of_isOver hs h.returned trivial
  cases a with
  | alter world =>
    cases hs
    exact ⟨List.not_mem_nil, hnone, h.congr rfl rfl rfl rfl ok⟩
  | elapse | cancel | hangUp =>
    cases hs
    exact ⟨List.not_mem_nil, hnone, h.congr rfl rfl rfl rfl (.refl _)⟩
  | invoke call =>
    cases hs
    exact ⟨List.not_mem_nil, hnone, h.congr rfl hreturned rfl rfl (.refl _)⟩
  | abandon j =>
    obtain ⟨e₁, he₁, heq⟩ := Option.map_eq_some_iff.1 hs
    cases heq
    have habandon := abandons_of_abandonCall? he₁
    refine ⟨List.not_mem_nil, hnone, h.congr ?_ hreturned ?_ ?_ ?_⟩
    · rw [habandon.crew]
    · rw [habandon.crew]
    · rw [habandon.eq]
      rfl
    · rw [habandon.crew]
      exact .refl _
  | resume p =>
    cases p with
    | call j =>
      -- The call that runs is another one, which sends.
      have hsending : e.isSending j = true := by
        refine ok.resolve_left fun hj => ?_
        subst hj
        exact not_isOver_of_resumeCall? hs h.returned trivial
      obtain ⟨⟨ch, rfl⟩, hquiet, hnews⟩ := notifies_of_isSending hsending hs
      exact ⟨hquiet, hnews, h.congr rfl hreturned rfl rfl (.refl _)⟩
    | listener i => exact absurd rfl (hlistener i)
  | work i wa => exact absurd rfl (hwork i wa)
  | receive =>
    obtain ⟨ch, -, heq⟩ := Option.map_eq_some_iff.1 hs
    cases heq
    refine ⟨by simp, fun ev hev => ?_, h.congr rfl rfl rfl rfl (.refl _)⟩
    rw [List.mem_singleton.1 hev]
    trivial

/-- **Nothing but its refresh happens** until the listener of the worker publishes. -/
theorem step (h : Underway c id token w w₀ done log e v l) (hp : Paired e) (hsucc : Succession e)
    (ok : Undisturbed c id token e a) (hs : e.step? c a = some (e', events))
    (hsilent : Transition.publishes w ⟨e, a, e', events⟩ = false) :
    .published ∉ events ∧
      ∃ v' l', Underway c id token w w₀ (done ++ (Transition.act? ⟨e, a, e', events⟩).toList)
        (log ++ Event.deeds events) e' v' l' := by
  -- Where no worker runs, what has been done and seen stays as it is.
  have hrests : ∀ {v' : Worker} {l' : ListenerStage}, (∀ ev ∈ events, ev.IsNews) →
      Underway c id token w w₀ done log e' v' l' →
      ∃ v' l', Underway c id token w w₀ (done ++ []) (log ++ Event.deeds events) e' v' l' := by
    intro v' l' hnews h'
    rw [Event.deeds_of_isNews hnews, List.append_nil, List.append_nil]
    exact ⟨v', l', h'⟩
  cases a with
  | work i wa =>
    obtain ⟨rfl, t, -, -, h'⟩ := h.work hsucc ok.1 hs
    have hdeeds : ∀ ev ∈ events, ¬ ev.IsNews := by
      obtain ⟨⟨crew, evs⟩, hact, heq⟩ := Option.map_eq_some_iff.1 hs
      cases heq
      exact Crew.not_isNews_of_act? hact
    rw [Event.deeds_of_not_isNews hdeeds]
    exact ⟨fun hpublished => hdeeds _ hpublished trivial, _, _, h'⟩
  | resume p =>
    cases p with
    | listener i =>
      obtain ⟨rfl, ⟨-, hpublished⟩ | ⟨rfl, h'⟩⟩ := h.resumeListener hp hs
      · simp [Transition.publishes, hpublished] at hsilent
      · exact ⟨List.not_mem_nil, hrests (fun ev hev => absurd hev List.not_mem_nil) h'⟩
    | call j =>
      obtain ⟨hquiet, hnews, h'⟩ := h.others ok.2.2 hs (by nofun) (by nofun)
      exact ⟨hquiet, hrests hnews h'⟩
  | alter | elapse | cancel | invoke | abandon | receive | hangUp =>
    obtain ⟨hquiet, hnews, h'⟩ := h.others ok.2.2 hs (by nofun) (by nofun)
    exact ⟨hquiet, hrests hnews h'⟩

/-- **What is published is built from what the refresh leaves.** -/
theorem published (h : Underway c id token w w₀ done log e v l) (hp : Paired e)
    (hs : e.step? c (.resume (.listener w)) = some (e', events)) (hev : .published ∈ events) :
    (∃ world, Worker.Completed c w w₀ done log world ∧ world.SameStores e.crew.world) ∧
      e'.crew.world = e.crew.world ∧ e'.snapshot = e'.localSnapshot c := by
  have hworld : e'.crew.world = e.crew.world := Crew.world_of_bare (Keeps.resumeListener? hs).crew
  -- The listener publishes only when the worker waits for an acknowledgement.
  have hawaits : v.stage = .awaiting := by
    obtain ⟨-, ⟨hawaits, -⟩ | ⟨rfl, -⟩⟩ := h.resumeListener hp hs
    · exact hawaits
    · cases hev
  refine ⟨?_, hworld, ?_⟩
  · have hcycle := h.cycle
    rw [hawaits] at hcycle
    cases hcycle with
    | completed hcompleted hstores => exact ⟨_, hcompleted, hstores⟩
  · rw [localSnapshot, hworld]
    -- What is published is built from local data, and who only sends publishes nothing.
    cases newsCase_of_step? hs with
    | still _ hsilent => exact absurd trivial (hsilent _ hev)
    | announces hsnapshot => exact hsnapshot
    | posts _ hposts =>
      rcases hposts.events_cases with hnone | hone
      · rw [hnone] at hev
        cases hev
      · rw [hone] at hev
        cases List.mem_singleton.1 hev

end Underway

/-! ### From the call to the worker -/

/-- What a call leaves that starts a worker by force once there is none. -/
theorem underway_of_afterLeave {p : PendingCall} (hp : Paired e) (hnone : e.worker = none)
    (hcall : e.calls[id]? = some p) :
    Underway c id e.token e.crew.workers.length (e.afterLeave c id .restart).1.crew.world [] []
      (e.afterLeave c id .restart).1 { parent := e.token, stage := .spawned true } .receiving := by
  have hkeeps := keeps_dropListener e
  have hlength := length_workers_of_bare hkeeps.crew
  have hpaired := hp.dropListener.length
  -- Once the listener is dropped no worker is known, so a new one is started.
  have hlive : e.dropListener.hasLiveWorker = false := by
    rw [hasLiveWorker, hkeeps.worker, hnone]
    rfl
  have hafter : e.afterLeave c id .restart = (e.dropListener.startWorker true).answer id (.ok ()) :=
    rfl
  rw [hafter, startWorker, if_neg (by simp [hlive])]
  generalize e.dropListener = d at hkeeps hlength hpaired
  rw [← hkeeps.token, ← hlength]
  exact {
    newest := by
      show (d.crew.workers ++ [_]).length = _
      rw [List.length_append, List.length_singleton]
    returned := stage?_modify_self hcall (by rw [← hkeeps.calls]; rfl)
    worker := (Crew.getElem?_spawn ..).trans (if_pos rfl)
    listener := by
      show (d.listeners ++ [(⟨d.crew.workers.length, .receiving⟩ : Listener)])[_]? = _
      rw [getElem?_snoc, if_pos hpaired.symm]
    parent := rfl
    stopped := rfl
    heard := rfl
    cycle := .hired (.refl _)
    pends := .unfinished fun heq => by cases heq }

/-- A call that waits for its turn in an engine that has started. -/
structure Waits (id : CallId) (token : TokenId) (w : WorkerId) (e : Engine) : Prop where
  length : e.crew.workers.length = w
  started : e.lifecycle = .started
  call : e.calls[id]? = some ⟨.refreshNow token, .locking⟩

/-- A call that waits for a worker to leave before it starts another one. -/
structure Joins (id : CallId) (token : TokenId) (w old : WorkerId) (e : Engine) : Prop where
  length : e.crew.workers.length = w
  call : e.calls[id]? = some ⟨.refreshNow token, .joining old .restart⟩
  noted : e.token = token

/-- A call waits for its turn whatever others do. -/
theorem Waits.aside (h : Waits id token w e) (ha : Aside id e e') : Waits id token w e' :=
  ⟨ha.length.trans h.length, ha.lifecycle.trans h.started, ha.call _ h.call⟩

/-- A call waits for the old worker whatever others do. -/
theorem Joins.aside {old : WorkerId} (h : Joins id token w old e) (ha : Aside id e e') :
    Joins id token w old e' :=
  ⟨ha.length.trans h.length, ha.call _ h.call, ha.token.trans h.noted⟩

/-- A call that gets its turn starts a worker, unless it has to wait for another one to leave. -/
theorem Waits.run (h : Waits id token w e) (hp : Paired e) (hoff : e.crew.world.isOffline = false)
    (hs : e.step? c (.resume (.call id)) = some (e', events)) :
    (∃ old, Joins id token w old e') ∨
      ∃ v l, Underway c id token w e'.crew.world [] [] e' v l := by
  have hduty : (Call.refreshNow token).duty e = .dismiss .restart := by
    simp [Call.duty, refusal?, h.started, hoff]
  have hnoted : ((Call.refreshNow token).note c e).token = token := by
    simp [Call.note, refusal?, h.started, hoff]
  have hrun := (runCall_of_resumeCall? h.call (show e.resumeCall? c id = _ from hs)).2
  rw [runCall_eq, hduty, perform] at hrun
  have hcrew := crew_note c e (.refreshNow token)
  have hcalls := calls_note c e (.refreshNow token)
  have hpaired := hp.note c (.refreshNow token)
  -- Of the note only the token counts: call what it leaves `n`.
  generalize (Call.refreshNow token).note c e = n at hrun hnoted hcrew hcalls hpaired
  have hforget : n.forget.token = token ∧ n.forget.crew.workers.length = w := by
    refine ⟨?_, ?_⟩
    · unfold forget
      split <;> exact hnoted
    · rw [length_workers_forget, hcrew, h.length]
  obtain rfl : e' = (n.stopWorker c id .restart).1 := congrArg (·.1) hrun
  rcases stopWorker_eq c n id .restart with heq | ⟨old, -, -, heq⟩
  · have hcall : n.forget.calls[id]? = some ⟨.refreshNow token, .locking⟩ := by
      rw [calls_forget, hcalls, h.call]
    have hunderway := underway_of_afterLeave (c := c) hpaired.forget (worker_forget n) hcall
    rw [hforget.1, hforget.2] at hunderway
    rw [heq]
    exact .inr ⟨_, _, hunderway⟩
  · rw [heq]
    refine .inl ⟨old, hforget.2, ?_, hforget.1⟩
    show (n.forget.calls.modify id _)[id]? = _
    rw [calls_forget, hcalls, List.getElem?_modify_eq, h.call]
    rfl

/-- A call that waits for the old worker will restart. -/
theorem Joins.stage? {old : WorkerId} (h : Joins id token w old e) :
    e.stage? id = some (.joining old .restart) := by
  rw [Engine.stage?, h.call]
  rfl

/-- A call that goes on after a worker has left starts another one. -/
theorem Joins.run {old : WorkerId} (h : Joins id token w old e) (hc : Custody e) (hp : Paired e)
    (hs : e.step? c (.resume (.call id)) = some (e', events)) :
    ∃ v l, Underway c id token w e'.crew.world [] [] e' v l := by
  have hnone := (hc.joins id old .restart h.stage?).2
  have hleft := left_of_resumeCall? h.call (show e.resumeCall? c id = _ from hs)
  have hunderway := underway_of_afterLeave (c := c) hp hnone h.call
  rw [hleft, h.length, h.noted] at hunderway
  exact ⟨_, _, hunderway⟩

/-- A worker that a call finds live stays so. -/
theorem callInvariant_isLive (i : WorkerId) : CallInvariant (·.crew.isLive i = true) :=
  callInvariant_crew (fun k w h => (k.isLive_stop w i).trans h)
    (fun k parent force h => (k.isLive_spawn parent force i).2 (.inl h))
    fun _ _ hbare h => (isLive_of_bare hbare i).trans h

/-- In a run, a worker has been hired in a step before which all others have left; no other has
    been, and nothing has been published since. -/
structure Hired (w : WorkerId) (us : List Transition) (t : Transition) (vs : List Transition) :
    Prop where
  hires : t.Hires w
  gone : ∀ i, t.before.crew.isLive i = false
  unhired : ∀ u ∈ us ++ vs, ∀ i, ¬ u.Hires i
  quiet : ∀ u ∈ vs, .published ∉ u.events

/-- How far a call to refresh has come in a run, before its result is published; the worker that it
    starts is the one with the given id. -/
inductive Course (c : Config) (id : CallId) (token : TokenId) (w : WorkerId) (ts : List Transition)
    (e : Engine) : Prop
  | waits (unhired : ∀ t ∈ ts, ∀ i, ¬ t.Hires i) (waits : Waits id token w e) :
      Course c id token w ts e
  | joins {old : WorkerId} (unhired : ∀ t ∈ ts, ∀ i, ¬ t.Hires i) (joins : Joins id token w old e) :
      Course c id token w ts e
  | underway {us vs : List Transition} {t : Transition} {v : Worker} {l : ListenerStage}
      (cut : ts = us ++ t :: vs) (hired : Hired w us t vs)
      (underway : Underway c id token w t.after.crew.world (acts vs) (deeds vs) e v l) :
      Course c id token w ts e

/-- The call starts the worker. -/
theorem Course.hire (hlength : e.crew.workers.length = w) (hunhired : ∀ t ∈ ts, ∀ i, ¬ t.Hires i)
    (hs : e.step? c (.resume (.call id)) = some (e', events)) (hsucc : Succession e')
    (h : Underway c id token w e'.crew.world [] [] e' v l) :
    Course c id token w (ts ++ [⟨e, .resume (.call id), e', events⟩]) e' := by
  have hgone : ∀ i, e.crew.isLive i = false := by
    refine fun i => Bool.eq_false_iff.2 fun hlive => ?_
    obtain ⟨u, hu, -⟩ := Crew.isLive_iff.1 hlive
    have hlive' := (callInvariant_isLive i).resumeCall? hlive
      (fun call => by rw [crew_note]; exact hlive) (show e.resumeCall? c id = _ from hs)
    -- A worker that is still there would be the one that has just come.
    have hnewest := hsucc.newest i hlive'
    have hlt := (List.getElem?_eq_some_iff.1 hu).1
    obtain rfl : i = w := Nat.succ.inj (hnewest.trans h.newest)
    rw [hlength] at hlt
    exact Nat.lt_irrefl _ hlt
  refine .underway rfl ⟨⟨hlength, h.newest⟩, hgone, ?_, fun u hu => absurd hu List.not_mem_nil⟩ h
  rw [List.append_nil]
  exact hunhired

/-- **A call to refresh comes no other way.** -/
theorem Course.step (h : Course c id token w ts e) (hr : Reachable c e) (hsucc : Succession e)
    (ok : Undisturbed c id token e a) (hs : e.step? c a = some (e', events))
    (hsilent : Transition.publishes w ⟨e, a, e', events⟩ = false) :
    Course c id token w (ts ++ [⟨e, a, e', events⟩]) e' := by
  have hp := paired_of_reachable hr
  have hsucc' := hsucc.step (custody_of_reachable hr) ok.2.1 hs
  cases h with
  | waits hunhired hwaits =>
    -- The call itself hires, or waits for the old worker first; others leave it where it waits.
    by_cases ha : a = .resume (.call id)
    · subst ha
      rcases hwaits.run hp ok.1.1 hs with ⟨old, hjoins⟩ | ⟨v, l, hunderway⟩
      · exact .joins (unhired_snoc hunhired (hjoins.length.trans hwaits.length.symm)) hjoins
      · exact .hire hwaits.length hunhired hs hsucc' hunderway
    · have haside := aside_of_step ok.2.2 ha hs
      exact .waits (unhired_snoc hunhired haside.length) (hwaits.aside haside)
  | joins hunhired hjoins =>
    by_cases ha : a = .resume (.call id)
    · subst ha
      obtain ⟨v, l, hunderway⟩ := hjoins.run (custody_of_reachable hr) hp hs
      exact .hire hjoins.length hunhired hs hsucc' hunderway
    · have haside := aside_of_step ok.2.2 ha hs
      exact .joins (unhired_snoc hunhired haside.length) (hjoins.aside haside)
  | @underway us vs t v l hcut hhired hunderway =>
    obtain ⟨hpublished, v', l', hunderway'⟩ := hunderway.step hp hsucc ok hs hsilent
    -- Once the worker is hired nobody else is, and nothing is published.
    have hlater : ∀ u ∈ (us ++ vs) ++ [⟨e, a, e', events⟩], ∀ i, ¬ u.Hires i :=
      unhired_snoc hhired.unhired (hunderway'.newest.trans hunderway.newest.symm)
    have hquiet : ∀ u ∈ vs ++ [⟨e, a, e', events⟩], .published ∉ u.events :=
      List.forall_mem_append.2 ⟨hhired.quiet, List.forall_mem_singleton.2 hpublished⟩
    have hcut' : ts ++ [⟨e, a, e', events⟩] = us ++ t :: (vs ++ [⟨e, a, e', events⟩]) := by
      rw [hcut, List.append_assoc, List.cons_append]
    rw [List.append_assoc] at hlater
    rw [← acts_snoc vs, ← deeds_snoc vs ⟨e, a, e', events⟩] at hunderway'
    exact .underway hcut' ⟨hhired.hires, hhired.gone, hlater, hquiet⟩ hunderway'

/-- On a path on which nobody disturbs the call, until its result is published. -/
theorem course_of_path (hr : Reachable c start) (hsucc : Succession start)
    (h : Course c id token w [] start) (hp : Path c (Undisturbed c id token) start ts e)
    (hsilent : ∀ t ∈ ts, t.publishes w = false) :
    Course c id token w ts e ∧ Reachable c e ∧ Succession e := by
  induction hp with
  | nil => exact ⟨h, hr, hsucc⟩
  | snoc _ ok hs ih =>
    obtain ⟨hbefore, hlast⟩ := List.forall_mem_append.1 hsilent
    obtain ⟨hcourse, hreach, hsucc'⟩ := ih hbefore
    exact ⟨hcourse.step hreach hsucc' ok hs (hlast _ (List.mem_singleton_self _)),
      hreach.step hs, hsucc'.step (custody_of_reachable hreach) ok.2.1 hs⟩

end Engine

end TokenCatalog
