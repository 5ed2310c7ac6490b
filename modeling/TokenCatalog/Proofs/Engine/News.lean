import TokenCatalog.Proofs.Engine.Delivery
import TokenCatalog.Proofs.Engine.Step

namespace TokenCatalog

/-!
# News — what steps publish, and what they put into the channel

Snapshots are published, and notifications sent, by calls and by listeners only.  A step that does
either does so on behalf of one of them, and publishes first.

* `Channel.Posts` — what comes of one who waits for room with something to send;
* `NewsCase`, `newsCase_of_step?` — everything a step can do to the snapshot and to the channel;
* `snapshot_of_step` — a snapshot changes by being published;
* `unread_of_step` — what is unread has been sent, and not received.
-/

namespace Channel

variable {ch ch' : Channel} {p : Process} {events : List Event}

/-- What comes of one who waits for room with something to send. -/
inductive Posts (ch : Channel) (p : Process) : Channel → List Event → Prop
  | waits (full : ch.isReady p = false) : Posts ch p ch []
  | unheard (closed : ch.isOpen = false) : Posts ch p (ch.quit p) []
  | sends (isOpen : ch.isOpen = true) (ready : ch.isReady p = true) :
      Posts ch p (ch.put p) [.notified]
  /-- It waits for room for one more. -/
  | parks (isOpen : ch.isOpen = true) (ready : ch.isReady p = true)
      (full : ((ch.put p).join p).isReady p = false) : Posts ch p ((ch.put p).join p) [.notified]
  /-- There is room for one more, and it does not wait. -/
  | settles (isOpen : ch.isOpen = true) (ready : ch.isReady p = true)
      (room : ((ch.put p).join p).isReady p = true) :
      Posts ch p (((ch.put p).join p).quit p) [.notified]

/-- What comes of a call that waits for room. -/
theorem Sends.posts {s : CallStage} (h : ch.Sends p s ch' events) : ch.Posts p ch' events := by
  cases h with
  | waits hfull => exact .waits hfull
  | unheard hclosed => exact .unheard hclosed
  | notifies hopen hready => exact .sends hopen hready

/-- What comes of a listener that waits for room. -/
theorem Relays.posts {s : ListenerStage} (h : ch.Relays p s ch' events) :
    ch.Posts p ch' events := by
  cases h with
  | waits hfull => exact .waits hfull
  | unheard hclosed => exact .unheard hclosed
  | parks hopen hready hfull => exact .parks hopen hready hfull
  | settles hopen hready hroom => exact .settles hopen hready hroom

/-- One channel is another one that some have left. -/
structure Leaves (ch ch' : Channel) : Prop where
  capacity : ch'.capacity = ch.capacity
  unread : ch'.unread = ch.unread
  isOpen : ch'.isOpen = ch.isOpen
  waiting : ch'.waiting.Sublist ch.waiting

theorem Leaves.refl (ch : Channel) : ch.Leaves ch := ⟨rfl, rfl, rfl, .refl _⟩

/-- A channel that some have left twice is one that some have left. -/
theorem Leaves.trans {ch'' : Channel} (h : ch.Leaves ch') (h' : ch'.Leaves ch'') :
    ch.Leaves ch'' where
  capacity := h'.capacity.trans h.capacity
  unread := h'.unread.trans h.unread
  isOpen := h'.isOpen.trans h.isOpen
  waiting := h'.waiting.trans h.waiting

/-- Whoever quits leaves the channel. -/
theorem leaves_quit (ch : Channel) (p : Process) : ch.Leaves (ch.quit p) :=
  ⟨rfl, rfl, rfl, List.erase_sublist⟩

/-- Whoever posts sends one notification at most. -/
theorem Posts.events_cases (h : ch.Posts p ch' events) : events = [] ∨ events = [.notified] := by
  cases h <;> simp

/-- While nobody hangs up, what is unread has been sent, and has not been received. -/
structure Carries (ch ch' : Channel) (events : List Event) : Prop where
  capacity : ch'.capacity = ch.capacity
  isOpen : ch'.isOpen = ch.isOpen
  unread : ch'.unread + events.count .received = ch.unread + events.count .notified

/-- Nothing done, nothing carried. -/
theorem Carries.refl (ch : Channel) : ch.Carries ch [] := ⟨rfl, rfl, rfl⟩

/-- What is unread after two steps was sent in either, and received in neither. -/
theorem Carries.trans {ch'' : Channel} {events' : List Event} (h : ch.Carries ch' events)
    (h' : ch'.Carries ch'' events') : ch.Carries ch'' (events ++ events') := by
  refine ⟨h'.capacity.trans h.capacity, h'.isOpen.trans h.isOpen, ?_⟩
  have hfirst := h.unread
  have hsecond := h'.unread
  rw [List.count_append, List.count_append]
  omega

/-- Leaving carries nothing. -/
theorem Leaves.carries (h : ch.Leaves ch') (hreceived : events.count .received = 0)
    (hnotified : events.count .notified = 0) : ch.Carries ch' events :=
  ⟨h.capacity, h.isOpen, by rw [hreceived, hnotified, h.unread]⟩

/-- Whoever posts carries what it sends. -/
theorem Posts.carries (h : ch.Posts p ch' events) : ch.Carries ch' events := by
  cases h <;> exact ⟨rfl, rfl, rfl⟩

/-- Queueing for room first makes no difference. -/
theorem Posts.carries_of_join (h : (ch.join p).Posts p ch' events) : ch.Carries ch' events := by
  obtain ⟨hcapacity, hopen, hunread⟩ := h.carries
  exact ⟨hcapacity, hopen, hunread⟩

/-- Publishing concerns nobody who reads the channel. -/
theorem Carries.published (h : ch.Carries ch' events) : ch.Carries ch' (.published :: events) := by
  have hreceived : Event.published ≠ .received := nofun
  have hnotified : Event.published ≠ .notified := nofun
  refine ⟨h.capacity, h.isOpen, ?_⟩
  rw [List.count_cons_of_ne hreceived, List.count_cons_of_ne hnotified]
  exact h.unread

/-- Leaving first does not change what is carried. -/
theorem Carries.of_leaves {ch'' : Channel} (h : ch.Leaves ch'') (h' : ch''.Carries ch' events) :
    ch.Carries ch' events :=
  ⟨h'.capacity.trans h.capacity, h'.isOpen.trans h.isOpen, by rw [h'.unread, h.unread]⟩

/-- Taking a notification carries it out. -/
theorem carries_take? (h : ch.take? = some ch') : ch.Carries ch' [.received] := by
  unfold take? at h
  split at h
  · cases h
    refine ⟨rfl, rfl, ?_⟩
    show ch.unread - 1 + 1 = ch.unread + 0
    omega
  · cases h

end Channel

/-! ### Workers -/

namespace Worker

variable {w : Worker} {s : Surroundings} {t : Turn} {a : Action}

/-- What others see of the end of a refresh is no news. -/
theorem not_isNews_finish (w : Worker) (s : Surroundings) (heed : Bool) :
    ∀ ev ∈ (w.finish s heed).events, ¬ ev.IsNews := by
  simp [finish, Event.IsNews]

/-- What others see of a worker that asks for the lists is no news. -/
theorem not_isNews_fetchLists (w : Worker) (s : Surroundings) (m : Manifest) (heed : Bool) :
    ∀ ev ∈ (w.fetchLists s m heed).events, ¬ ev.IsNews := by
  unfold fetchLists
  split
  · exact not_isNews_finish w s heed
  · simp

/-- What others see of a check is no news. -/
theorem not_isNews_check (w : Worker) (s : Surroundings) (force : Bool) :
    ∀ ev ∈ (w.check s force).events, ¬ ev.IsNews := by
  have hcase := checkCase_check w s force
  generalize w.check s force = t at hcase ⊢
  cases hcase with
  | cancelled | spared => simp
  | fetches _ _ _ _ heq =>
    subst heq
    exact List.forall_mem_cons.2 ⟨not_false, not_isNews_fetchLists w s _ true⟩
  | asks => simp [Event.IsNews]

/-- Workers neither publish nor notify. -/
theorem not_isNews_of_act? (h : w.act? s a = some t) : ∀ ev ∈ t.events, ¬ ev.IsNews := by
  cases step_of_act? h with
  | expire | quit | acknowledged | dropped => simp
  | start | tick => exact not_isNews_check _ s _
  | @manifestAnswered fallback url a heed =>
    intro ev hev
    -- What comes before the fetches are copies written.
    rcases List.mem_append.1 hev with hev | hev
    · obtain ⟨_, _, rfl⟩ := List.mem_map.1 hev
      exact not_false
    · exact not_isNews_fetchLists w _ _ heed ev hev
  | poll => simp [taskRequest, Event.IsNews]
  | taskAnswered =>
    intro ev hev
    obtain ⟨q, -, rfl⟩ := mem_map_taskRequest hev
    exact not_false
  | @collect f heed =>
    intro ev hev
    rcases List.mem_append.1 hev with hev | hev
    · obtain ⟨_, _, rfl⟩ := List.mem_map.1 hev
      exact not_false
    · exact not_isNews_finish w _ heed ev hev

end Worker

/-- What others see of a worker is no news. -/
theorem Crew.not_isNews_of_act? {c : Config} {k k' : Crew} {id : WorkerId} {a : Worker.Action}
    {events : List Event} (h : k.act? c id a = some (k', events)) : ∀ ev ∈ events, ¬ ev.IsNews := by
  obtain ⟨w, t, -, ht, -, rfl⟩ := exists_turn_of_act? h
  exact Worker.not_isNews_of_act? ht

namespace Engine

variable {c : Config} {e e' e'' : Engine} {a : Action} {events : List Event} {id : CallId}
  {l : ListenerId}

/-! ### Nothing new -/

/-- Nothing is published or sent; no call waits for room any longer or any less. -/
structure Tidies (e e' : Engine) : Prop where
  snapshot : e'.snapshot = e.snapshot
  left : e.channel.Leaves e'.channel
  calls : ∀ id, .call id ∈ e.channel.waiting → .call id ∈ e'.channel.waiting

namespace Tidies

/-- A state with the same snapshot and the same channel is tidy. -/
theorem of_eq (hsnapshot : e'.snapshot = e.snapshot) (hchannel : e'.channel = e.channel) :
    Tidies e e' := by
  refine ⟨hsnapshot, ?_, fun id hid => ?_⟩
  · rw [hchannel]
    exact .refl _
  · rw [hchannel]
    exact hid

/-- Tidying twice is tidying. -/
theorem trans (h : Tidies e e') (h' : Tidies e' e'') : Tidies e e'' where
  snapshot := h'.snapshot.trans h.snapshot
  left := h.left.trans h'.left
  calls id hid := h'.calls id (h.calls id hid)

/-- Forgetting the worker tidies. -/
theorem forget (e : Engine) : Tidies e e.forget := by
  unfold Engine.forget
  split <;> exact of_eq rfl rfl

/-- Starting a worker tidies. -/
theorem startWorker (e : Engine) (force : Bool) : Tidies e (e.startWorker force) := by
  unfold Engine.startWorker
  split <;> exact of_eq rfl rfl

/-- What was planned for after the worker has left tidies. -/
theorem heed (e : Engine) (next : AfterLeave) : Tidies e (e.heed next) := by
  cases next with
  | restart => exact startWorker e true
  | done | stop | goPrivate => exact of_eq rfl rfl

/-- A listener that ends waits for room no longer. -/
theorem abort (e : Engine) (l : ListenerId) : Tidies e (e.abort l) := by
  unfold Engine.abort
  split
  · exact of_eq rfl rfl
  · split
    · exact of_eq rfl rfl
    · refine ⟨rfl, e.channel.leaves_quit _, fun id hid => ?_⟩
      have hne : Process.call id ≠ .listener l := nofun
      exact (List.mem_erase_of_ne hne).2 hid

/-- Dropping the listener tidies: it only leaves the channel. -/
theorem dropListener (e : Engine) : Tidies e e.dropListener := by
  have helim : Tidies e (e.listener.elim e e.abort) := by
    cases e.listener with
    | none => exact of_eq rfl rfl
    | some l => exact abort e l
  exact helim.trans (of_eq rfl rfl)

end Tidies

/-- Forgetting the worker does not touch the world. -/
@[simp] theorem world_forget (e : Engine) : e.forget.crew.world = e.crew.world := by
  unfold forget
  split <;> rfl

/-- Dropping the listener does not touch the world. -/
@[simp] theorem world_dropListener (e : Engine) : e.dropListener.crew.world = e.crew.world :=
  Crew.world_of_bare (keeps_dropListener e).crew

/-- A call publishes what the stores hold, gives up the lock, and waits for room or sends. -/
structure Republished (c : Config) (e : Engine) (id : CallId) (t : Turn) : Prop where
  snapshot : t.1.snapshot = e.localSnapshot c
  posts : ∃ ch events, e.channel.Leaves ch ∧
    (∀ j, .call j ∈ e.channel.waiting → .call j ∈ ch.waiting) ∧
    (ch.join (.call id)).Posts (.call id) t.1.channel events ∧ t.2 = .published :: events

/-- A call that publishes builds a snapshot from the world as it is. -/
theorem republished_publishPrivately (c : Config) (e : Engine) (id : CallId) :
    Republished c e id (e.publishPrivately c id) := by
  obtain ⟨s, ch, events, hsends, heq⟩ := publishPrivately_sends c e id
  rw [heq]
  exact ⟨rfl, e.channel, events, .refl _, fun _ hj => hj, hsends.posts, rfl⟩

/-- Tidying first does not change what is published. -/
theorem Republished.of_tidies {t : Turn} (ht : Tidies e e') (hw : e'.crew.world = e.crew.world)
    (h : Republished c e' id t) : Republished c e id t := by
  obtain ⟨ch, events, hleft, hcalls, hposts, hevents⟩ := h.posts
  refine ⟨?_, ch, events, ht.left.trans hleft, fun j hj => hcalls j (ht.calls j hj), hposts,
    hevents⟩
  rw [h.snapshot, localSnapshot, localSnapshot, hw]

/-- A call does nothing new after a worker has left, or it publishes since privacy came on. -/
theorem afterLeave_news (c : Config) (e : Engine) (id : CallId) (next : AfterLeave) :
    Tidies e (e.afterLeave c id next).1 ∧ (e.afterLeave c id next).2 = [] ∨
      next = .goPrivate false ∧ Republished c e id (e.afterLeave c id next) := by
  have hdrop := Tidies.dropListener e
  have hanswer : ∀ r, Tidies e ((e.dropListener.heed next).answer id r).1 := fun r =>
    (hdrop.trans (.heed _ next)).trans (.of_eq rfl rfl)
  cases next with
  | done | stop | restart => exact .inl ⟨hanswer _, rfl⟩
  | goPrivate wasPrivate =>
    cases wasPrivate with
    | true => exact .inl ⟨hanswer _, rfl⟩
    | false =>
      refine .inr ⟨rfl, .of_tidies hdrop (world_dropListener e) ?_⟩
      exact republished_publishPrivately c e.dropListener id

/-- A call that does its duty publishes nothing, or builds a snapshot from the world as it is. -/
theorem perform_news (c : Config) (e : Engine) (id : CallId) (d : Duty) :
    Tidies e (e.perform c id d).1 ∧ (e.perform c id d).2 = [] ∨
      (d = .publish ∨ d = .dismiss (.goPrivate false)) ∧ Republished c e id (e.perform c id d) := by
  cases d with
  | refuse | keep => exact .inl ⟨.of_eq rfl rfl, rfl⟩
  | publish => exact .inr ⟨.inl rfl, republished_publishPrivately c e id⟩
  | hire => exact .inl ⟨(Tidies.startWorker e false).trans (.of_eq rfl rfl), rfl⟩
  | dismiss next =>
    have hforget := Tidies.forget e
    rw [perform]
    rcases stopWorker_eq c e id next with heq | ⟨worker, -, -, heq⟩
    · rw [heq]
      rcases afterLeave_news c e.forget id next with ⟨htidies, hnone⟩ | ⟨rfl, hrep⟩
      · exact .inl ⟨hforget.trans htidies, hnone⟩
      · exact .inr ⟨.inr rfl, .of_tidies hforget (world_forget e) hrep⟩
    · rw [heq]
      exact .inl ⟨hforget.trans (.of_eq rfl rfl), rfl⟩

/-! ### Every step -/

/-- Everything a step can do to the snapshot and to the channel. -/
inductive NewsCase (c : Config) (e : Engine) : Action → Engine → List Event → Prop
  /-- Nothing is published and nothing is sent. -/
  | still {a : Action} {e' : Engine} {events : List Event} (tidies : Tidies e e')
      (silent : ∀ ev ∈ events, ¬ ev.IsNews) : NewsCase c e a e' events
  /-- A call that waits for room is given up. -/
  | forsakes {id : CallId} {e' : Engine} (stage : e.stage? id = some .sending)
      (snapshot : e'.snapshot = e.snapshot) (channel : e'.channel = e.channel.quit (.call id)) :
      NewsCase c e (.abandon id) e' []
  /-- The first snapshot is published. -/
  | opens {id : CallId} {e' : Engine} (unstarted : e.lifecycle = .unstarted)
      (snapshot : e'.snapshot = e.localSnapshot c) (left : e.channel.Leaves e'.channel)
      (calls : ∀ id, .call id ∈ e.channel.waiting → .call id ∈ e'.channel.waiting) :
      NewsCase c e (.resume (.call id)) e' [.published]
  /-- A call publishes, and sends a notification or waits to. -/
  | republishes {id : CallId} {e' : Engine} {events : List Event}
      (republished : Republished c e id (e', events)) :
      NewsCase c e (.resume (.call id)) e' events
  /-- A listener publishes, and sends a notification or waits to. -/
  | announces {l : ListenerId} {e' : Engine} {events : List Event}
      (snapshot : e'.snapshot = e.localSnapshot c)
      (posts : (e.channel.join (.listener l)).Posts (.listener l) e'.channel events) :
      NewsCase c e (.resume (.listener l)) e' (.published :: events)
  /-- Who has published sends a notification. -/
  | posts {p : Process} {e' : Engine} {events : List Event} (snapshot : e'.snapshot = e.snapshot)
      (posts : e.channel.Posts p e'.channel events) : NewsCase c e (.resume p) e' events
  | receives {e' : Engine} (snapshot : e'.snapshot = e.snapshot)
      (taken : e.channel.take? = some e'.channel) : NewsCase c e .receive e' [.received]
  | hangsUp {e' : Engine} (snapshot : e'.snapshot = e.snapshot) : NewsCase c e .hangUp e' []

/-- Only the first call to start publishes before it does its duty. -/
theorem note_news (c : Config) (e : Engine) (call : Call) :
    Tidies e (call.note c e) ∧ call.opening e = [] ∨
      e.lifecycle = .unstarted ∧ (call.note c e).snapshot = e.localSnapshot c ∧
        (call.note c e).channel = e.channel ∧ call.opening e = [.published] ∧
        (call.duty e = .dismiss .done ∨ call.duty e = .hire) := by
  cases call with
  -- Only the first call to start publishes before it does its duty.
  | start token =>
    cases hl : e.lifecycle with
    | unstarted =>
      refine .inr ⟨rfl, by simp [Call.note, hl, publish, localSnapshot],
        by simp [Call.note, hl, publish], by simp [Call.opening, hl], ?_⟩
      cases hoff : e.crew.world.isOffline <;> simp [Call.duty, hl, hoff]
    | started | stopped =>
      exact .inl ⟨by simp only [Call.note, hl]; exact .of_eq rfl rfl, by simp [Call.opening, hl]⟩
  | stop => exact .inl ⟨.of_eq rfl rfl, rfl⟩
  | refreshNow token | privacyModeUpdated token =>
    refine .inl ⟨?_, rfl⟩
    simp only [Call.note]
    split <;> exact .of_eq rfl rfl

/-- What a call's step does to the snapshot and to the channel. -/
theorem newsCase_of_resumeCall? (h : e.resumeCall? c id = some (e', events)) :
    NewsCase c e (.resume (.call id)) e' events := by
  have hsplit : ∀ t, CallStep c e id t → NewsCase c e (.resume (.call id)) t.1 t.2 := by
    intro t ht
    cases ht with
    | @run call =>
      rw [runCall_eq]
      have hperform := perform_news c (call.note c e) id (call.duty e)
      -- Publishing is left to the duty, except in the first call to start.
      rcases note_news c e call with ⟨hnote, hnone⟩ | ⟨hl, hsnapshot, hchannel, hfirst, hduty⟩
      · rw [hnone, List.nil_append]
        rcases hperform with ⟨htidies, hsilent⟩ | ⟨-, hrep⟩
        · rw [hsilent]
          exact .still (hnote.trans htidies) fun ev hev => absurd hev List.not_mem_nil
        · exact .republishes (hrep.of_tidies hnote (by rw [crew_note]))
      · rcases hperform with ⟨htidies, hsilent⟩ | ⟨hpublishes, -⟩
        · rw [hfirst, hsilent]
          exact .opens hl (htidies.snapshot.trans hsnapshot) (hchannel ▸ htidies.left)
            (hchannel ▸ htidies.calls)
        · -- The first call to start has no such duty.
          rcases hduty with hduty | hduty <;> rw [hduty] at hpublishes <;>
            rcases hpublishes with hd | hd <;> cases hd
    | @left call worker next =>
      rcases afterLeave_news c e id next with ⟨htidies, hnone⟩ | ⟨-, hrep⟩
      · rw [hnone]
        exact .still htidies fun ev hev => absurd hev List.not_mem_nil
      · exact .republishes hrep
    | sent _ hready =>
      obtain ⟨ch, hsends, heq⟩ := enqueue_sends e id hready
      rw [heq]
      exact .posts rfl hsends.posts
  exact hsplit (e', events) (callStep_of_resumeCall? h)

/-- What a listener's step does to the snapshot and to the channel. -/
theorem newsCase_of_resumeListener? (h : e.resumeListener? c l = some (e', events)) :
    NewsCase c e (.resume (.listener l)) e' events := by
  have hsplit : ∀ t, ListenerStep c e l t → NewsCase c e (.resume (.listener l)) t.1 t.2 := by
    intro t ht
    cases ht with
    -- A listener publishes once it has the lock, and only sends after that.
    | ends | queues => exact .still (.of_eq rfl rfl) fun ev hev => absurd hev List.not_mem_nil
    | @takes w =>
      obtain ⟨s, ch, events, hrelays, heq⟩ := announce_eq c (e.fetched l w) l w
      rw [heq]
      refine .announces ?_ hrelays.posts
      show (e.fetched l w).localSnapshot c = e.localSnapshot c
      rfl
    | @announces w =>
      obtain ⟨s, ch, events, hrelays, heq⟩ := announce_eq c e l w
      rw [heq]
      exact .announces rfl hrelays.posts
    | @delivers w _ hready =>
      obtain ⟨s, ch, events, hrelays, -, heq⟩ := deliver_eq e l w hready
      rw [heq]
      exact .posts rfl hrelays.posts
    | @settles w =>
      refine .still ⟨rfl, e.channel.leaves_quit _, fun id hid => ?_⟩
        fun ev hev => absurd hev List.not_mem_nil
      have hne : Process.call id ≠ .listener l := nofun
      exact (List.mem_erase_of_ne hne).2 hid
  exact hsplit (e', events) (listenerStep_of_resumeListener? h)

/-- What an abandoned call does to the snapshot and to the channel. -/
theorem newsCase_of_abandonCall? (h : e.abandonCall? id = some e') :
    NewsCase c e (.abandon id) e' [] := by
  have hnone : ∀ ev ∈ ([] : List Event), ¬ ev.IsNews := fun ev hev => absurd hev List.not_mem_nil
  unfold abandonCall? at h
  split at h
  · cases h
  · rename_i p hp
    split at h
    · cases h
      exact .still (.of_eq rfl rfl) hnone
    · cases h
      exact .still (.of_eq rfl rfl) hnone
    · rename_i hstage
      cases h
      exact .forsakes (by rw [stage?, hp, Option.map_some, hstage]) rfl rfl
    · cases h
    · cases h

/-- **News comes from calls and listeners.**  Whoever publishes does so before anything is sent. -/
theorem newsCase_of_step? (h : e.step? c a = some (e', events)) : NewsCase c e a e' events := by
  have hnone : ∀ ev ∈ ([] : List Event), ¬ ev.IsNews := fun ev hev => absurd hev List.not_mem_nil
  -- Neither the application nor workers are heard of in the channel.
  cases a with
  | alter | elapse | cancel | invoke =>
    cases h
    exact .still (.of_eq rfl rfl) hnone
  | abandon i =>
    obtain ⟨e₁, he₁, heq⟩ := Option.map_eq_some_iff.1 h
    cases heq
    exact newsCase_of_abandonCall? he₁
  | resume p =>
    cases p with
    | call i => exact newsCase_of_resumeCall? h
    | listener i => exact newsCase_of_resumeListener? h
  | work i wa =>
    obtain ⟨⟨crew, evs⟩, hact, heq⟩ := Option.map_eq_some_iff.1 h
    cases heq
    exact .still (.of_eq rfl rfl) (Crew.not_isNews_of_act? hact)
  | receive =>
    obtain ⟨ch, hch, heq⟩ := Option.map_eq_some_iff.1 h
    cases heq
    exact .receives rfl hch
  | hangUp =>
    cases h
    exact .hangsUp rfl

/-! ### What follows for the snapshot and for what is unread -/

/-- **A snapshot changes by being published.** -/
theorem snapshot_of_step (h : e.step? c a = some (e', events)) (hnone : .published ∉ events) :
    e'.snapshot = e.snapshot := by
  cases newsCase_of_step? h with
  | still htidies => exact htidies.snapshot
  | forsakes _ hsnapshot => exact hsnapshot
  | opens => exact absurd List.mem_cons_self hnone
  | republishes hrep =>
    obtain ⟨ch, events', -, -, -, rfl⟩ := hrep.posts
    exact absurd List.mem_cons_self hnone
  | announces => exact absurd List.mem_cons_self hnone
  | posts hsnapshot => exact hsnapshot
  | receives hsnapshot => exact hsnapshot
  | hangsUp hsnapshot => exact hsnapshot

/-- Where there is no news, no piece of news is counted. -/
theorem count_eq_zero_of_silent {ev : Event} (h : ∀ ev ∈ events, ¬ ev.IsNews) (hev : ev.IsNews) :
    events.count ev = 0 :=
  List.count_eq_zero.2 fun hmem => h ev hmem hev

/-- **What is unread has been sent, and has not been received.** -/
theorem carries_of_step (h : e.step? c a = some (e', events)) (ha : a ≠ .hangUp) :
    e.channel.Carries e'.channel events := by
  cases newsCase_of_step? h with
  | still htidies hsilent =>
    exact htidies.left.carries (count_eq_zero_of_silent hsilent trivial)
      (count_eq_zero_of_silent hsilent trivial)
  | @forsakes i _ _ _ hchannel =>
    rw [hchannel]
    exact (e.channel.leaves_quit (.call i)).carries rfl rfl
  | opens _ _ hleft => exact hleft.carries rfl rfl
  | republishes hrep =>
    obtain ⟨ch, events', hleft, -, hposts, rfl⟩ := hrep.posts
    exact .of_leaves hleft hposts.carries_of_join.published
  | announces _ hposts => exact hposts.carries_of_join.published
  | posts _ hposts => exact hposts.carries
  | receives _ htaken => exact Channel.carries_take? htaken
  | hangsUp => exact absurd rfl ha

end Engine

end TokenCatalog
