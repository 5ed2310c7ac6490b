import TokenCatalog.Proofs.Engine.News
import TokenCatalog.Proofs.Engine.Pairing
import TokenCatalog.Proofs.Engine.Queues

namespace TokenCatalog.Engine

/-!
# Wake-ups — none is lost

Publishing and notifying are two steps, and whoever is between them may be ended.  A consumer that
looks at the snapshot whenever it is notified sees the last one all the same: as long as it has not,
something is unread, or a notification is on its way that needs nothing from the consumer.

* `Attentive` — the promise that the consumer listens;
* `Owing` — something is unread, or a call waits for room, and `Owing.step`, which says that this
  lasts until the consumer reads;
* `owing_of_published` — so it is once a snapshot has been published;
* `SendsUnaided` — a notification is on its way, and `sendsUnaided_of_waiting`, which says when;
* `no_wakeup_lost` — the whole account of a run.
-/

variable {c : Config} {e e' : Engine} {a : Action} {events : List Event} {id : CallId}
  {l : ListenerId}

/-- The promise that the consumer does not hang up, and that no call gives up a notification for
    which there is room. -/
def Attentive (e : Engine) : Action → Prop
  | .hangUp => False
  | .abandon id =>
    match e.stage? id with
    | some .sending => e.channel.capacity ≤ e.channel.unread
    | _ => True
  | _ => True

instance (e : Engine) (a : Action) : Decidable (Attentive e a) :=
  match a with
  | .hangUp => .isFalse not_false
  | .abandon id =>
    match h : e.stage? id with
    | some .sending =>
      decidable_of_iff (e.channel.capacity ≤ e.channel.unread) (by rw [Attentive, h])
    | some .locking | some (.joining ..) | some (.returned _) | some .abandoned | none =>
      .isTrue (by rw [Attentive, h]; trivial)
  | .alter _ | .elapse _ | .cancel _ | .invoke _ | .resume _ | .work .. | .receive => .isTrue trivial

/-- A call that waits for room is given up only while the channel is full. -/
theorem Attentive.full (h : Attentive e (.abandon id)) (hs : e.stage? id = some .sending) :
    e.channel.capacity ≤ e.channel.unread := by
  rw [Attentive, hs] at h
  exact h

/-! ### Who waits for room -/

/-- A call with a place in the queue for room is sending. -/
theorem sending_of_waiting (hq : Queued e) (h : .call id ∈ e.channel.waiting) :
    e.stage? id = some .sending := by
  have hone : 0 < e.inRoom (.call id) := by
    rw [← hq.room]
    exact List.count_pos_iff.2 h
  rw [Engine.inRoom] at hone
  cases hs : e.stage? id with
  | none =>
    rw [hs] at hone
    cases hone
  | some s =>
    rw [hs] at hone
    cases s with
    | sending => rfl
    | locking | joining | returned | abandoned => cases hone

/-- A listener that waits for room is the one that the engine knows of. -/
theorem listener_of_waiting (hq : Queued e) (hp : Paired e)
    (h : .listener l ∈ e.channel.waiting) :
    e.listener = some l ∧ ∃ li, e.listeners[l]? = some li ∧
      (li.stage = .sending ∨ li.stage = .reserving) := by
  -- A place in the queue is due only to one who waits for room.
  have hone : 0 < e.inRoom (.listener l) := by
    rw [← hq.room]
    exact List.count_pos_iff.2 h
  rw [Engine.inRoom, listenerStage?] at hone
  cases hl : e.listeners[l]? with
  | none =>
    rw [hl] at hone
    cases hone
  | some li =>
    rw [hl] at hone
    have hstage : li.stage = .sending ∨ li.stage = .reserving := by
      obtain ⟨w, s⟩ := li
      cases s with
      | sending => exact .inl rfl
      | reserving => exact .inr rfl
      | receiving | locking | ended => cases hone
    refine ⟨hp.known l li hl fun hended => ?_, li, rfl, hstage⟩
    rcases hstage with hs | hs <;> rw [hs] at hended <;> cases hended

/-- A listener that waits for room, and has none although something has been read, waits behind a
    call. -/
theorem exists_call_of_blocked (hq : Queued e) (hp : Paired e)
    (hroom : e.channel.unread < e.channel.capacity)
    (hwaits : .listener l ∈ e.channel.waiting)
    (hblocked : e.channel.isReady (.listener l) = false) : ∃ id, .call id ∈ e.channel.waiting := by
  cases hw : e.channel.waiting with
  | nil =>
    rw [hw] at hwaits
    cases hwaits
  | cons q rest =>
    cases q with
    | call i => exact ⟨i, List.mem_cons_self⟩
    | listener j =>
      -- Whoever waits longest has room, and only one listener waits.
      have hready := Channel.isReady_head hw hroom
      have hj : .listener j ∈ e.channel.waiting := by
        rw [hw]
        exact List.mem_cons_self
      have hlj : e.listener = some l := (listener_of_waiting hq hp hwaits).1
      rw [(listener_of_waiting hq hp hj).1] at hlj
      cases hlj
      rw [hready] at hblocked
      cases hblocked

/-! ### What the consumer is owed -/

/-- Something is unread, or a call has yet to send. -/
def Owing (e : Engine) : Prop :=
  0 < e.channel.unread ∨ ∃ id, .call id ∈ e.channel.waiting

/-- Who posts either sends or goes on waiting. -/
theorem owing_of_posts {ch : Channel} {p : Process} (hposts : ch.Posts p e'.channel events)
    (hopen : ch.isOpen = true) :
    Owing e' ∨ e'.channel = ch ∧ ch.isReady p = false := by
  have hunread := hposts.carries.unread
  generalize hch : e'.channel = ch' at hposts hunread
  cases hposts with
  | waits hfull => exact .inr ⟨rfl, hfull⟩
  | unheard hclosed =>
    rw [hopen] at hclosed
    cases hclosed
  | sends | parks | settles =>
    refine .inl (.inl ?_)
    rw [hch]
    exact Nat.succ_pos _

/-- **The consumer is owed a notification once a snapshot has been published.** -/
theorem owing_of_published (hq : Queued e') (hp : Paired e') (hopen : e.channel.isOpen = true)
    (hcapacity : 1 ≤ e.channel.capacity) (hl : e.lifecycle ≠ .unstarted)
    (hs : e.step? c a = some (e', events)) (hpublished : .published ∈ events) : Owing e' := by
  -- If nothing is owed then nothing is unread, and so there is room.
  have hroom : ¬ Owing e' → e'.channel.capacity = e.channel.capacity →
      e'.channel.unread < e'.channel.capacity := by
    intro hnone hcap
    have hzero : ¬ 0 < e'.channel.unread := fun h => hnone (.inl h)
    omega
  cases newsCase_of_step? hs with
  | still _ hsilent => exact absurd trivial (hsilent _ hpublished)
  | opens hunstarted => exact absurd hunstarted hl
  | forsakes => cases hpublished
  | @republishes i _ _ hrep =>
    obtain ⟨ch, events', hleft, -, hposts, -⟩ := hrep.posts
    -- The call has sent, or stands in the queue.
    rcases owing_of_posts hposts (hleft.isOpen.trans hopen) with h | ⟨heq, -⟩
    · exact h
    · refine .inr ⟨i, ?_⟩
      rw [show e'.channel = _ from heq]
      exact List.mem_append_right _ (List.mem_singleton_self _)
  | @announces l _ _ _ hposts =>
    rcases owing_of_posts hposts hopen with h | ⟨heq, hfull⟩
    · exact h
    -- A listener that has to wait although there is room stands behind a call.
    · refine Classical.byContradiction fun hnone => ?_
      have hcap : e'.channel.capacity = e.channel.capacity := by
        rw [heq]
        rfl
      refine hnone (.inr (exists_call_of_blocked (l := l) hq hp (hroom hnone hcap) ?_ ?_))
      · rw [heq]
        exact List.mem_append_right _ (List.mem_singleton_self _)
      · rw [heq]
        exact hfull
  | posts _ hposts =>
    rcases hposts.events_cases with h | h <;> rw [h] at hpublished <;> simp at hpublished
  | receives => simp at hpublished
  | hangsUp => cases hpublished

/-- Who posts leaves the consumer owed what it was owed. -/
theorem owing_of_posts_of_owing {ch : Channel} {p : Process}
    (hposts : ch.Posts p e'.channel events) (hopen : ch.isOpen = true)
    (howing : 0 < ch.unread ∨ ∃ id, .call id ∈ ch.waiting) : Owing e' := by
  rcases owing_of_posts hposts hopen with h | ⟨heq, -⟩
  · exact h
  · rw [Owing, heq]
    exact howing

/-- **What the consumer is owed, it is owed until it reads.** -/
theorem Owing.step (h : Owing e) (hopen : e.channel.isOpen = true)
    (hcapacity : 1 ≤ e.channel.capacity) (ok : Attentive e a)
    (hs : e.step? c a = some (e', events)) (hread : .received ∉ events) : Owing e' := by
  have hleft : ∀ {ch : Channel}, e.channel.Leaves ch →
      (∀ id, .call id ∈ e.channel.waiting → .call id ∈ ch.waiting) →
        0 < ch.unread ∨ ∃ id, .call id ∈ ch.waiting := by
    intro ch hleaves hcalls
    rcases h with hunread | ⟨id, hid⟩
    · exact .inl (hleaves.unread ▸ hunread)
    · exact .inr ⟨id, hcalls id hid⟩
  have hjoined : ∀ {ch : Channel} {p : Process}, (0 < ch.unread ∨ ∃ id, .call id ∈ ch.waiting) →
      0 < (ch.join p).unread ∨ ∃ id, .call id ∈ (ch.join p).waiting := by
    rintro ch p (hunread | ⟨id, hid⟩)
    · exact .inl hunread
    · exact .inr ⟨id, List.mem_append_left _ hid⟩
  cases newsCase_of_step? hs with
  | still htidies => exact hleft htidies.left htidies.calls
  | forsakes hstage _ hchannel =>
    -- It may only be given up while something is unread.
    have hfull := ok.full hstage
    refine .inl ?_
    rw [hchannel]
    exact Nat.lt_of_lt_of_le hcapacity hfull
  | opens _ _ hleaves hcalls => exact hleft hleaves hcalls
  | republishes hrep =>
    obtain ⟨ch, events', hleaves, hcalls, hposts, -⟩ := hrep.posts
    exact owing_of_posts_of_owing hposts (hleaves.isOpen.trans hopen)
      (hjoined (hleft hleaves hcalls))
  | announces _ hposts => exact owing_of_posts_of_owing hposts hopen (hjoined h)
  | posts _ hposts => exact owing_of_posts_of_owing hposts hopen h
  | receives => exact absurd (List.mem_singleton_self _) hread
  | hangsUp => exact ok.elim

/-! ### A notification on its way -/

/-- The promise that nothing happens but that those who wait for room go on. -/
def Unaided (e : Engine) (a : Action) : Prop := ∃ p ∈ e.channel.waiting, a = .resume p

/-- Somebody waits to send a notification, and sends it if those who wait for room just go on: the
    consumer need not do anything. -/
def SendsUnaided (c : Config) (e : Engine) : Prop :=
  ∃ p us t e', Path c Unaided e (us ++ [t]) e' ∧ us.length ≤ 1 ∧
    (∀ q, p = .call q → e.stage? q = some .sending) ∧
    (∀ q, p = .listener q → e.listenerStage? q = some .sending) ∧
    t.action = .resume p ∧ t.events = [.notified]

/-- A call that waits longest sends. -/
theorem exists_sent {rest : List Process} (hq : Queued e) (hopen : e.channel.isOpen = true)
    (hroom : e.channel.unread < e.channel.capacity)
    (hwaiting : e.channel.waiting = .call id :: rest) :
    ∃ e', e.step? c (.resume (.call id)) = some (e', [.notified]) := by
  have hmem : .call id ∈ e.channel.waiting := by
    rw [hwaiting]
    exact List.mem_cons_self
  obtain ⟨⟨call, s⟩, hpending, rfl⟩ := Option.map_eq_some_iff.1 (sending_of_waiting hq hmem)
  refine ⟨(e.enqueue (.call id)).1.setCall id (.returned (.ok ())), ?_⟩
  show e.resumeCall? c id = _
  simp only [resumeCall?, hpending, Channel.isReady_head hwaiting hroom, if_true, enqueue, hopen]

section Longest

variable {p : Process} {w : WorkerId} {rest : List Process}

/-- A call that waits longest sends at once. -/
theorem sendsUnaided_of_call (hq : Queued e) (hopen : e.channel.isOpen = true)
    (hroom : e.channel.unread < e.channel.capacity)
    (hwaiting : e.channel.waiting = .call id :: rest) : SendsUnaided c e := by
  have hmem : .call id ∈ e.channel.waiting := hwaiting ▸ List.mem_cons_self
  obtain ⟨e', hsent⟩ := exists_sent (c := c) hq hopen hroom hwaiting
  have hpath : Path c Unaided e ([] ++ [⟨e, .resume (.call id), e', [.notified]⟩]) e' :=
    .snoc .nil ⟨_, hmem, rfl⟩ hsent
  refine ⟨.call id, [], _, e', hpath, Nat.zero_le 1, ?_, nofun, rfl, rfl⟩
  rintro q hq'
  cases hq'
  exact sending_of_waiting hq hmem

/-- So does a listener that has something to tell. -/
theorem sendsUnaided_of_listener (hopen : e.channel.isOpen = true)
    (hroom : e.channel.unread < e.channel.capacity)
    (hwaiting : e.channel.waiting = .listener l :: rest)
    (hl : e.listeners[l]? = some ⟨w, .sending⟩) : SendsUnaided c e := by
  have hmem : .listener l ∈ e.channel.waiting := hwaiting ▸ List.mem_cons_self
  -- It is at the head and there is room, so it delivers.
  have hdeliver : e.step? c (.resume (.listener l)) = some (e.deliver l w) := by
    show e.resumeListener? c l = _
    simp only [resumeListener?, hl, Channel.isReady_head hwaiting hroom, if_true]
  have hevents : (e.deliver l w).2 = [.notified] := by
    simp only [deliver, hopen, if_true, enqueue]
  have hpath : Path c Unaided e
      ([] ++ [⟨e, .resume (.listener l), (e.deliver l w).1, (e.deliver l w).2⟩])
      (e.deliver l w).1 := .snoc .nil ⟨_, hmem, rfl⟩ hdeliver
  refine ⟨.listener l, [], _, _, hpath, Nat.zero_le 1, ?_, ?_, rfl, hevents⟩
  · intro q hq
    cases hq
  · intro q hq
    cases hq
    rw [listenerStage?, hl]
    rfl

/-- After a listener that has told, only calls wait: there is no other listener. -/
theorem not_listener_of_settle {j : ListenerId} (hr : Reachable c e)
    (hl : e.listeners[l]? = some ⟨w, .reserving⟩) (hr' : Reachable c (e.settle l w)) :
    .listener j ∉ (e.settle l w).channel.waiting := by
  intro hmem
  obtain ⟨hknown, lj, hlj, hstage⟩ :=
    listener_of_waiting (queued_of_reachable hr') (paired_of_reachable hr') hmem
  obtain rfl : j = l := by
    have hknown' := (paired_of_reachable hr).known l _ hl nofun
    rw [show e.listener = some j from hknown] at hknown'
    exact Option.some.inj hknown'
  have hsettled : (e.listeners.modify j ({ · with stage := .receiving }))[j]? = some lj := hlj
  rw [List.getElem?_modify_eq, hl] at hsettled
  cases hsettled
  rcases hstage with hs | hs <;> cases hs

/-- A listener that has told makes way, and then a call waits longest. -/
theorem sendsUnaided_of_reserving (hr : Reachable c e) (hopen : e.channel.isOpen = true)
    (hroom : e.channel.unread < e.channel.capacity)
    (hwaiting : e.channel.waiting = .listener l :: p :: rest)
    (hl : e.listeners[l]? = some ⟨w, .reserving⟩) : SendsUnaided c e := by
  have hmem : .listener l ∈ e.channel.waiting := hwaiting ▸ List.mem_cons_self
  -- The listener that only wants room for one more goes first.
  have hsettle : e.step? c (.resume (.listener l)) = some (e.settle l w, []) := by
    show e.resumeListener? c l = _
    simp only [resumeListener?, hl, Channel.isReady_head hwaiting hroom, if_true]
  have hr' := hr.step hsettle
  have hrest : (e.settle l w).channel.waiting = p :: rest := by
    show e.channel.waiting.erase _ = _
    rw [hwaiting, List.erase_cons_head]
  have hmem' : p ∈ (e.settle l w).channel.waiting := hrest ▸ List.mem_cons_self
  -- Behind it stands a call: no second listener waits.
  cases p with
  | listener j => exact absurd hmem' (not_listener_of_settle hr hl hr')
  | call i =>
    obtain ⟨e', hsent⟩ := exists_sent (c := c) (queued_of_reachable hr') hopen hroom hrest
    have hfirst : Path c Unaided e
        ([] ++ [⟨e, .resume (.listener l), e.settle l w, []⟩]) (e.settle l w) :=
      .snoc .nil ⟨_, hmem, rfl⟩ hsettle
    have hpath := hfirst.snoc ⟨_, hmem', rfl⟩ hsent
    refine ⟨.call i, _, _, e', hpath, Nat.le_refl 1, ?_, nofun, rfl, rfl⟩
    rintro q hq'
    cases hq'
    refine sending_of_waiting (queued_of_reachable hr) ?_
    rw [hwaiting]
    exact List.mem_cons_of_mem _ List.mem_cons_self

end Longest

/-- **A notification on its way needs nobody else.**  While nothing is unread and a call waits to
    send, whoever waits longest sends, or makes way for that call. -/
theorem sendsUnaided_of_waiting (hr : Reachable c e) (hopen : e.channel.isOpen = true)
    (hroom : e.channel.unread < e.channel.capacity) (hcall : ∃ id, .call id ∈ e.channel.waiting) :
    SendsUnaided c e := by
  have hq := queued_of_reachable hr
  obtain ⟨id, hid⟩ := hcall
  cases hw : e.channel.waiting with
  | nil =>
    rw [hw] at hid
    cases hid
  | cons p rest =>
    have hmem : p ∈ e.channel.waiting := hw ▸ List.mem_cons_self
    cases p with
    | call i => exact sendsUnaided_of_call hq hopen hroom hw
    | listener l =>
      obtain ⟨-, ⟨w, s⟩, hl, rfl | rfl⟩ := listener_of_waiting hq (paired_of_reachable hr) hmem
      · exact sendsUnaided_of_listener hopen hroom hw hl
      · -- The call waits too, behind the listener.
        cases rest with
        | nil =>
          rw [hw] at hid
          cases List.mem_singleton.1 hid
        | cons p rest => exact sendsUnaided_of_reserving hr hopen hroom hw hl

/-- Where nobody waits for room, no notification is on its way. -/
theorem not_sendsUnaided (h : e.channel.waiting = []) : ¬ SendsUnaided c e := by
  rintro ⟨p, us, t, e', hpath, -⟩
  have hfirst : ∀ u vs, ¬ Path c Unaided e (u :: vs) e' := by
    intro u vs hp
    obtain ⟨-, ⟨q, hq, -⟩, -⟩ := hp.uncons
    rw [h] at hq
    cases hq
  cases us with
  | nil => exact hfirst _ _ hpath
  | cons u us => exact hfirst _ _ hpath

/-! ### Whole runs -/

/-- A snapshot is published, and it is not the first one. -/
def Transition.Rebuilds (t : Transition) : Prop :=
  .published ∈ t.events ∧ t.before.lifecycle ≠ .unstarted

/-- The consumer has occasion to look: it takes a notification, or the first snapshot is
    published. -/
def Transition.Prompts (t : Transition) : Prop :=
  .received ∈ t.events ∨ .published ∈ t.events ∧ t.before.lifecycle = .unstarted

section

variable {ts : List Transition} {start : Engine}

/-- The consumer listens, and the channel can hold something. -/
structure Heard (c : Config) (e : Engine) : Prop where
  reachable : Reachable c e
  isOpen : e.channel.isOpen = true
  capacity : 1 ≤ e.channel.capacity

/-- A step in which nobody is careless keeps it that somebody will hear. -/
theorem Heard.step (h : Heard c e) (ok : Attentive e a) (hs : e.step? c a = some (e', events)) :
    Heard c e' := by
  have hcarries := carries_of_step hs fun ha => by
    subst ha
    exact ok
  exact ⟨h.reachable.step hs, hcarries.isOpen.trans h.isOpen, hcarries.capacity ▸ h.capacity⟩

/-- A path in which nobody is careless keeps it that somebody will hear. -/
theorem Heard.path (h : Heard c start) (hp : Path c Attentive start ts e) : Heard c e :=
  hp.invariant h fun _ _ _ _ h ok hs => h.step ok hs

/-- What the consumer is owed it is still owed at the end of a path on which it does not read. -/
theorem owing_of_path (hh : Heard c start) (h : Owing start) (hp : Path c Attentive start ts e)
    (hread : ∀ t ∈ ts, .received ∉ t.events) : Owing e := by
  have hboth : Heard c e ∧ Owing e := by
    refine hp.preserves (P := fun e => Heard c e ∧ Owing e) ⟨hh, h⟩ fun t ht h ok hs => ?_
    exact ⟨h.1.step ok hs, h.2.step h.1.isOpen h.1.capacity ok hs (hread t ht)⟩
  exact hboth.2

/-- What the consumer is owed is unread, or on its way. -/
theorem Owing.unread_or_sendsUnaided (h : Owing e) (hh : Heard c e) :
    0 < e.channel.unread ∨ SendsUnaided c e := by
  by_cases hunread : 0 < e.channel.unread
  · exact .inl hunread
  · have hroom : e.channel.unread < e.channel.capacity := by
      have := hh.capacity
      omega
    exact .inr (sendsUnaided_of_waiting hh.reachable hh.isOpen hroom (h.resolve_left hunread))

/-- On a path on which nothing is published the snapshot stays what it was. -/
theorem snapshot_of_path {allowed : Engine → Action → Prop} (hp : Path c allowed start ts e)
    (h : ∀ t ∈ ts, .published ∉ t.events) : e.snapshot = start.snapshot := by
  refine hp.preserves (P := (·.snapshot = start.snapshot)) rfl fun t ht hbefore _ hs => ?_
  rw [snapshot_of_step hs (h t ht), hbefore]

/-- **No wake-up is lost.**  On a run of an engine whose channel can hold a notification, whose
    consumer does not hang up, and where calls are given up while they wait to notify only if the
    channel is full: once a snapshot after the first one has been published that the consumer has
    not read since, a notification is unread, or one is sent if those who wait for room just go on.
    So where nothing is unread or on its way, the snapshot is still the one that the consumer could
    see after any step since it took a notification last, or since the first one was published:
    looking then, it has seen the last one. -/
theorem no_wakeup_lost {world : World} {capacity : Nat} (hcapacity : 1 ≤ capacity)
    (hp : Path c Attentive (initial world capacity) ts e) :
    (∀ us t vs, ts = us ++ t :: vs → t.Rebuilds → (∀ v ∈ vs, .received ∉ v.events) →
      0 < e.channel.unread ∨ SendsUnaided c e) ∧
    (e.channel.unread = 0 → ¬ SendsUnaided c e →
      ∀ us t vs, ts = us ++ t :: vs → (∀ v ∈ vs, ¬ v.Prompts) →
        e.snapshot = t.after.snapshot) := by
  have hstart : Heard c (initial world capacity) := ⟨reachable_initial c world capacity, rfl, hcapacity⟩
  have howed : ∀ us t vs, ts = us ++ t :: vs → t.Rebuilds → (∀ v ∈ vs, .received ∉ v.events) →
      0 < e.channel.unread ∨ SendsUnaided c e := by
    rintro us t vs rfl ⟨hpublished, hl⟩ hread
    obtain ⟨m, hbefore, hafter⟩ := hp.split
    obtain ⟨rfl, ok, hs, hrest⟩ := hafter.uncons
    have hm := hstart.path hbefore
    have ht := hm.step ok hs
    have howing := owing_of_published (queued_of_reachable ht.reachable)
      (paired_of_reachable ht.reachable) hm.isOpen hm.capacity hl hs hpublished
    exact (owing_of_path ht howing hrest hread).unread_or_sendsUnaided (ht.path hrest)
  refine ⟨howed, ?_⟩
  rintro hunread hunaided us t vs rfl hsince
  obtain ⟨m, hbefore, hafter⟩ := hp.split
  obtain ⟨rfl, ok, hs, hrest⟩ := hafter.uncons
  -- Whatever was published since, the consumer would still be owed a notification.
  refine snapshot_of_path hrest fun v hv hpublished => ?_
  obtain ⟨vs₁, vs₂, rfl⟩ := List.append_of_mem hv
  have hrebuilds : v.Rebuilds := ⟨hpublished, fun hl => hsince v hv (.inr ⟨hpublished, hl⟩)⟩
  have hread : ∀ u ∈ vs₂, .received ∉ u.events := fun u hu hreceived =>
    hsince u (List.mem_append_right _ (List.mem_cons_of_mem _ hu)) (.inl hreceived)
  rcases howed (us ++ t :: vs₁) v vs₂ (by simp) hrebuilds hread with h | h
  · omega
  · exact hunaided h

/-- The consumer reads what a listener has sent, and then a private refresh publishes and waits
    behind that listener. -/
def overtaking : List Action :=
  [.invoke (.start 0), .resume (.call 0), .work 0 .start,
    .work 0 (.manifestAnswered (.error .failed) true), .resume (.listener 0), .receive,
    .alter { now := 10000, privacy := true }, .invoke (.refreshNow 0), .resume (.call 1)]

/-- A run of an engine whose channel holds one notification. -/
def unheard : List Transition × Engine := follow .remote (initial { now := 10000 } 1) overtaking

/-- The listener makes way, the call sends, and the consumer reads. -/
def heard : List Transition × Engine :=
  follow .remote (initial { now := 10000 } 1)
    (overtaking ++ [.resume (.listener 0), .resume (.call 1), .receive])

/-- What is to be seen of the run that nobody hears, checked by running it. -/
theorem unheard_facts : (∀ t ∈ unheard.1, Attentive t.before t.action) ∧
    unheard.2.channel.unread = 0 ∧ unheard.1.getLast?.any (fun t =>
      t.events.contains .published && t.before.lifecycle = .started) = true := by
  decide +kernel

/-- What is to be seen of the run that is heard, checked by running it. -/
theorem heard_facts : (∀ t ∈ heard.1, Attentive t.before t.action) ∧
    heard.2.channel.unread = 0 ∧ heard.2.channel.waiting = [] ∧
      heard.1.getLast?.any (·.action matches .receive) = true := by
  decide +kernel

/-- A notification that is overtaken by the consumer is sent by itself, or is read with the next
    snapshot. -/
theorem no_wakeup_lost_overtaking :
    (unheard.2.channel.unread = 0 ∧
      (0 < unheard.2.channel.unread ∨ SendsUnaided .remote unheard.2)) ∧
    ∃ t, heard.1.getLast? = some t ∧ heard.2.snapshot = t.after.snapshot := by
  constructor
  -- Nothing has been read, and nothing is unread: somebody has to be at hand who sends.
  · obtain ⟨hok, hunread, hlast⟩ := unheard_facts
    have hpath : Path .remote Attentive (initial { now := 10000 } 1) unheard.1 unheard.2 :=
      path_follow hok
    obtain ⟨t, ht, hrebuilds⟩ := (Option.any_eq_true _ _).1 hlast
    obtain ⟨us, hus⟩ := List.getLast?_eq_some_iff.1 ht
    obtain ⟨hpublished, hl⟩ := Bool.and_eq_true_iff.1 hrebuilds
    have hstarted : t.before.lifecycle ≠ .unstarted := by
      rw [of_decide_eq_true hl]
      exact nofun
    exact ⟨hunread, (no_wakeup_lost (Nat.le_refl 1) hpath).1 us t [] hus
      ⟨List.contains_iff_mem.1 hpublished, hstarted⟩ fun v hv => absurd hv List.not_mem_nil⟩
  -- Everything has been read: the snapshot is the one that was published last.
  · obtain ⟨hok, hunread, hwaiting, hlast⟩ := heard_facts
    have hpath : Path .remote Attentive (initial { now := 10000 } 1) heard.1 heard.2 :=
      path_follow hok
    obtain ⟨t, ht, -⟩ := (Option.any_eq_true _ _).1 hlast
    obtain ⟨us, hus⟩ := List.getLast?_eq_some_iff.1 ht
    exact ⟨t, ht, (no_wakeup_lost (Nat.le_refl 1) hpath).2 hunread (not_sendsUnaided hwaiting)
      us t [] hus fun v hv => absurd hv List.not_mem_nil⟩

end

end TokenCatalog.Engine
