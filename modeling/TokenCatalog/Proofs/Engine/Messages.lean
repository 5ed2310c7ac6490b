import TokenCatalog.Proofs.Engine.Departure
import TokenCatalog.Proofs.Engine.News
import TokenCatalog.Proofs.Engine.Pairing
import TokenCatalog.Proofs.Engine.PrivateRefresh
import TokenCatalog.Proofs.Engine.Resumption

namespace TokenCatalog

/-!
# Messages — one for every snapshot after the first

Where there is always room in the channel nobody ever waits for it.  Then whoever publishes sends a
notification in the same step, and what a call sends is settled when it gets its turn.

* `Roomy` — the promise that there is room, and that nobody gives up;
* `Clear` — nobody waits for room, and `Clear.step`, which says that it stays so, and which messages
  a step sends;
* `Call.news` — what a call lets others see, by what was recorded about privacy before it;
* `Reported` — how far a call is with that, and `reported_of_path`;
* `carries_of_path` — what becomes of the messages that are sent;
* `one_message_per_rebuild` — the whole account of a run.
-/

/-! ### What calls have to tell -/

/-- What a call lets others see once the worker has left. -/
def AfterLeave.news : AfterLeave → List Event
  | .goPrivate false => [.published, .notified]
  | .goPrivate true | .done | .stop | .restart => []

/-- What a call lets others see while it does its duty. -/
def Duty.news : Duty → List Event
  | .publish => [.published, .notified]
  | .dismiss next => next.news
  | .refuse _ | .keep | .hire => []

/-- What a call lets others see, by what was recorded about privacy before it. -/
def Call.news (e : Engine) (wasPrivate : Bool) : Call → List Event
  | .start _ => if e.lifecycle = .unstarted then [.published] else []
  | .stop => []
  | .refreshNow _ =>
    if e.lifecycle = .started ∧ e.crew.world.isOffline = true then [.published, .notified] else []
  | .privacyModeUpdated _ =>
    if e.lifecycle = .started ∧ e.crew.world.isOffline = true ∧ wasPrivate = false then
      [.published, .notified]
    else []

/-- What a call lets others see is its opening and what its duty has to tell. -/
theorem Call.news_eq (e : Engine) (call : Call) :
    call.news e e.wasPrivate = call.opening e ++ (call.duty e).news := by
  cases call with
  -- Each call by the life of the engine, by the guard, and by whatever else it looks at.
  | start token =>
    cases hl : e.lifecycle <;> cases hoff : e.crew.world.isOffline <;>
      simp [Call.news, Call.opening, Call.duty, hl, hoff, Duty.news, AfterLeave.news]
  | stop =>
    cases hl : e.lifecycle <;>
      simp [Call.news, Call.opening, Call.duty, Engine.refusal?, hl, Duty.news, AfterLeave.news]
  | refreshNow token =>
    cases hl : e.lifecycle <;> cases hoff : e.crew.world.isOffline <;>
      simp [Call.news, Call.opening, Call.duty, Engine.refusal?, hl, hoff, Duty.news,
        AfterLeave.news]
  | privacyModeUpdated token =>
    cases hl : e.lifecycle <;> cases hoff : e.crew.world.isOffline <;>
      cases hwas : e.wasPrivate <;> cases hlive : e.hasLiveWorker <;>
      simp [Call.news, Call.opening, Call.duty, Engine.refusal?, hl, hoff, hwas, hlive, Duty.news,
        AfterLeave.news]

/-- Whether an event is a snapshot published or a message sent. -/
def Event.isMessage : Event → Bool
  | .published | .notified => true
  | _ => false

namespace Channel

variable {ch ch' : Channel} {p : Process} {events : List Event}

/-- Who is alone and finds room sends at once. -/
theorem posts_of_alone (hwaiting : ch.waiting = []) (hopen : ch.isOpen = true)
    (hroom : ch.unread < ch.capacity) (h : (ch.join p).Posts p ch' events) :
    events = [.notified] ∧ (ch'.unread < ch'.capacity → ch'.waiting = []) := by
  -- Whoever joins an empty queue stands at its head, and there is room.
  have hjoined : (ch.join p).waiting = [p] := by
    show ch.waiting ++ [p] = _
    rw [hwaiting]
    rfl
  have hready : (ch.join p).isReady p = true := isReady_head hjoined hroom
  have hleft : (ch.waiting ++ [p]).erase p = [] := by
    rw [hwaiting]
    simp
  cases h with
  | waits hfull =>
    rw [hready] at hfull
    cases hfull
  | unheard hclosed =>
    rw [show (ch.join p).isOpen = true from hopen] at hclosed
    cases hclosed
  | sends => exact ⟨rfl, fun _ => hleft⟩
  | parks _ _ hfull =>
    -- It parks only when there is no room left.
    refine ⟨rfl, fun hroom' => ?_⟩
    have hparked : (((ch.join p).put p).join p).waiting = [p] := by
      show (ch.waiting ++ [p]).erase p ++ [p] = [p]
      rw [hleft]
      rfl
    rw [isReady_head hparked hroom'] at hfull
    cases hfull
  | settles =>
    refine ⟨rfl, fun _ => ?_⟩
    show ((ch.waiting ++ [p]).erase p ++ [p]).erase p = []
    rw [hleft]
    simp

/-- Who does not wait for room does not get any. -/
theorem not_posts (hwaiting : ch.waiting = []) (hopen : ch.isOpen = true)
    (h : ch.Posts p ch' events) : ch' = ch ∧ events = [] := by
  have hblocked : ch.isReady p = false := by
    rw [isReady, hopen, hwaiting, List.take_nil]
    rfl
  cases h with
  | waits => exact ⟨rfl, rfl⟩
  | unheard hclosed =>
    rw [hopen] at hclosed
    cases hclosed
  | sends _ hready | parks _ hready | settles _ hready =>
    rw [hblocked] at hready
    cases hready

end Channel

namespace Engine

variable {c : Config} {e e' : Engine} {a : Action} {events : List Event} {id : CallId}
  {w : WorkerId} {next : AfterLeave}

/-- The promise that there is room in the channel, that the consumer does not hang up, and that no
    call is given up. -/
def Roomy (e : Engine) (a : Action) : Prop :=
  e.channel.unread < e.channel.capacity ∧
    match a with
    | .hangUp | .abandon _ => False
    | _ => True

instance (e : Engine) (a : Action) : Decidable (Roomy e a) :=
  match a with
  | .hangUp | .abandon _ => .isFalse And.right
  | .alter _ | .elapse _ | .cancel _ | .invoke _ | .resume _ | .work .. | .receive =>
    decidable_of_iff (e.channel.unread < e.channel.capacity)
      ⟨fun h => ⟨h, trivial⟩, And.left⟩

/-- The consumer listens, and as long as there is room nobody waits for it. -/
structure Clear (e : Engine) : Prop where
  isOpen : e.channel.isOpen = true
  waiting : e.channel.unread < e.channel.capacity → e.channel.waiting = []

/-- The snapshots published and the messages sent in a step. -/
def Transition.news (t : Transition) : List Event := t.events.filter (·.isMessage)

/-- How a step sends one message for every snapshot but the first, and after it. -/
inductive OneMessage (c : Config) (t : Transition) : Prop
  | silent (news : t.news = [])
  | rebuilds (news : t.news = [.published, .notified])
      (snapshot : t.after.snapshot = t.before.localSnapshot c)
  | opens (unstarted : t.before.lifecycle = .unstarted) (news : t.news = [.published])

/-- Where there is no news there are no messages. -/
theorem filter_isMessage_of_silent (h : ∀ ev ∈ events, ¬ ev.IsNews) :
    events.filter (·.isMessage) = [] := by
  refine List.filter_eq_nil_iff.2 fun ev hev hmessage => h ev hev ?_
  unfold Event.isMessage at hmessage
  split at hmessage
  · trivial
  · trivial
  · cases hmessage

/-- **Where there is room, nobody waits for it**, and who publishes sends a message. -/
theorem Clear.step (h : Clear e) (ok : Roomy e a) (hs : e.step? c a = some (e', events)) :
    Clear e' ∧ OneMessage c ⟨e, a, e', events⟩ := by
  obtain ⟨hroom, hkept⟩ := ok
  -- There is room, so nobody waits; and who leaves the channel cannot change that.
  have hnobody := h.waiting hroom
  have hleft : ∀ {ch : Channel}, e.channel.Leaves ch → ch.waiting = [] := by
    intro ch hleaves
    have hsub := hleaves.waiting
    rw [hnobody] at hsub
    exact List.sublist_nil.1 hsub
  have hopen' : e'.channel.isOpen = true := by
    refine (carries_of_step hs fun ha => ?_).isOpen.trans h.isOpen
    subst ha
    exact hkept
  -- The consumer does not hang up.
  cases newsCase_of_step? hs with
  | still htidies hsilent =>
    exact ⟨⟨hopen', fun _ => hleft htidies.left⟩, .silent (filter_isMessage_of_silent hsilent)⟩
  | forsakes => exact hkept.elim
  | opens hunstarted _ hleaves _ => exact ⟨⟨hopen', fun _ => hleft hleaves⟩, .opens hunstarted rfl⟩
  | republishes hrep =>
    obtain ⟨ch, events', hleaves, -, hposts, rfl⟩ := hrep.posts
    obtain ⟨rfl, hclear⟩ := Channel.posts_of_alone (hleft hleaves)
      (hleaves.isOpen.trans h.isOpen) (by rw [hleaves.unread, hleaves.capacity]; exact hroom) hposts
    exact ⟨⟨hopen', hclear⟩, .rebuilds rfl hrep.snapshot⟩
  | announces hsnapshot hposts =>
    obtain ⟨rfl, hclear⟩ := Channel.posts_of_alone hnobody h.isOpen hroom hposts
    exact ⟨⟨hopen', hclear⟩, .rebuilds rfl hsnapshot⟩
  | posts _ hposts =>
    obtain ⟨heq, rfl⟩ := Channel.not_posts hnobody h.isOpen hposts
    exact ⟨⟨hopen', fun _ => by rw [heq, hnobody]⟩, .silent rfl⟩
  | receives _ htaken =>
    refine ⟨⟨hopen', fun _ => ?_⟩, .silent rfl⟩
    rw [Channel.waiting_take? htaken, hnobody]
  | hangsUp => exact hkept.elim

/-- **Messages are neither lost nor made up on their way**: along a run on which the consumer does not
    hang up, those that were sent have been received or are still unread. -/
theorem carries_of_path {start : Engine} {ts : List Transition} (hp : Path c Roomy start ts e) :
    start.channel.Carries e.channel (ts.flatMap (·.events)) := by
  induction hp with
  | nil => exact .refl _
  | snoc path ok hs ih =>
    rw [List.flatMap_append, List.flatMap_singleton]
    refine ih.trans (carries_of_step hs fun ha => ?_)
    subst ha
    exact ok.2

/-- On a path with room nobody comes to wait for it. -/
theorem Clear.path {start : Engine} {ts : List Transition} (h : Clear start)
    (hp : Path c Roomy start ts e) : Clear e :=
  hp.invariant h fun _ _ _ _ h ok hs => (h.step ok hs).1

/-! ### One call -/

section

variable {p : PendingCall} (hp : e.calls[id]? = some p) (hc : Clear e)
  (hroom : e.channel.unread < e.channel.capacity)
include hp hc hroom

/-- Where there is room, a call that publishes has sent its notification and returned. -/
theorem publishPrivately_news (c : Config) :
    (e.publishPrivately c id).1.stage? id = some (.returned (.ok ())) ∧
      (e.publishPrivately c id).2 = [.published, .notified] := by
  obtain ⟨s, ch, events, hsends, heq⟩ := publishPrivately_sends c e id
  have hjoined : (e.channel.join (.call id)).waiting = [.call id] := by
    show e.channel.waiting ++ [.call id] = _
    rw [hc.waiting hroom]
    rfl
  rw [heq]
  cases hsends with
  | waits hfull =>
    rw [Channel.isReady_head hjoined hroom] at hfull
    cases hfull
  | unheard hclosed =>
    rw [show (e.channel.join (.call id)).isOpen = true from hc.isOpen] at hclosed
    cases hclosed
  | notifies => exact ⟨stage?_modify_self hp rfl, rfl⟩

/-- Where there is room, what is done after the worker has left returns and tells what was
    planned. -/
theorem afterLeave_returns (c : Config) (next : AfterLeave) :
    (e.afterLeave c id next).1.stage? id = some (.returned (.ok ())) ∧
      (e.afterLeave c id next).2 = next.news := by
  have hdrop := Tidies.dropListener e
  have hp' : ∀ next : AfterLeave, (e.dropListener.heed next).calls[id]? = some p := by
    intro next
    rw [calls_heed, (keeps_dropListener e).calls, hp]
  have hc' : Clear e.dropListener := by
    refine ⟨hdrop.left.isOpen.trans hc.isOpen, fun _ => ?_⟩
    have hsub := hdrop.left.waiting
    rw [hc.waiting hroom] at hsub
    exact List.sublist_nil.1 hsub
  have hroom' : e.dropListener.channel.unread < e.dropListener.channel.capacity := by
    rw [hdrop.left.unread, hdrop.left.capacity]
    exact hroom
  cases next with
  | done => exact ⟨stage?_modify_self (hp' .done) rfl, rfl⟩
  | stop => exact ⟨stage?_modify_self (hp' .stop) rfl, rfl⟩
  | restart => exact ⟨stage?_modify_self (hp' .restart) rfl, rfl⟩
  -- Only a call that has gone private has something left to tell.
  | goPrivate wasPrivate =>
    cases wasPrivate with
    | true => exact ⟨stage?_modify_self (hp' (.goPrivate true)) rfl, rfl⟩
    | false => exact publishPrivately_news (hp' (.goPrivate false)) hc' hroom' c

/-- How far a call is that has got its turn, with what others have seen of it so far. -/
inductive Reported (id : CallId) (d : Duty) (news seen : List Event) (e : Engine) : Prop
  /-- It waits for a worker to leave before it has anything to tell. -/
  | leaving {w : WorkerId} {next : AfterLeave} (duty : d = .dismiss next)
      (stage : e.stage? id = some (.joining w next)) (silent : seen = [])
      (later : next.news = news)
  | returned {r : Except CallError Unit} (stage : e.stage? id = some (.returned r))
      (told : seen = news) (failed : ∀ error, r = .error error → news = [])

/-- Where there is room, a call that does its duty reports it. -/
theorem perform_reported (c : Config) (d : Duty) :
    Reported id d d.news (e.perform c id d).2 (e.perform c id d).1 := by
  cases d with
  | refuse error =>
    exact .returned (stage?_modify_self hp rfl) rfl fun _ _ => rfl
  | keep => exact .returned (stage?_modify_self hp rfl) rfl fun _ _ => rfl
  | publish =>
    obtain ⟨hstage, hnews⟩ := publishPrivately_news hp hc hroom c
    exact .returned hstage hnews nofun
  | hire =>
    have hp' : (e.startWorker false).calls[id]? = some p := by rw [calls_startWorker, hp]
    exact .returned (stage?_modify_self hp' rfl) rfl fun _ _ => rfl
  | dismiss next =>
    have hp' : e.forget.calls[id]? = some p := by rw [calls_forget, hp]
    have hforget := Tidies.forget e
    have hchannel : e.forget.channel = e.channel := channel_forget e
    rw [perform]
    -- Either nobody has to leave, or the call waits for the worker and tells nothing yet.
    rcases stopWorker_eq c e id next with heq | ⟨worker, -, -, heq⟩
    · rw [heq]
      obtain ⟨hstage, hnews⟩ := afterLeave_returns hp' ⟨hchannel ▸ hc.isOpen, hchannel ▸ hc.waiting⟩
        (hchannel ▸ hroom) c next
      exact .returned hstage hnews nofun
    · rw [heq]
      exact .leaving rfl (stage?_modify_self hp' rfl) rfl rfl

end

section

variable {ts us vs : List Transition} {t : Transition} {start : Engine} {call : Call}
  {d : Duty} {news seen : List Event}

/-- A call that gets its turn, and what it has told by its end. -/
theorem reported_of_turn (hb : Begun e) (hp : e.calls[id]? = some ⟨call, .locking⟩) (hc : Clear e)
    (hroom : e.channel.unread < e.channel.capacity)
    (hs : e.step? c (.resume (.call id)) = some (e', events)) :
    Reported id (call.duty e) (call.news e e.wasPrivate) events e' := by
  obtain ⟨-, hrun⟩ := runCall_of_resumeCall? hp hs
  have hp' : (call.note c e).calls[id]? = some ⟨call, .locking⟩ := by rw [calls_note, hp]
  have hchannel : (call.note c e).channel = e.channel := by rw [note_eq]
  have hc' : Clear (call.note c e) := ⟨hchannel ▸ hc.isOpen, hchannel ▸ hc.waiting⟩
  have hroom' : (call.note c e).channel.unread < (call.note c e).channel.capacity :=
    hchannel ▸ hroom
  rw [runCall_eq] at hrun
  obtain ⟨rfl, rfl⟩ := Prod.mk.inj hrun
  rw [call.news_eq e]
  rcases note_news c e call with ⟨-, hnone⟩ | ⟨hl, -, -, hfirst, hduty⟩
  · rw [hnone, List.nil_append, List.nil_append]
    exact perform_reported hp' hc' hroom' c (call.duty e)
  · -- The first call to start waits for nobody: no worker is known yet.
    rcases hduty with hduty | hduty
    · have hnobody : (call.note c e).hasLiveWorker = false := by
        rw [hasLiveWorker, worker_note]
        cases hw : e.worker with
        | none => rfl
        | some w => exact absurd hl (hb.worker w hw)
      have hforgotten : (call.note c e).forget.channel = (call.note c e).channel :=
        channel_forget _
      have hforgotten' : (call.note c e).forget.calls[id]? = some ⟨call, .locking⟩ := by
        rw [calls_forget, hp']
      obtain ⟨hstage, hnews⟩ := afterLeave_returns hforgotten'
        ⟨hforgotten ▸ hc'.isOpen, hforgotten ▸ hc'.waiting⟩ (hforgotten ▸ hroom') c .done
      rw [hduty, perform, stopWorker_of_not_hasLiveWorker c id .done hnobody]
      exact .returned hstage (by rw [hnews]; rfl) fun _ heq => by cases heq
    · have hp'' : ((call.note c e).startWorker false).calls[id]? = some ⟨call, .locking⟩ := by
        rw [calls_startWorker, hp']
      rw [hduty, perform]
      exact .returned (stage?_modify_self hp'' rfl) rfl fun _ heq => by cases heq

/-- A call that has got its turn tells what it has to tell, and nothing else. -/
theorem Reported.step (h : Reported id d news seen e) (hc : Clear e) (ok : Roomy e a)
    (hs : e.step? c a = some (e', events)) :
    Reported id d news (seen ++ Transition.eventsOf id ⟨e, a, e', events⟩) e' := by
  -- Only the call's own step says anything more, since nobody gives it up.
  by_cases hm : a.Moves id
  · have hresume : a = .resume (.call id) ∧ e.resumeCall? c id = some (e', events) := by
      rcases moves_cases hs hm with ⟨rfl, -⟩ | hresume
      · exact ok.2.elim
      · exact hresume
    obtain ⟨rfl, hresume⟩ := hresume
    rw [eventsOf_of_eq rfl]
    cases h with
    | @leaving w next _ hstage hsilent hlater =>
      obtain ⟨⟨call, s⟩, hp, rfl⟩ := Option.map_eq_some_iff.1 hstage
      have hleft : e.afterLeave c id next = (e', events) := left_of_resumeCall? hp hresume
      obtain ⟨hstage', hnews⟩ := afterLeave_returns hp hc ok.1 c next
      rw [hleft] at hstage' hnews
      refine .returned hstage' ?_ nofun
      rw [hsilent, List.nil_append, ← hlater]
      exact hnews
    | returned hstage => exact absurd hm (not_moves_of_isOver hs hstage trivial)
  · have hne : a ≠ .resume (.call id) := fun ha => hm (by rw [ha]; rfl)
    rw [eventsOf_of_ne hne, List.append_nil]
    cases h with
    | leaving hduty hstage hsilent hlater =>
      exact .leaving hduty (stage?_of_not_moves hs hstage hm) hsilent hlater
    | returned hstage htold hfailed =>
      exact .returned (stage?_of_not_moves hs hstage hm) htold hfailed

/-- On a path with room, a call reports what it has to tell once it gets there. -/
theorem reported_of_path (h : Reported id d news seen start) (hc : Clear start)
    (hp : Path c Roomy start ts e) :
    Reported id d news (seen ++ ts.flatMap (·.eventsOf id)) e := by
  induction hp with
  | nil =>
    rw [List.flatMap_nil, List.append_nil]
    exact h
  | snoc path ok hs ih =>
    rw [List.flatMap_append, ← List.append_assoc, List.flatMap_singleton]
    exact ih.step (hc.path path) ok hs

/-- A call that has run waits for its turn no more. -/
theorem ran_of_resumeCall? (hb : Begun e) (hc : Clear e)
    (hroom : e.channel.unread < e.channel.capacity)
    (hs : e.step? c (.resume (.call id)) = some (e', events)) :
    ∃ s, e'.stage? id = some s ∧ s ≠ .locking := by
  have hsplit : ∀ t, CallStep c e id t → t = (e', events) →
      ∃ s, e'.stage? id = some s ∧ s ≠ .locking := by
    intro t ht heq
    -- What the call does in its turn decides where it waits then; each way leads on.
    cases ht with
    | run hp =>
      cases reported_of_turn hb hp hc hroom hs with
      | leaving _ hstage => exact ⟨_, hstage, nofun⟩
      | returned hstage => exact ⟨_, hstage, nofun⟩
    | @left call w next hp =>
      obtain ⟨hstage, -⟩ := afterLeave_returns hp hc hroom c next
      rw [heq] at hstage
      exact ⟨_, hstage, nofun⟩
    | sent hp =>
      obtain ⟨rfl, -⟩ := Prod.mk.inj heq
      exact ⟨_, stage?_modify_self hp (calls_sent e id), nofun⟩
  exact hsplit _ (callStep_of_resumeCall? hs) rfl

/-- The state at the end of a run on which there is room. -/
structure Smooth (c : Config) (e : Engine) : Prop where
  reachable : Reachable c e
  clear : Clear e

/-- A step with room keeps it that nobody waits for room. -/
theorem Smooth.step (h : Smooth c e) (ok : Roomy e a) (hs : e.step? c a = some (e', events)) :
    Smooth c e' := ⟨h.reachable.step hs, (h.clear.step ok hs).1⟩

/-- A new engine has nobody waiting. -/
theorem smooth_initial (c : Config) (world : World) (capacity : Nat) :
    Smooth c (initial world capacity) :=
  ⟨reachable_initial c world capacity, rfl, fun _ => rfl⟩

/-- A path with room keeps it that nobody waits for room. -/
theorem Smooth.path (h : Smooth c start) (hp : Path c Roomy start ts e) : Smooth c e :=
  hp.invariant h fun _ _ _ _ h ok hs => h.step ok hs

/-- A call that waits for its turn has shown nothing yet. -/
theorem unseen_of_locking {world : World} {capacity : Nat}
    (hp : Path c Roomy (initial world capacity) ts e)
    (hlocking : e.calls[id]? = some ⟨call, .locking⟩) :
    ∀ t ∈ ts, t.action ≠ .resume (.call id) := by
  -- Once the call has had its turn it never waits for the lock again.
  have hran : (∃ t ∈ ts, t.action = .resume (.call id)) →
      ∃ s, e.stage? id = some s ∧ s ≠ .locking := by
    clear hlocking
    induction hp with
    | nil => exact fun ⟨t, ht, _⟩ => absurd ht List.not_mem_nil
    | @snoc ts e e' a events path ok hs ih =>
      rintro ⟨t, ht, hact⟩
      have hsmooth := (smooth_initial c world capacity).path path
      by_cases ha : a = .resume (.call id)
      · subst ha
        exact ran_of_resumeCall? (begun_of_reachable hsmooth.reachable) hsmooth.clear ok.1 hs
      · have hstill : ¬ a.Moves id := by
          intro hm
          rcases moves_cases hs hm with ⟨rfl, -⟩ | ⟨hresume, -⟩
          · exact ok.2
          · exact ha hresume
        rcases List.mem_append.1 ht with ht | ht
        · obtain ⟨s, hstage, hne⟩ := ih ⟨t, ht, hact⟩
          exact ⟨s, stage?_of_not_moves hs hstage hstill, hne⟩
        · rw [List.mem_singleton.1 ht] at hact
          exact absurd hact ha
  intro t ht hact
  obtain ⟨s, hstage, hne⟩ := hran ⟨t, ht, hact⟩
  rw [stage?, hlocking] at hstage
  exact hne (Option.some.inj hstage).symm

/-! ### What was recorded about privacy -/

/-- What the call that looked at the guard last saw of it; before the first one, that it was off. -/
def recorded (ts : List Transition) : Bool :=
  (ts.filter fun t => t.before.looks t.action).getLast?.any (·.before.crew.world.isOffline)

/-- What the engine knows of privacy is what the last call that looked has recorded. -/
theorem wasPrivate_eq_recorded {allowed : Engine → Action → Prop} {world : World} {capacity : Nat}
    (hp : Path c allowed (initial world capacity) ts e) : e.wasPrivate = recorded ts := by
  induction hp with
  | nil => rfl
  | @snoc ts e e' a events path ok hs ih =>
    rw [wasPrivate_of_step hs, recorded, List.filter_append]
    cases hlooks : e.looks a with
    | true =>
      simp only [List.filter_cons, hlooks, List.filter_nil, if_true, List.getLast?_append]
      rfl
    | false =>
      simp only [List.filter_cons, hlooks, List.filter_nil, Bool.false_eq_true, if_false,
        List.append_nil]
      exact ih

/-! ### Whole runs -/

/-- The promise that nothing happens but that a worker leaves, and that the call that waits for it
    goes on. -/
def Leaving (w : WorkerId) (id : CallId) (e : Engine) (a : Action) : Prop :=
  Working w e a ∨ a = .resume (.call id)

/-- A call that waits for a worker to leave need not wait for anything else. -/
theorem exists_return (h : Smooth c e) (hroom : e.channel.unread < e.channel.capacity)
    (hj : e.stage? id = some (.joining w next)) :
    ∃ us e', Path c (Leaving w id) e us e' ∧ us.flatMap (·.eventsOf id) = next.news ∧
      e'.stage? id = some (.returned (.ok ())) := by
  obtain ⟨us, k, hpath, hgone⟩ : ∃ us k, Path c (Working w) e us { e with crew := k } ∧
      k.isLive w = false := by
    cases hlive : e.crew.isLive w with
    | false => exact ⟨[], e.crew, .nil, hlive⟩
    | true =>
      obtain ⟨v, hv, hvlive⟩ := Crew.isLive_iff.1 hlive
      -- The worker that is waited for has been told to stop, and leaves by itself.
      have hstopped := stopped_of_joining (custody_of_reachable h.reachable) hj hv hvlive
      have hok : ∀ (k : Crew) (wa : Worker.Action), e.crew.GoesOn w k →
          Working w { e with crew := k } (.work w wa) := fun _ wa _ => ⟨wa, rfl⟩
      obtain ⟨us, k, hpath, hgone, -⟩ := exists_departure h.reachable hv hstopped hok
      exact ⟨us, k, hpath, hgone⟩
  obtain ⟨p, hp, hstage⟩ := Option.map_eq_some_iff.1 hj
  obtain ⟨hreturned, hnews⟩ := afterLeave_returns (e := { e with crew := k }) hp
    ⟨h.clear.isOpen, h.clear.waiting⟩ hroom c next
  have hresume : Engine.step? c { e with crew := k } (.resume (.call id)) =
      some (Engine.afterLeave c { e with crew := k } id next) := by
    show Engine.resumeCall? c { e with crew := k } id = _
    simp only [resumeCall?, hp, hstage, hgone, Bool.false_eq_true, if_false]
  -- While it leaves, the call is not seen to do anything.
  have hworks : ∀ t ∈ us, ∃ wa, t.action = .work w wa := fun t ht => (hpath.step_of_mem ht).1
  have hsilent : us.flatMap (·.eventsOf id) = [] := by
    refine flatMap_eventsOf_of_unseen fun t ht hact => ?_
    obtain ⟨wa, hwork⟩ := hworks t ht
    rw [hact] at hwork
    cases hwork
  refine ⟨_, _, (hpath.weaken fun t ht => .inl (hworks t ht)).snoc (.inr rfl) hresume, ?_,
    hreturned⟩
  rw [List.flatMap_append, hsilent, List.flatMap_singleton, eventsOf_of_eq rfl]
  exact hnews

/-- How a call that has got its turn tells what it has to tell: it has returned and has told just
    that, or it waits for a worker that it has told to stop, has told nothing, and need not wait for
    anything else. -/
inductive Tells (c : Config) (id : CallId) (news : List Event) (d : Duty) (ts : List Transition)
    (e : Engine) : Prop
  | told {r : Except CallError Unit} (stage : e.stage? id = some (.returned r))
      (seen : ts.flatMap (·.eventsOf id) = news) (failed : ∀ error, r = .error error → news = [])
  | leaving {w : WorkerId} {next : AfterLeave} (duty : d = .dismiss next)
      (stage : e.stage? id = some (.joining w next)) (seen : ts.flatMap (·.eventsOf id) = [])
      (later : ∃ us e', Path c (Leaving w id) e us e' ∧ us.flatMap (·.eventsOf id) = news ∧
        e'.stage? id = some (.returned (.ok ())))

/-- **One message for every snapshot after the first.**  On a run on which there is always room, the
    consumer does not hang up and no call is given up: every step that publishes a snapshot sends
    one message, after it, unless it is the first snapshot; and every other step sends none.  The
    messages that the consumer has not received lie in the channel, unread.  A call publishes and
    sends what its kind, the guard, and the guard as it was recorded before have it publish and send,
    and a call that fails does neither. -/
theorem one_message_per_rebuild {world : World} {capacity : Nat}
    (hp : Path c Roomy (initial world capacity) ts e)
    (hroom : e.channel.unread < e.channel.capacity) :
    (∀ t ∈ ts, OneMessage c t) ∧
    e.channel.unread + (ts.flatMap (·.events)).count .received =
      (ts.flatMap (·.events)).count .notified ∧
    ∀ us t vs id call, ts = us ++ t :: vs → t.action = .resume (.call id) →
      t.before.calls[id]? = some ⟨call, .locking⟩ →
        Tells c id (call.news t.before (recorded us)) (call.duty t.before) ts e := by
  have hstart := smooth_initial c world capacity
  refine ⟨fun t ht => ?_, ?_, ?_⟩
  -- A step of a smooth state sends what it should.
  · obtain ⟨us, vs, rfl⟩ := List.append_of_mem ht
    obtain ⟨m, hbefore, hafter⟩ := hp.split
    obtain ⟨rfl, ok, hs, -⟩ := hafter.uncons
    exact ((hstart.path hbefore).clear.step ok hs).2
  · -- At the beginning nothing is unread.
    exact (carries_of_path hp).unread.trans (Nat.zero_add _)
  · rintro us ⟨m, a, e₁, events⟩ vs id call rfl rfl hpending
    obtain ⟨m', hbefore, hafter⟩ := hp.split
    obtain ⟨rfl, ok, hs, hrest⟩ := hafter.uncons
    have hm := hstart.path hbefore
    -- Before its turn nothing has been seen of the call.
    have hunseen := flatMap_eventsOf_of_unseen (unseen_of_locking hbefore hpending)
    have hreport := reported_of_path
      (reported_of_turn (begun_of_reachable hm.reachable) hpending hm.clear ok.1 hs)
      (hm.step ok hs).clear hrest
    have hseen : (us ++ ⟨m, .resume (.call id), e₁, events⟩ :: vs).flatMap (·.eventsOf id) =
        events ++ vs.flatMap (·.eventsOf id) := by
      rw [List.flatMap_append, hunseen, List.nil_append, List.flatMap_cons, eventsOf_of_eq rfl]
    rw [← wasPrivate_eq_recorded hbefore]
    cases hreport with
    | returned hstage htold hfailed => exact .told hstage (hseen.trans htold) hfailed
    | leaving hduty hstage hsilent hlater =>
      obtain ⟨us', e', hpath, hnews, hreturned⟩ := exists_return (hstart.path hp) hroom hstage
      exact .leaving hduty hstage (hseen.trans hsilent)
        ⟨us', e', hpath, hnews.trans hlater, hreturned⟩

end

/-- The guard is turned on while a listener has a result in hand and waits for the lock.  The call
    that says so ends that listener; another such call has nothing to tell. -/
def silenced : List Transition × Engine :=
  follow .remote (initial { now := 10000 } 2)
    [.invoke (.start 0), .resume (.call 0), .work 0 .start,
      .work 0 (.manifestAnswered (.error .failed) true),
      .alter { now := 10000, privacy := true }, .invoke (.privacyModeUpdated 0),
      .resume (.listener 0), .resume (.call 1), .work 0 .quit, .resume (.call 1),
      .invoke (.privacyModeUpdated 0), .resume (.call 2)]

/-- Whether a call gets its turn in a step. -/
def Transition.isTurnOf (id : CallId) (call : Call) (t : Transition) : Bool :=
  match t.action, t.before.calls[id]? with
  | .resume (.call j), some ⟨call', .locking⟩ => j = id && call' = call
  | _, _ => false

/-- A step that is a call's turn is its step, and the call waited for the lock. -/
theorem turn_of_isTurnOf {t : Transition} {call : Call} (h : t.isTurnOf id call = true) :
    t.action = .resume (.call id) ∧ t.before.calls[id]? = some ⟨call, .locking⟩ := by
  unfold Transition.isTurnOf at h
  split at h
  · rename_i j call' hact hpending
    obtain ⟨rfl, rfl⟩ : j = id ∧ call' = call := by simpa using h
    exact ⟨hact, hpending⟩
  · cases h

/-- What is to be seen of the silenced run, checked by running it. -/
theorem silenced_facts : (∀ t ∈ silenced.1, Roomy t.before t.action) ∧
    silenced.2.channel.unread < silenced.2.channel.capacity ∧
    (silenced.1[7]?).any (fun t => t.isTurnOf 1 (.privacyModeUpdated 0) &&
      t.before.listeners[0]? = some ⟨0, .locking⟩ &&
      (Call.privacyModeUpdated 0).news t.before (recorded (silenced.1.take 7)) =
        [.published, .notified]) = true ∧
    (silenced.1[11]?).any (fun t => t.isTurnOf 2 (.privacyModeUpdated 0) &&
      (Call.privacyModeUpdated 0).news t.before (recorded (silenced.1.take 11)) = []) = true := by
  decide +kernel

/-- In the silenced run the first call speaks for the listener that it ended, and the second has
    nothing to tell. -/
theorem one_message_per_rebuild_silenced :
    (∀ t ∈ silenced.1, OneMessage .remote t) ∧
    silenced.2.channel.unread + (silenced.1.flatMap (·.events)).count .received =
      (silenced.1.flatMap (·.events)).count .notified ∧
    (∃ d, Tells .remote 1 [.published, .notified] d silenced.1 silenced.2) ∧
    ∃ d, Tells .remote 2 [] d silenced.1 silenced.2 := by
  obtain ⟨hok, hroom, hfirst, hsecond⟩ := silenced_facts
  have hpath : Path .remote Roomy (initial { now := 10000 } 2) silenced.1 silenced.2 :=
    path_follow hok
  obtain ⟨hall, hunread, hcalls⟩ := one_message_per_rebuild hpath hroom
  refine ⟨hall, hunread, ?_, ?_⟩
  -- The call that finds a listener waiting for the lock tells in its place.
  · obtain ⟨t, ht, hturn⟩ := (Option.any_eq_true _ _).1 hfirst
    simp only [Bool.and_eq_true, decide_eq_true_eq] at hturn
    obtain ⟨⟨hturn, -⟩, hnews⟩ := hturn
    obtain ⟨hact, hpending⟩ := turn_of_isTurnOf hturn
    have htells := hcalls _ t _ 1 _ (cut_of_getElem? ht) hact hpending
    rw [hnews] at htells
    exact ⟨_, htells⟩
  -- The call after that finds privacy recorded already.
  · obtain ⟨t, ht, hturn⟩ := (Option.any_eq_true _ _).1 hsecond
    simp only [Bool.and_eq_true, decide_eq_true_eq] at hturn
    obtain ⟨hturn, hnews⟩ := hturn
    obtain ⟨hact, hpending⟩ := turn_of_isTurnOf hturn
    have htells := hcalls _ t _ 2 _ (cut_of_getElem? ht) hact hpending
    rw [hnews] at htells
    exact ⟨_, htells⟩

end Engine

end TokenCatalog
