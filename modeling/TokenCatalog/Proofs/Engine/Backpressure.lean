import TokenCatalog.Proofs.Engine.Seats
import TokenCatalog.Proofs.Engine.Succession

namespace TokenCatalog

/-!
# Backpressure — nobody refreshes for a consumer that does not read

A worker begins a refresh only when the result of the last one has been acknowledged, and a listener
acknowledges only when there is room for one notification more than it has sent.  So a worker can
outrun the consumer by no more than the channel holds, or by one refresh if it holds none.

* `begun`, `completed`, `acknowledged`, `consumed` — what is counted along a run;
* `Tally` — how far a worker's counts may lie apart, by the state of its seat, and `Tally.step`;
* `Told` — how many notifications its listener has sent;
* `Spending` — what a worker has done since it came, and what it has used up of the channel;
* `single_flight` — the whole account of a run.
-/

/-- Whether an event is the end of a refresh of a worker. -/
def Event.isRecordOf (w : WorkerId) : Event → Bool
  | .refreshRecorded i _ _ => i = w
  | _ => false

/-- The refreshes a worker has begun are counted by its milestones. -/
theorem Event.count_began (w : WorkerId) (events : List Event) :
    events.count (.refreshBegan w) = (milestones w events).count (.refreshBegan w) := by
  rw [milestones, List.count_filter (by simp [isMilestoneOf])]

/-- The refreshes a worker has completed are counted by its milestones. -/
theorem Event.countP_isRecordOf (w : WorkerId) (events : List Event) :
    events.countP (·.isRecordOf w) = (milestones w events).countP (·.isRecordOf w) := by
  rw [milestones, List.countP_filter]
  refine List.countP_congr fun ev _ => ?_
  cases ev <;> simp [isRecordOf, isMilestoneOf]

/-- The listener waits for the next result, or it has ended and the worker knows, or has left. -/
def Seat.IsQuiet (s : Seat) : Prop :=
  s.listening = .receiving ∨
    s.listening = .ended ∧ (s.hasConsumer = false ∨ s.stage = .exited)

/-- A result waits for the listener, or is with it. -/
def Seat.HasResult (s : Seat) : Prop :=
  s.handover = .offered ∧ s.listening = .receiving ∨
    s.listening = .locking ∨ s.listening = .sending ∨ s.listening = .reserving

/-- How many notifications a listener has sent for the result it has. -/
def Seat.due (s : Seat) : Nat := if s.listening = .reserving then 1 else 0

/-- As long as a worker has not left, it does not matter to its listener where it waits. -/
theorem Seat.IsQuiet.move {s s' : Seat} (h : s.IsQuiet) (hs : s.stage ≠ .exited)
    (hlistening : s'.listening = s.listening) (hconsumer : s'.hasConsumer = s.hasConsumer) :
    s'.IsQuiet := by
  rcases h with hl | ⟨hl, hnone⟩
  · exact .inl (hlistening.trans hl)
  · exact .inr ⟨hlistening.trans hl, .inl (hconsumer.trans (hnone.resolve_right hs))⟩

/-- In a quiet seat, a worker that is heard is heard by a listener that waits for results. -/
theorem Seat.IsQuiet.receiving {s : Seat} (h : s.IsQuiet) (hs : s.stage ≠ .exited)
    (hconsumer : s.hasConsumer = true) : s.listening = .receiving := by
  rcases h with hl | ⟨-, hnone⟩
  · exact hl
  · rw [hnone.resolve_right hs] at hconsumer
    cases hconsumer

/-- A listener that relays waits for the next result, or for room. -/
theorem Channel.Relays.stage {ch ch' : Channel} {p : Process} {t : ListenerStage}
    {news : List Event} (h : ch.Relays p t ch' news) :
    t = .receiving ∨ t = .sending ∨ t = .reserving := by
  cases h <;> simp

/-- What others see of a relay is news. -/
theorem Channel.Relays.isNews {ch ch' : Channel} {p : Process} {t : ListenerStage}
    {news events : List Event} (h : ch.Relays p t ch' news)
    (htold : events = news ∨ events = .published :: news) : ∀ ev ∈ events, ev.IsNews := by
  rcases htold with rfl | rfl <;> cases h <;> simp [Event.IsNews]

/-- A publication that goes before does not change how many notifications are sent. -/
theorem Channel.Relays.count_notified {ch ch' : Channel} {p : Process} {t : ListenerStage}
    {news events : List Event} (h : ch.Relays p t ch' news)
    (htold : events = news ∨ events = .published :: news) :
    events.count .notified = news.count .notified := by
  rcases htold with rfl | rfl
  · rfl
  · have hne : Event.published ≠ .notified := nofun
    exact List.count_cons_of_ne hne

/-- Where somebody listens, a listener that acknowledges has told of the result, and finds room for
    one notification more. -/
theorem Channel.Relays.tells {ch ch' : Channel} {p : Process} {t : ListenerStage}
    {news : List Event} (h : ch.Relays p t ch' news) (hopen : ch'.isOpen = true) (s : Seat) :
    news.count .notified = (if t = .receiving then 1 else 0) + (s.relayed t).due ∧
      (t = .receiving → ch'.unread < ch'.capacity) := by
  cases h with
  | waits => exact ⟨rfl, nofun⟩
  | unheard hclosed =>
    rw [show (ch.quit p).isOpen = ch.isOpen from rfl, hclosed] at hopen
    cases hopen
  | parks => exact ⟨rfl, nofun⟩
  | settles hopen _ hroom =>
    have hlt : ((ch.put p).join p).unread < ((ch.put p).join p).capacity :=
      room_pos_of_isReady hopen hroom
    exact ⟨rfl, fun _ => hlt⟩

/-- Whether a worker has a refresh under way. -/
def Crew.isRefreshing (k : Crew) (w : WorkerId) : Bool :=
  k.workers[w]?.any (·.stage.isRefreshing)

namespace Engine

variable {c : Config} {e e' : Engine} {a : Action} {events : List Event} {w : WorkerId}
  {b r k n : Nat} {s s' : Seat} {ts : List Transition}

/-! ### What is counted -/

/-- How many refreshes a worker has begun. -/
def begun (w : WorkerId) (ts : List Transition) : Nat :=
  (ts.flatMap (·.events)).count (.refreshBegan w)

/-- How many refreshes a worker has completed. -/
def completed (w : WorkerId) (ts : List Transition) : Nat :=
  (ts.flatMap (·.events)).countP (·.isRecordOf w)

/-- Whether the last result of a worker is acknowledged, and the worker has not noticed yet. -/
def isAcknowledged (e : Engine) (w : WorkerId) : Bool :=
  e.crew.workers[w]?.any (·.handover = .acknowledged)

/-- Whether a step acknowledges a result of a worker. -/
def Transition.acknowledges (w : WorkerId) (t : Transition) : Bool :=
  t.after.isAcknowledged w && !t.before.isAcknowledged w

/-- How many results of a worker have been acknowledged. -/
def acknowledged (w : WorkerId) (ts : List Transition) : Nat := ts.countP (·.acknowledges w)

/-- How many notifications the consumer has taken. -/
def consumed (ts : List Transition) : Nat := (ts.flatMap (·.events)).count .received

/-- How many notifications have been sent. -/
def sent (ts : List Transition) : Nat := (ts.flatMap (·.events)).count .notified

/-- How many notifications a step of the listener of a worker sends. -/
def Transition.tells (w : WorkerId) (t : Transition) : Nat :=
  match t.action with
  | .resume (.listener l) => if l = w then t.events.count .notified else 0
  | _ => 0

/-- How many notifications the listener of a worker has sent. -/
def told (w : WorkerId) (ts : List Transition) : Nat := (ts.map (·.tells w)).sum

section

variable (w : WorkerId) (ts : List Transition) (t : Transition)

/-- One step more adds the refreshes begun in it. -/
theorem begun_snoc : begun w (ts ++ [t]) = begun w ts + t.events.count (.refreshBegan w) := by
  rw [begun, List.flatMap_append, List.count_append, List.flatMap_singleton]
  rfl

/-- One step more adds the refreshes completed in it. -/
theorem completed_snoc :
    completed w (ts ++ [t]) = completed w ts + t.events.countP (·.isRecordOf w) := by
  rw [completed, List.flatMap_append, List.countP_append, List.flatMap_singleton]
  rfl

/-- One step more adds the acknowledgement it makes, if it makes one. -/
theorem acknowledged_snoc :
    acknowledged w (ts ++ [t]) = acknowledged w ts + if t.acknowledges w then 1 else 0 := by
  rw [acknowledged, List.countP_append, List.countP_singleton]
  rfl

/-- One step more adds the notifications taken in it. -/
theorem consumed_snoc : consumed (ts ++ [t]) = consumed ts + t.events.count .received := by
  rw [consumed, List.flatMap_append, List.count_append, List.flatMap_singleton]
  rfl

/-- One step more adds the notifications sent in it. -/
theorem sent_snoc : sent (ts ++ [t]) = sent ts + t.events.count .notified := by
  rw [sent, List.flatMap_append, List.count_append, List.flatMap_singleton]
  rfl

/-- One step more adds what the listener tells in it. -/
theorem told_snoc : told w (ts ++ [t]) = told w ts + t.tells w := by
  rw [told, List.map_append, List.sum_append]
  simp [told]

end

/-! ### The counts of a worker -/

/-- How many refreshes a worker has begun and completed, and how many of their results have been
    acknowledged, by the state of its seat. -/
inductive Tally : Option Seat → (begun completed acknowledged : Nat) → Prop
  | unborn : Tally none 0 0 0
  | resting {s : Seat} {k : Nat} (stage : s.stage.isResting = true) (handover : s.handover = .none)
      (quiet : s.IsQuiet) : Tally (some s) k k k
  | refreshing {s : Seat} {k : Nat} (stage : s.stage.isRefreshing = true)
      (handover : s.handover = .none) (quiet : s.IsQuiet) : Tally (some s) (k + 1) k k
  /-- A result is on its way, or with the listener. -/
  | owed {s : Seat} {k : Nat} (stage : s.stage = .awaiting ∨ s.stage = .exited)
      (handover : s.handover = .offered ∧ s.listening = .receiving ∨ s.handover = .taken ∧
        (s.listening = .locking ∨ s.listening = .sending ∨ s.listening = .reserving)) :
      Tally (some s) (k + 1) (k + 1) k
  | settled {s : Seat} {k : Nat} (stage : s.stage = .awaiting ∨ s.stage = .exited)
      (handover : s.handover = .acknowledged) (quiet : s.IsQuiet) :
      Tally (some s) (k + 1) (k + 1) (k + 1)
  /-- The result has been thrown away, and the worker will leave. -/
  | lost {s : Seat} {k : Nat} (stage : s.stage = .awaiting ∨ s.stage = .exited)
      (handover : s.handover = .dropped) (listening : s.listening = .ended) :
      Tally (some s) (k + 1) (k + 1) k
  | gone {s : Seat} {b r k : Nat} (stage : s.stage = .exited) (handover : s.handover = .none)
      (quiet : s.IsQuiet) (completed : k ≤ r) (begun : r ≤ b) (ahead : b ≤ k + 1) :
      Tally (some s) b r k

namespace Tally

/-- A worker completes at most one refresh that is not acknowledged. -/
theorem completed_le {s : Option Seat} (h : Tally s b r k) : r ≤ k + 1 := by
  cases h <;> omega

/-- A worker that may begin a refresh has none that is not acknowledged. -/
theorem of_isResting (h : Tally (some s) b r k) (hs : s.stage.isResting = true) :
    b = k ∧ r = k ∧ s.handover = .none ∧ s.IsQuiet := by
  cases h with
  | resting _ hhandover hquiet => exact ⟨rfl, rfl, hhandover, hquiet⟩
  | refreshing hstage =>
    cases hs' : s.stage <;> simp [hs', Worker.Stage.isResting, Worker.Stage.isRefreshing] at hs hstage
  | owed hstage | settled hstage | lost hstage =>
    rcases hstage with hstage | hstage <;> simp [hstage, Worker.Stage.isResting] at hs
  | gone hstage => simp [hstage, Worker.Stage.isResting] at hs

/-- A worker with a refresh under way has begun one more than were acknowledged. -/
theorem of_isRefreshing (h : Tally (some s) b r k) (hs : s.stage.isRefreshing = true) :
    b = k + 1 ∧ r = k ∧ s.handover = .none ∧ s.IsQuiet := by
  cases h with
  | refreshing _ hhandover hquiet => exact ⟨rfl, rfl, hhandover, hquiet⟩
  | resting hstage =>
    cases hs' : s.stage <;> simp [hs', Worker.Stage.isResting, Worker.Stage.isRefreshing] at hs hstage
  | owed hstage | settled hstage | lost hstage =>
    rcases hstage with hstage | hstage <;> simp [hstage, Worker.Stage.isRefreshing] at hs
  | gone hstage => simp [hstage, Worker.Stage.isRefreshing] at hs

/-- A listener at work has a result. -/
theorem owed_of_hasResult (h : Tally (some s) b r k) (hs : s.HasResult) :
    b = k + 1 ∧ r = k + 1 ∧ (s.stage = .awaiting ∨ s.stage = .exited) ∧
      (s.listening ≠ .receiving → s.handover = .taken) := by
  -- A quiet seat that has a result can only have it lying there, offered.
  have hbusy : s.IsQuiet → s.handover = .offered := by
    intro hquiet
    rcases hs with ⟨hoffered, -⟩ | hs
    · exact hoffered
    · rcases hquiet with hl | ⟨hl, -⟩ <;> simp [hl] at hs
  cases h with
  | owed hstage hhandover =>
    refine ⟨rfl, rfl, hstage, fun hl => ?_⟩
    rcases hhandover with ⟨-, h⟩ | ⟨h, -⟩
    · exact absurd h hl
    · exact h
  -- Here the seat is quiet and nothing is offered in it.
  | resting _ hhandover hquiet | refreshing _ hhandover hquiet | settled _ hhandover hquiet
  | gone _ hhandover hquiet =>
    rw [hbusy hquiet] at hhandover
    cases hhandover
  | lost _ hhandover hl => simp [Seat.HasResult, hl, hhandover] at hs

/-- A worker that ends a refresh leaves, or owes an acknowledgement. -/
theorem of_outcome {v v' : Worker} {l : ListenerStage} (h : v.Outcome v')
    (hstage : v.stage ≠ .exited) (hhandover : v.handover = .none)
    (hquiet : Seat.IsQuiet ⟨v.stage, v.handover, v.hasConsumer, l⟩) (k : Nat) :
    Tally (some ⟨v'.stage, v'.handover, v.hasConsumer, l⟩) (k + 1) (k + 1) k := by
  cases h with
  | lost hstage' hhandover' =>
    refine .gone hstage' (hhandover'.trans hhandover) (hquiet.move hstage rfl rfl) ?_ ?_ ?_ <;> omega
  | offered hstage' hhandover' hheard =>
    exact .owed hstage' (.inl ⟨hhandover', hquiet.receiving hstage hheard⟩)

/-- **A worker's own steps keep its counts.** -/
theorem act {v v' : Worker} {l : ListenerStage} {ms : List Event}
    (h : Tally (some ⟨v.stage, v.handover, v.hasConsumer, l⟩) b r k) (hp : v.Pace v' w ms) :
    Tally (some ⟨v'.stage, v'.handover, v.hasConsumer, l⟩) (b + ms.count (.refreshBegan w))
      (r + ms.countP (·.isRecordOf w)) k := by
  -- A worker that acts has not left, so its listener cannot have ended without its knowing.
  have hresting : v.stage.isResting = true → v.stage ≠ .exited := by
    intro hs hexited
    rw [hexited] at hs
    cases hs
  have hrefreshing : v.stage.isRefreshing = true → v.stage ≠ .exited := by
    intro hs hexited
    rw [hexited] at hs
    cases hs
  cases hp with
  | rests hs hs' hhandover' =>
    obtain ⟨rfl, rfl, hhandover, hquiet⟩ := h.of_isResting hs
    have hquiet' : Seat.IsQuiet ⟨v'.stage, v'.handover, v.hasConsumer, l⟩ :=
      hquiet.move (hresting hs) rfl rfl
    rcases hs' with hs' | hs'
    · exact .resting hs' (hhandover'.trans hhandover) hquiet'
    · exact .gone hs' (hhandover'.trans hhandover) hquiet' (Nat.le_refl _) (Nat.le_refl _)
        (Nat.le_succ _)
  | begins hs hs' hhandover' =>
    obtain ⟨rfl, rfl, hhandover, hquiet⟩ := h.of_isResting hs
    have hquiet' : Seat.IsQuiet ⟨v'.stage, v'.handover, v.hasConsumer, l⟩ :=
      hquiet.move (hresting hs) rfl rfl
    simpa [Event.isRecordOf] using Tally.refreshing hs' (hhandover'.trans hhandover) hquiet'
  | goesOn hs hs' hhandover' =>
    obtain ⟨rfl, rfl, hhandover, hquiet⟩ := h.of_isRefreshing hs
    have hquiet' : Seat.IsQuiet ⟨v'.stage, v'.handover, v.hasConsumer, l⟩ :=
      hquiet.move (hrefreshing hs) rfl rfl
    exact .refreshing hs' (hhandover'.trans hhandover) hquiet'
  | completes hs houtcome =>
    obtain ⟨rfl, rfl, hhandover, hquiet⟩ := h.of_isResting hs
    simpa [Event.isRecordOf] using of_outcome houtcome (hresting hs) hhandover hquiet _
  | concludes hs houtcome =>
    obtain ⟨rfl, rfl, hhandover, hquiet⟩ := h.of_isRefreshing hs
    simpa [Event.isRecordOf] using of_outcome houtcome (hrefreshing hs) hhandover hquiet _
  | leaves hs hs' hhandover' =>
    have hmove : v.stage ≠ .exited := by
      rw [hs]
      nofun
    -- It leaves with whatever has become of its last result.
    rw [hhandover']
    cases h with
    | resting hstage | refreshing hstage => simp [hs, Worker.Stage.isResting,
        Worker.Stage.isRefreshing] at hstage
    | owed _ hhandover => exact .owed (.inr hs') hhandover
    | settled _ hhandover hquiet => exact .settled (.inr hs') hhandover (hquiet.move hmove rfl rfl)
    | lost _ hhandover hl => exact .lost (.inr hs') hhandover hl
    | gone hstage => exact absurd hstage hmove
  | acknowledged hs hhandover hs' hhandover' =>
    have hmove : v.stage ≠ .exited := by
      rw [hs]
      nofun
    -- Only where the result is settled can its acknowledgement be seen.
    cases h with
    | resting hstage | refreshing hstage => simp [hs, Worker.Stage.isResting,
        Worker.Stage.isRefreshing] at hstage
    | owed _ howed => simp [hhandover] at howed
    | settled _ _ hquiet =>
      exact .resting (by rw [hs']; rfl) hhandover' (hquiet.move hmove rfl rfl)
    | lost _ hlost => simp [hhandover] at hlost
    | gone hstage => exact absurd hstage hmove

/-- A listener that ends before its time takes the result with it that it has. -/
theorem vacant (h : Tally (some s) b r k) : Tally (some s.vacant) b r k := by
  -- What is not with the listener stays as it is when the listener ends.
  have hquiet : s.IsQuiet → s.handover ≠ .offered → s.handover ≠ .taken →
      s.vacant.IsQuiet ∧ s.vacant.handover = s.handover := by
    intro _ hoffered htaken
    refine ⟨.inr ⟨rfl, .inl rfl⟩, if_neg ?_⟩
    rintro (h | h)
    · exact hoffered h
    · exact htaken h
  cases h with
  | resting hstage hhandover hq =>
    obtain ⟨hq', hsame⟩ := hquiet hq (by rw [hhandover]; nofun) (by rw [hhandover]; nofun)
    exact .resting hstage (hsame.trans hhandover) hq'
  | refreshing hstage hhandover hq =>
    obtain ⟨hq', hsame⟩ := hquiet hq (by rw [hhandover]; nofun) (by rw [hhandover]; nofun)
    exact .refreshing hstage (hsame.trans hhandover) hq'
  | owed hstage hhandover =>
    -- A result on its way is thrown away.
    refine .lost hstage (if_pos ?_) rfl
    rcases hhandover with ⟨h, -⟩ | ⟨h, -⟩
    · exact .inl h
    · exact .inr h
  | settled hstage hhandover hq =>
    obtain ⟨hq', hsame⟩ := hquiet hq (by rw [hhandover]; nofun) (by rw [hhandover]; nofun)
    exact .settled hstage (hsame.trans hhandover) hq'
  | lost hstage hhandover =>
    refine .lost hstage ((if_neg ?_).trans hhandover) rfl
    rw [hhandover]
    rintro (h | h) <;> cases h
  | gone hstage hhandover hq hcompleted hbegun hahead =>
    obtain ⟨hq', hsame⟩ := hquiet hq (by rw [hhandover]; nofun) (by rw [hhandover]; nofun)
    exact .gone hstage (hsame.trans hhandover) hq' hcompleted hbegun hahead

/-- A listener that ends when its worker has left leaves the counts as they are. -/
theorem ended (h : Tally (some s) b r k) (hstage : s.stage = .exited)
    (hhandover : s.handover ≠ .offered) (hlistening : s.listening = .receiving) :
    Tally (some { s with listening := .ended }) b r k := by
  have hquiet : Seat.IsQuiet { s with listening := .ended } := .inr ⟨rfl, .inr hstage⟩
  cases h with
  | resting hs | refreshing hs => simp [hstage, Worker.Stage.isResting, Worker.Stage.isRefreshing] at hs
  | owed _ howed => simp [hhandover, hlistening] at howed
  | settled hs hacked => exact .settled hs hacked hquiet
  | lost hs hdropped => exact .lost hs hdropped rfl
  | gone hs hnone _ hcompleted hbegun hahead => exact .gone hs hnone hquiet hcompleted hbegun hahead

/-- A listener that has come to tell of a result has it, and has not told of it. -/
theorem of_due {s₀ : Seat} (h : Tally (some s) b r k)
    (hdue : s.handover = .offered ∧ s.listening = .receiving ∧ s₀ = { s with handover := .taken } ∨
      (s.listening = .locking ∨ s.listening = .sending) ∧ s₀ = s) :
    s.HasResult ∧ s₀.stage = s.stage ∧ s₀.handover = .taken ∧
      (s.handover = .offered ∨ s.handover = .taken) ∧ s.due = 0 := by
  rcases hdue with ⟨hoffered, hl, rfl⟩ | ⟨hl, rfl⟩
  · exact ⟨.inl ⟨hoffered, hl⟩, rfl, rfl, .inl hoffered, if_neg (by rw [hl]; nofun)⟩
  · have hbusy : s₀.HasResult := by
      rcases hl with hl | hl
      · exact .inr (.inl hl)
      · exact .inr (.inr (.inl hl))
    obtain ⟨-, -, -, htaken⟩ := h.owed_of_hasResult hbusy
    have htaken := htaken (by rcases hl with hl | hl <;> rw [hl] <;> nofun)
    exact ⟨hbusy, rfl, htaken, .inr htaken, if_neg (by rcases hl with hl | hl <;> rw [hl] <;> nofun)⟩

/-- A listener at work acknowledges the result when it comes to wait for the next one. -/
theorem relayed {s₀ : Seat} {t : ListenerStage} (h : Tally (some s) b r k) (hs : s.HasResult)
    (hstage : s₀.stage = s.stage) (htaken : s₀.handover = .taken)
    (ht : t = .receiving ∨ t = .sending ∨ t = .reserving) :
    Tally (some (s₀.relayed t)) b r (k + if t = .receiving then 1 else 0) := by
  obtain ⟨rfl, rfl, hwaits, -⟩ := h.owed_of_hasResult hs
  have hwaits' : (s₀.relayed t).stage = .awaiting ∨ (s₀.relayed t).stage = .exited := by
    show s₀.stage = _ ∨ s₀.stage = _
    rw [hstage]
    exact hwaits
  by_cases hreceives : t = .receiving
  · rw [if_pos hreceives]
    exact .settled hwaits' (if_pos hreceives) (.inl hreceives)
  · rw [if_neg hreceives]
    exact .owed hwaits' (.inr ⟨(if_neg hreceives).trans htaken, .inr (ht.resolve_left hreceives)⟩)

end Tally

/-- Whether the last result of a seat is acknowledged, and the worker has not noticed yet. -/
def isSettled (s : Option Seat) : Bool := s.any (·.handover = .acknowledged)

/-- Whether a result is acknowledged can be read off the seat. -/
theorem isAcknowledged_eq (hp : Paired e) (w : WorkerId) :
    e.isAcknowledged w = isSettled (e.seat? w) := by
  rw [isAcknowledged]
  cases hv : e.crew.workers[w]? with
  | none => rw [seat?, hv]; rfl
  | some v =>
    obtain ⟨li, -, hseat⟩ := exists_seat hp hv
    rw [hseat]
    rfl

/-- What was settled before is not settled by a step. -/
theorem not_settles {s s' : Option Seat} (h : isSettled s' = true → isSettled s = true) :
    (isSettled s' && !isSettled s) = false := by
  cases hs' : isSettled s' with
  | false => rfl
  | true =>
    rw [h hs']
    rfl

/-- A result that the listener has is not acknowledged. -/
theorem isSettled_of_taken (h : s.handover = .taken) : isSettled (some s) = false := by
  refine decide_eq_false ?_
  rw [h]
  nofun

/-- A listener that ends acknowledges nothing. -/
theorem isSettled_of_vacant (h : isSettled (some s.vacant) = true) : isSettled (some s) = true := by
  have hvacant : s.vacant.handover = .acknowledged := of_decide_eq_true h
  refine decide_eq_true (?_ : s.handover = .acknowledged)
  rw [Seat.vacant] at hvacant
  dsimp only at hvacant
  split at hvacant
  · cases hvacant
  · exact hvacant

/-- A worker's own steps acknowledge nothing. -/
theorem isSettled_of_pace {v v' : Worker} {l : ListenerStage} {ms : List Event} (hp : v.Pace v' w ms)
    (h : isSettled (some ⟨v'.stage, v'.handover, v.hasConsumer, l⟩) = true) :
    isSettled (some ⟨v.stage, v.handover, v.hasConsumer, l⟩) = true := by
  have hsettled : v'.handover = .acknowledged := of_decide_eq_true h
  refine decide_eq_true (?_ : v.handover = .acknowledged)
  -- Only the listener acknowledges, so the acknowledgement was there before.
  have hkept : v'.handover = v.handover → v.handover = .acknowledged := fun heq =>
    heq.symm.trans hsettled
  have hended : v.Outcome v' → v.handover = .acknowledged := by
    intro houtcome
    cases houtcome with
    | lost _ heq => exact hkept heq
    | offered _ hoffered =>
      rw [hsettled] at hoffered
      cases hoffered
  cases hp with
  | rests _ _ heq | begins _ _ heq | goesOn _ _ heq | leaves _ _ heq => exact hkept heq
  | completes _ houtcome | concludes _ houtcome => exact hended houtcome
  | acknowledged _ heq => exact heq

/-- A listener at work settles what was not settled. -/
theorem settles_relayed {s₀ : Seat} {t : ListenerStage}
    (hs : s.handover = .offered ∨ s.handover = .taken) (htaken : s₀.handover = .taken) :
    (isSettled (some (s₀.relayed t)) && !isSettled (some s)) = decide (t = .receiving) := by
  have hbefore : isSettled (some s) = false := by
    refine decide_eq_false ?_
    rcases hs with hs | hs <;> rw [hs] <;> nofun
  rw [hbefore, Bool.not_false, Bool.and_true]
  by_cases ht : t = .receiving
  · rw [decide_eq_true ht]
    exact decide_eq_true (if_pos ht)
  · rw [decide_eq_false ht]
    refine decide_eq_false ?_
    rw [show (s₀.relayed t).handover = _ from if_neg ht, htaken]
    nofun

/-- **No step leads a worker's counts too far apart.** -/
theorem Tally.step (h : Tally (e.seat? w) b r k) (hp : Paired e) (hp' : Paired e')
    (hs : e.step? c a = some (e', events)) :
    Tally (e'.seat? w) (b + events.count (.refreshBegan w))
      (r + events.countP (·.isRecordOf w))
      (k + if Transition.acknowledges w ⟨e, a, e', events⟩ then 1 else 0) := by
  -- Everything is said of the seat first, so that its cases can be used.
  rw [Transition.acknowledges, isAcknowledged_eq hp, isAcknowledged_eq hp', Event.count_began,
    Event.countP_isRecordOf]
  cases seatCase_of_step? hp hs w with
  | rests hreseated _ hnone =>
    rw [hnone]
    cases hreseated with
    | same hsame =>
      rw [hsame, Bool.and_not_self]
      exact h
    | @vacated s hseat _ hseat' =>
      rw [hseat] at h
      rw [hseat, hseat', not_settles isSettled_of_vacant]
      exact h.vacant
    | hired hseat hseat' =>
      rw [hseat] at h ⊢
      rw [hseat']
      cases h
      exact .resting rfl rfl (.inl rfl)
  | works hseat hseat' hpace =>
    rw [hseat] at h ⊢
    rw [hseat', not_settles (isSettled_of_pace hpace)]
    exact h.act hpace
  | @ends s _ hseat hstage hhandover hlistening hseat' =>
    rw [hseat] at h ⊢
    have hkept : isSettled (some { s with listening := .ended }) = true →
        isSettled (some s) = true := fun hsettled => hsettled
    rw [hseat', not_settles hkept]
    exact h.ended hstage hhandover hlistening
  | queues hseat hhandover hlistening hseat' =>
    rw [hseat] at h ⊢
    rw [hseat', isSettled_of_taken rfl, Bool.false_and]
    obtain ⟨rfl, rfl, hstage, -⟩ := h.owed_of_hasResult (.inl ⟨hhandover, hlistening⟩)
    exact .owed hstage (.inr ⟨rfl, .inl rfl⟩)
  | @relays s s₀ t ch _ _ news hseat hdue _ hrelays htold hseat' =>
    rw [hseat] at h ⊢
    -- Wherever the listener came from, it has the result and has not acknowledged it.
    obtain ⟨hbusy, hstage, htaken, hhas, -⟩ := h.of_due hdue
    rw [hseat', settles_relayed hhas htaken, Event.milestones_of_isNews (hrelays.isNews htold)]
    simpa using h.relayed hbusy hstage htaken hrelays.stage
  | settles hseat hlistening _ _ hseat' =>
    rw [hseat] at h ⊢
    have hbusy : Seat.HasResult _ := .inr (.inr (.inr hlistening))
    obtain ⟨-, -, -, htaken⟩ := h.owed_of_hasResult hbusy
    have htaken := htaken (by rw [hlistening]; nofun)
    rw [hseat', settles_relayed (.inr htaken) htaken]
    exact h.relayed hbusy rfl htaken (.inl rfl)

/-! ### The notifications of its listener -/

/-- How many notifications a listener has sent, where a number of results has been acknowledged:
    one for each, and one for the result it has, if it waits for room for one more. -/
structure Told (s : Option Seat) (acknowledged told : Nat) : Prop where
  le : acknowledged ≤ told
  eq : s.any (·.handover = .dropped) = true ∨ told = acknowledged + s.elim 0 Seat.due

/-- A step that is not the listener's tells nothing of the listener. -/
theorem tells_of_ne (ha : a ≠ .resume (.listener w)) :
    Transition.tells w ⟨e, a, e', events⟩ = 0 := by
  unfold Transition.tells
  split
  · rename_i l heq
    refine if_neg fun hl => ha ?_
    rw [← hl]
    exact heq
  · rfl

/-- A listener's step tells what it sends. -/
theorem tells_of_eq : Transition.tells w ⟨e, .resume (.listener w), e', events⟩ =
    events.count .notified := if_pos rfl

namespace Told

/-- Where no result has been thrown away, the count is exact. -/
theorem exact (h : Told (some s) k n) (hs : s.handover ≠ .dropped) : n = k + s.due :=
  h.eq.resolve_left fun hdropped => hs (of_decide_eq_true hdropped)

/-- A listener has told enough if it has sent one notification for each result, and one for the
    result it has. -/
theorem of_exact (h : n = k + s.due) : Told (some s) k n :=
  ⟨h ▸ Nat.le_add_right _ _, .inr h⟩

/-- It matters only whether the listener has told of a result, unless the result is lost. -/
theorem move {s' : Seat} (h : Told (some s) k n) (hdue : s'.due = s.due)
    (hdropped : s.handover = .dropped → s'.handover = .dropped) : Told (some s') k n := by
  refine ⟨h.le, ?_⟩
  rcases h.eq with hlost | heq
  · exact .inl (decide_eq_true (hdropped (of_decide_eq_true hlost)))
  · exact .inr (heq.trans (by rw [Option.elim, Option.elim, hdue]))

/-- A listener that ends has told as much as it had. -/
theorem vacant (h : Told (some s) k n) (ht : Tally (some s) b r k) : Told (some s.vacant) k n := by
  refine ⟨h.le, ?_⟩
  by_cases hs : s.handover = .offered ∨ s.handover = .taken
  · exact .inl (decide_eq_true (if_pos hs))
  · rcases h.eq with hlost | heq
    · refine .inl (decide_eq_true ((if_neg hs).trans ?_))
      exact of_decide_eq_true hlost
    · -- A listener that waits for room for one more has a result.
      have hdue : s.due = 0 := by
        refine if_neg fun hl => hs (.inr ?_)
        obtain ⟨-, -, -, htaken⟩ := ht.owed_of_hasResult (.inr (.inr (.inr hl)))
        exact htaken (by rw [hl]; nofun)
      refine .inr (heq.trans ?_)
      show k + s.due = k + s.vacant.due
      rw [hdue]
      rfl

/-- A worker's own steps are none of its listener's business, but for a result thrown away. -/
theorem act {v v' : Worker} {l : ListenerStage} {ms : List Event}
    (h : Told (some ⟨v.stage, v.handover, v.hasConsumer, l⟩) k n)
    (ht : Tally (some ⟨v.stage, v.handover, v.hasConsumer, l⟩) b r k) (hp : v.Pace v' w ms) :
    Told (some ⟨v'.stage, v'.handover, v.hasConsumer, l⟩) k n := by
  refine h.move rfl fun hdropped => ?_
  have hdropped : v.handover = .dropped := hdropped
  have hnone : v.handover ≠ .none := by
    rw [hdropped]
    nofun
  cases hp with
  | leaves _ _ hhandover => exact hhandover.trans hdropped
  | rests hs | begins hs | completes hs => exact absurd (ht.of_isResting hs).2.2.1 hnone
  | goesOn hs | concludes hs => exact absurd (ht.of_isRefreshing hs).2.2.1 hnone
  | acknowledged _ hacked =>
    rw [hdropped] at hacked
    cases hacked

/-- **A listener tells of every result before it acknowledges it**, as long as somebody is there to
    be told, and then there is room for one notification more. -/
theorem step (h : Told (e.seat? w) k n) (ht : Tally (e.seat? w) b r k) (hp : Paired e)
    (hp' : Paired e') (hopen : e'.channel.isOpen = true) (hs : e.step? c a = some (e', events)) :
    Told (e'.seat? w) (k + if Transition.acknowledges w ⟨e, a, e', events⟩ then 1 else 0)
        (n + Transition.tells w ⟨e, a, e', events⟩) ∧
      (Transition.acknowledges w ⟨e, a, e', events⟩ = true →
        e'.channel.unread < e'.channel.capacity) := by
  rw [Transition.acknowledges, isAcknowledged_eq hp, isAcknowledged_eq hp']
  cases seatCase_of_step? hp hs w with
  | rests hreseated hother _ =>
    -- Others neither acknowledge nor tell.
    rw [tells_of_ne hother]
    cases hreseated with
    | same hsame =>
      rw [hsame, Bool.and_not_self]
      exact ⟨h, fun hf => absurd hf Bool.false_ne_true⟩
    | @vacated s hseat _ hseat' =>
      rw [hseat] at h ht
      rw [hseat, hseat', not_settles isSettled_of_vacant]
      exact ⟨h.vacant ht, fun hf => absurd hf Bool.false_ne_true⟩
    | hired hseat hseat' =>
      rw [hseat] at h ht ⊢
      rw [hseat']
      exact ⟨⟨h.le, .inr (h.eq.resolve_left Bool.false_ne_true)⟩,
        fun hf => absurd hf Bool.false_ne_true⟩
  | works hseat hseat' hpace =>
    rw [hseat] at h ht ⊢
    have hother : ∀ wa, Action.work w wa ≠ .resume (.listener w) := nofun
    rw [hseat', not_settles (isSettled_of_pace hpace), tells_of_ne (hother _)]
    exact ⟨h.act ht hpace, fun hf => absurd hf Bool.false_ne_true⟩
  | @ends s _ hseat _ _ hlistening hseat' =>
    rw [hseat] at h ⊢
    have hkept : isSettled (some { s with listening := .ended }) = true →
        isSettled (some s) = true := fun hsettled => hsettled
    rw [hseat', not_settles hkept, tells_of_eq]
    refine ⟨h.move ?_ fun hdropped => hdropped, fun hf => absurd hf Bool.false_ne_true⟩
    rw [Seat.due, Seat.due, hlistening]
    rfl
  | @queues s _ hseat hoffered hlistening hseat' =>
    rw [hseat] at h ⊢
    rw [hseat', isSettled_of_taken rfl, Bool.false_and, tells_of_eq]
    refine ⟨h.move ?_ fun hdropped => ?_, fun hf => absurd hf Bool.false_ne_true⟩
    · rw [Seat.due, Seat.due, hlistening]
      rfl
    · rw [hoffered] at hdropped
      cases hdropped
  | @relays s s₀ t ch _ _ news hseat hdue _ hrelays htold hseat' =>
    rw [hseat] at h ht ⊢
    obtain ⟨-, -, htaken, hhas, hnone⟩ := ht.of_due hdue
    obtain ⟨htells, hroom⟩ := hrelays.tells hopen s₀
    -- The result has not been thrown away, so the account is exact.
    have hexact : n = k + s.due := h.exact (by rcases hhas with h | h <;> rw [h] <;> nofun)
    rw [hseat', settles_relayed hhas htaken, tells_of_eq, hrelays.count_notified htold, htells]
    refine ⟨.of_exact ?_, fun ht => hroom (of_decide_eq_true ht)⟩
    simp only [decide_eq_true_eq]
    omega
  | @settles s _ hseat hlistening hready hchannel hseat' =>
    rw [hseat] at h ht ⊢
    obtain ⟨-, -, -, htaken⟩ := ht.owed_of_hasResult (.inr (.inr (.inr hlistening)))
    have htaken := htaken (by rw [hlistening]; nofun)
    have hexact : n = k + s.due := h.exact fun hdropped => nomatch hdropped.symm.trans htaken
    rw [Seat.due, if_pos hlistening] at hexact
    rw [hseat', settles_relayed (.inr htaken) htaken, tells_of_eq]
    refine ⟨.of_exact hexact, fun _ => ?_⟩
    rw [hchannel] at hopen ⊢
    have hlt : e.channel.unread < e.channel.capacity := Channel.room_pos_of_isReady hopen hready
    exact hlt

end Told

/-! ### What a worker uses up of the channel -/

/-- Only the consumer hangs up, and then for good. -/
theorem isOpen_of_step (hs : e.step? c a = some (e', events)) (h : e'.channel.isOpen = true) :
    a ≠ .hangUp ∧ e.channel.isOpen = true := by
  have ha : a ≠ .hangUp := by
    rintro rfl
    cases hs
    cases h
  exact ⟨ha, (carries_of_step hs ha).isOpen ▸ h⟩

/-- Nobody makes the channel larger or smaller. -/
theorem capacity_of_path {start : Engine} {allowed : Engine → Action → Prop}
    (hp : Path c allowed start ts e) : e.channel.capacity = start.channel.capacity := by
  refine hp.invariant (P := (·.channel.capacity = start.channel.capacity)) rfl ?_
  intro e a e' events h _ hs
  by_cases ha : a = .hangUp
  · subst ha
    cases hs
    exact h
  · exact (carries_of_step hs ha).capacity.trans h

/-- A listener tells no more than is sent. -/
theorem tells_le (w : WorkerId) (t : Transition) : t.tells w ≤ t.events.count .notified := by
  unfold Transition.tells
  split
  · split
    · exact Nat.le_refl _
    · exact Nat.zero_le _
  · exact Nat.zero_le _

/-- What a worker has done since it came, and what is in the channel: every result that has been
    acknowledged has been told of, and at the last acknowledgement there was room for one more
    notification. -/
structure Spending (w : WorkerId) (limit held : Nat) (ts : List Transition) (e : Engine) :
    Prop where
  capacity : e.channel.capacity = limit
  tally : Tally (e.seat? w) (begun w ts) (completed w ts) (acknowledged w ts)
  told : Told (e.seat? w) (acknowledged w ts) (told w ts)
  unread : e.channel.unread + consumed ts = held + sent ts
  told_le : Engine.told w ts ≤ sent ts
  spent : acknowledged w ts = 0 ∨ acknowledged w ts + held < limit + consumed ts

namespace Spending

variable {limit held : Nat}

/-- A step keeps the account: a refresh is paid for by a notification taken, or by room in the
    channel. -/
theorem step (h : Spending w limit held ts e) (hp : Paired e) (hp' : Paired e')
    (hopen : e'.channel.isOpen = true) (hs : e.step? c a = some (e', events)) :
    Spending w limit held (ts ++ [⟨e, a, e', events⟩]) e' := by
  have hcarries := carries_of_step hs (isOpen_of_step hs hopen).1
  have hcapacity := hcarries.capacity.trans h.capacity
  have hunread := hcarries.unread
  have htells := tells_le w ⟨e, a, e', events⟩
  obtain ⟨htold, hroom⟩ := h.told.step h.tally hp hp' hopen hs
  have hbefore := h.unread
  have htold_le := h.told_le
  have hunread' : e'.channel.unread + (consumed ts + events.count .received) =
      held + (sent ts + events.count .notified) := by
    omega
  refine ⟨hcapacity, ?_, ?_, ?_, ?_, ?_⟩
  · rw [begun_snoc, completed_snoc, acknowledged_snoc]
    exact h.tally.step hp hp' hs
  · rw [acknowledged_snoc, told_snoc]
    exact htold
  · rw [consumed_snoc, sent_snoc]
    exact hunread'
  · rw [told_snoc, sent_snoc]
    exact Nat.add_le_add htold_le htells
  · rw [acknowledged_snoc, consumed_snoc]
    by_cases hacks : Transition.acknowledges w ⟨e, a, e', events⟩ = true
    · -- As many notifications as acknowledgements have been sent, and there is still room.
      have hlt := hroom hacks
      have hle := htold.le
      rw [if_pos hacks] at hle ⊢
      dsimp only at htells ⊢
      omega
    · rw [if_neg hacks]
      have hspent := h.spent
      omega

/-- A worker completes no more refreshes than the consumer reads, plus the room there was. -/
theorem completed_le (h : Spending w limit held ts e) :
    completed w ts ≤ consumed ts + max 1 (limit - held) := by
  have hle := h.tally.completed_le
  have hspent := h.spent
  omega

end Spending

/-! ### Who else notifies -/

/-- Whether a call sends a notification in a step. -/
def Transition.notifiesDirectly (t : Transition) : Bool :=
  match t.action with
  | .resume (.call _) => t.events.contains .notified
  | _ => false

/-- Whether the listener of a seat has ended. -/
def HasEnded (s : Option Seat) : Prop := ∀ s', s = some s' → s'.listening = .ended

/-- Seats stay. -/
theorem isSome_seat_of_step (hp : Paired e) (hs : e.step? c a = some (e', events))
    (h : (e.seat? w).isSome = true) : (e'.seat? w).isSome = true := by
  cases seatCase_of_step? hp hs w with
  | rests hreseated =>
    cases hreseated with
    | same hsame => rwa [hsame]
    | vacated _ _ hseat' | hired _ hseat' => rw [hseat']; rfl
  | works _ hseat' | ends _ _ _ _ hseat' | queues _ _ _ hseat' | relays _ _ _ _ _ hseat'
  | settles _ _ _ _ hseat' => rw [hseat']; rfl

/-- A listener that has ended does not come back. -/
theorem hasEnded_of_step (hp : Paired e) (hs : e.step? c a = some (e', events))
    (hsome : (e.seat? w).isSome = true) (h : HasEnded (e.seat? w)) : HasEnded (e'.seat? w) := by
  obtain ⟨s, hseat⟩ := Option.isSome_iff_exists.1 hsome
  have hkept : ∀ {s' : Seat}, e'.seat? w = some s' → s'.listening = .ended →
      HasEnded (e'.seat? w) := by
    intro s' hseat' hended s'' hs''
    rw [hseat'] at hs''
    cases hs''
    exact hended
  have hactive : ∀ {s₁ : Seat}, e.seat? w = some s₁ → s₁.listening = .ended := h _
  cases seatCase_of_step? hp hs w with
  | rests hreseated =>
    cases hreseated with
    | same hsame => exact hkept (hsame.trans hseat) (h s hseat)
    | vacated hs₁ hne => exact absurd (hactive hs₁) hne
    | hired hnone =>
      rw [hnone] at hseat
      cases hseat
  | works hs₁ hseat' =>
    have hended := hactive hs₁
    exact hkept hseat' hended
  -- Only a listener that has not ended takes these steps.
  | ends hs₁ _ _ hl | queues hs₁ _ hl | settles hs₁ hl =>
    have hended := hactive hs₁
    rw [hl] at hended
    cases hended
  | relays hs₁ hdue =>
    have hended := hactive hs₁
    rcases hdue with ⟨-, hl, -⟩ | ⟨hl | hl, -⟩ <;>
    · rw [hl] at hended
      cases hended

/-- Who sends a notification is a call, or a listener that has not ended. -/
theorem teller_of_step (hs : e.step? c a = some (e', events)) (hnotified : .notified ∈ events) :
    (∃ id, a = .resume (.call id)) ∨
      ∃ l li, a = .resume (.listener l) ∧ e.listeners[l]? = some li ∧ li.stage ≠ .ended := by
  cases a with
  | alter | elapse | cancel | invoke | hangUp =>
    cases hs
    cases hnotified
  | abandon id =>
    obtain ⟨e₁, -, heq⟩ := Option.map_eq_some_iff.1 hs
    cases heq
    cases hnotified
  -- What the consumer does is to read.
  | receive =>
    obtain ⟨ch, -, heq⟩ := Option.map_eq_some_iff.1 hs
    cases heq
    cases List.mem_singleton.1 hnotified
  | work i wa =>
    obtain ⟨⟨crew, evs⟩, hact, heq⟩ := Option.map_eq_some_iff.1 hs
    cases heq
    exact absurd trivial (Crew.not_isNews_of_act? hact .notified hnotified)
  | resume p =>
    cases p with
    | call id => exact .inl ⟨id, rfl⟩
    | listener l =>
      refine .inr ⟨l, ?_⟩
      have hsplit : ∀ t, ListenerStep c e l t →
          ∃ li, Action.resume (.listener l) = .resume (.listener l) ∧ e.listeners[l]? = some li ∧
            li.stage ≠ .ended := by
        intro t ht
        cases ht with
        | ends hli | queues hli | takes hli | announces hli | delivers hli | settles hli =>
          exact ⟨_, rfl, hli, nofun⟩
      exact hsplit _ (listenerStep_of_resumeListener? hs)

/-- All listeners before that of a worker have ended; and all that has been sent since it came is
    from its own one, unless a newer worker has come. -/
structure Sole (w : WorkerId) (ts : List Transition) (e : Engine) : Prop where
  earlier : ∀ l : ListenerId, l < w → HasEnded (e.seat? l) ∧ (e.seat? l).isSome = true
  sent : sent ts = told w ts ∨ (e.seat? (w + 1)).isSome = true

/-- While nobody else notifies, what is sent is what the worker's listener tells. -/
theorem Sole.step (h : Sole w ts e) (hp : Paired e) (hs : e.step? c a = some (e', events))
    (hdirect : Transition.notifiesDirectly ⟨e, a, e', events⟩ = false) :
    Sole w (ts ++ [⟨e, a, e', events⟩]) e' := by
  refine ⟨fun l hl => ?_, ?_⟩
  · obtain ⟨hended, hsome⟩ := h.earlier l hl
    exact ⟨hasEnded_of_step hp hs hsome hended, isSome_seat_of_step hp hs hsome⟩
  rw [sent_snoc, told_snoc]
  -- As long as no newer worker is there, it matters who sends.
  rcases h.sent with hsent | hnewer
  · by_cases hnotified : .notified ∈ events
    · rcases teller_of_step hs hnotified with ⟨id, rfl⟩ | ⟨l, li, rfl, hli, hactive⟩
      · rw [Transition.notifiesDirectly, List.contains_iff_mem.2 hnotified] at hdirect
        cases hdirect
      · have hlt : l < e.crew.workers.length := by
          rw [← hp.length]
          exact (List.getElem?_eq_some_iff.1 hli).1
        -- The listeners before this one have ended; one after it belongs to a newer worker.
        rcases Nat.lt_trichotomy l w with hl | hl | hl
        · have hended := (h.earlier l hl).1 _ (seat?_of_some (List.getElem?_eq_getElem hlt) hli)
          exact absurd hended hactive
        · rw [← hl, tells_of_eq]
          left
          rw [← hl] at hsent
          rw [hsent]
        · right
          have hv := List.getElem?_eq_getElem (Nat.lt_of_le_of_lt hl hlt)
          obtain ⟨_, -, hseat⟩ := exists_seat hp hv
          exact isSome_seat_of_step hp hs (by rw [hseat]; rfl)
    · have hnone : events.count .notified = 0 := List.count_eq_zero.2 hnotified
      have htells := tells_le w ⟨e, a, e', events⟩
      left
      dsimp only at htells ⊢
      omega
  · exact .inr (isSome_seat_of_step hp hs hnewer)

/-! ### Whole runs -/

/-- A worker comes in a step. -/
def Transition.Hires (w : WorkerId) (t : Transition) : Prop :=
  t.before.crew.workers.length = w ∧ t.after.crew.workers.length = w + 1

instance (w : WorkerId) (t : Transition) : Decidable (t.Hires w) :=
  inferInstanceAs (Decidable (_ ∧ _))

/-- A worker that comes has a seat that nobody has had. -/
theorem seat?_of_hires (hp : Paired e) (hp' : Paired e') (hs : e.step? c a = some (e', events))
    (h : Transition.Hires w ⟨e, a, e', events⟩) : ∃ force, e'.seat? w = some (.fresh force) := by
  obtain ⟨hbefore, hafter⟩ := h
  -- Before the step the seat is empty, so the only way to it is a new worker.
  have hunborn : e.seat? w = none := by
    rw [seat?, List.getElem?_eq_none (Nat.le_of_eq hbefore)]
  have hlt : w < e'.crew.workers.length := hafter ▸ Nat.lt_succ_self w
  obtain ⟨_, -, hborn⟩ := exists_seat hp' (List.getElem?_eq_getElem hlt)
  cases seatCase_of_step? hp hs w with
  | rests hreseated =>
    cases hreseated with
    | same hsame =>
      rw [hsame, hunborn] at hborn
      cases hborn
    | vacated hs₁ =>
      rw [hunborn] at hs₁
      cases hs₁
    | hired _ hseat' => exact ⟨_, hseat'⟩
  | works hs₁ | ends hs₁ | queues hs₁ | relays hs₁ | settles hs₁ =>
    rw [hunborn] at hs₁
    cases hs₁

/-- A worker that is new has nothing to account for. -/
theorem spending_of_hires (hp : Paired e) (hp' : Paired e')
    (hs : e.step? c a = some (e', events)) (h : Transition.Hires w ⟨e, a, e', events⟩) :
    Spending w e'.channel.capacity e'.channel.unread [] e' ∧ Sole w [] e' := by
  obtain ⟨force, hseat⟩ := seat?_of_hires hp hp' hs h
  obtain ⟨v, li, hv, hli, hfresh⟩ := exists_of_seat? hseat
  refine ⟨⟨rfl, ?_, ?_, rfl, Nat.le_refl _, .inl rfl⟩, fun l hl => ?_, .inl rfl⟩
  · rw [hseat]
    exact .resting rfl rfl (.inl rfl)
  · rw [hseat]
    exact .of_exact rfl
  · have hlt : l < e'.crew.workers.length := by
      have hafter : e'.crew.workers.length = w + 1 := h.2
      rw [hafter]
      exact Nat.lt_succ_of_lt hl
    obtain ⟨lj, hlj, hseat'⟩ := exists_seat hp' (List.getElem?_eq_getElem hlt)
    refine ⟨fun s hs => ?_, by rw [hseat']; rfl⟩
    rw [hseat'] at hs
    cases hs
    -- The listener that the engine knows of is the new one.
    refine Classical.byContradiction fun hactive => ?_
    have hknown := hp'.known l lj hlj hactive
    have hstage : li.stage = .receiving := congrArg (·.listening) hfresh.symm
    have hnew := hp'.known w li hli (by rw [hstage]; nofun)
    rw [hknown] at hnew
    exact Nat.ne_of_lt hl (Option.some.inj hnew)

section

variable {start : Engine} {allowed : Engine → Action → Prop} {limit held : Nat}

/-- A channel that is open at the end of a path was open all along. -/
theorem isOpen_of_path (hp : Path c allowed start ts e) (h : e.channel.isOpen = true) :
    start.channel.isOpen = true := by
  induction hp with
  | nil => exact h
  | snoc _ _ hs ih => exact ih (isOpen_of_step hs h).2

/-- Along a path a worker's counts agree with its seat. -/
theorem tally_of_path (hr : Reachable c start) (hp : Path c allowed start ts e)
    (h : Tally (start.seat? w) 0 0 0) :
    Tally (e.seat? w) (begun w ts) (completed w ts) (acknowledged w ts) := by
  induction hp with
  | nil => exact h
  | snoc path _ hs ih =>
    have hr' := hr.path path
    rw [begun_snoc, completed_snoc, acknowledged_snoc]
    exact ih.step (paired_of_reachable hr') (paired_of_reachable (hr'.step hs)) hs

/-- Along a path a worker spends no more than it may. -/
theorem spending_of_path (hr : Reachable c start) (hp : Path c allowed start ts e)
    (h : Spending w limit held [] start) (hopen : e.channel.isOpen = true) :
    Spending w limit held ts e := by
  induction hp with
  | nil => exact h
  | snoc path _ hs ih =>
    have hr' := hr.path path
    exact (ih (isOpen_of_step hs hopen).2).step (paired_of_reachable hr')
      (paired_of_reachable (hr'.step hs)) hopen hs

/-- Along a path without notifications of others, only the worker's listener tells. -/
theorem sole_of_path (hr : Reachable c start) (hp : Path c allowed start ts e)
    (h : Sole w [] start) (hdirect : ∀ t ∈ ts, t.notifiesDirectly = false) : Sole w ts e := by
  induction hp with
  | nil => exact h
  | snoc path _ hs ih =>
    obtain ⟨hbefore, hlast⟩ := List.forall_mem_append.1 hdirect
    exact (ih hbefore).step (paired_of_reachable (hr.path path)) hs
      (hlast _ (List.mem_singleton_self _))

/-- A worker that begins a refresh had none under way. -/
theorem isResting_of_began (hp : Paired e) (hs : e.step? c a = some (e', events))
    (hb : .refreshBegan w ∈ events) :
    ∃ s, e.seat? w = some s ∧ s.stage.isResting = true := by
  have hmilestone : .refreshBegan w ∈ Event.milestones w events :=
    List.mem_filter.2 ⟨hb, decide_eq_true rfl⟩
  cases seatCase_of_step? hp hs w with
  | rests _ _ hquiet =>
    rw [hquiet] at hmilestone
    cases hmilestone
  | @works v v' _ _ _ _ hseat _ hpace =>
    generalize Event.milestones w events = ms at hpace hmilestone
    cases hpace with
    | begins hstage | completes hstage => exact ⟨_, hseat, hstage⟩
    | rests | goesOn | leaves | acknowledged => cases hmilestone
    | concludes => cases List.mem_singleton.1 hmilestone
  | ends | queues | settles => cases hb
  | relays _ _ _ hrelays htold => exact (hrelays.isNews htold _ hb).elim

/-- **Where the one notification that fits is unread, its worker begins nothing.** -/
theorem not_began_of_unread (hr : Reachable c e) (hsucc : Succession e)
    (hspend : Spending w 1 0 ts e) (hsole : Sole w ts e) (hunread : 0 < e.channel.unread)
    (hs : e.step? c a = some (e', events)) : .refreshBegan w ∉ events := by
  intro hb
  have hp := paired_of_reachable hr
  obtain ⟨s, hseat, hresting⟩ := isResting_of_began hp hs hb
  obtain ⟨v, li, hv, -, hs⟩ := exists_of_seat? hseat
  have hlive : e.crew.isLive w = true := by
    refine Crew.isLive_iff.2 ⟨v, hv, decide_eq_true fun hexited => ?_⟩
    rw [hs, show v.stage = _ from hexited] at hresting
    cases hresting
  have hnewest : e.seat? (w + 1) = none := by
    rw [seat?, List.getElem?_eq_none (Nat.le_of_eq (hsucc.newest w hlive).symm)]
  -- All that has been sent is acknowledged, and for the last of it there was room.
  have hsent := hsole.sent.resolve_right fun hnewer => by
    rw [hnewest] at hnewer
    cases hnewer
  have htally := hspend.tally
  have htold := hspend.told
  rw [hseat] at htally htold
  obtain ⟨-, -, hnone, hquiet⟩ := htally.of_isResting hresting
  have hdue : s.due = 0 := by
    refine if_neg fun hl => ?_
    rcases hquiet with h | ⟨h, -⟩ <;> rw [hl] at h <;> cases h
  have hexact := htold.exact fun hdropped => by cases hnone.symm.trans hdropped
  have hchannel := hspend.unread
  have hspent := hspend.spent
  omega

/-- **A worker never outruns its consumer.**  On a run on which no call is given up while it waits
    for a worker to leave, no other worker is live while one refreshes, so that at most one refresh
    is under way; and whenever a worker begins a refresh, as many of its results have been
    acknowledged as it has begun refreshes before.  From the step in which a worker comes, and as
    long as the consumer does not hang up, it completes no more refreshes than the consumer takes
    notifications and the channel has had room for then, or one if there was none.  So if the
    channel holds one notification and was empty then, and no call notifies meanwhile, the worker
    begins no refresh while a notification is unread, whatever else happens. -/
theorem single_flight {world : World} {capacity : Nat}
    (hp : Path c Patient (initial world capacity) ts e) :
    (∀ i j, e.crew.isRefreshing i = true → e.crew.isLive j = true → i = j) ∧
    (∀ us t vs w, ts = us ++ t :: vs → .refreshBegan w ∈ t.events →
      begun w us = acknowledged w us) ∧
    ∀ us t vs w, ts = us ++ t :: vs → t.Hires w → e.channel.isOpen = true →
      completed w vs ≤ consumed vs + max 1 (capacity - t.after.channel.unread) ∧
      (capacity = 1 → t.after.channel.unread = 0 → (∀ v ∈ vs, v.notifiesDirectly = false) →
        ∀ vs₁ v vs₂, vs = vs₁ ++ v :: vs₂ → 0 < v.before.channel.unread →
          .refreshBegan w ∉ v.events) := by
  have hr := reachable_initial c world capacity
  have hsucc := succession_initial world capacity
  refine ⟨fun i j hi hj => ?_, ?_, ?_⟩
  -- A worker with a refresh under way has not left.
  · obtain ⟨v, hv, hrefreshing⟩ := (Option.any_eq_true _ _).1 hi
    have hlive : e.crew.isLive i = true := by
      refine Crew.isLive_iff.2 ⟨v, hv, decide_eq_true fun hexited => ?_⟩
      rw [hexited] at hrefreshing
      cases hrefreshing
    exact (hsucc.path hr hp).unique hlive hj
  · rintro us t vs w rfl hb
    obtain ⟨m, hbefore, hafter⟩ := hp.split
    obtain ⟨rfl, -, hs, -⟩ := hafter.uncons
    -- A refresh begins from rest, where the counts agree.
    obtain ⟨s, hseat, hresting⟩ := isResting_of_began (paired_of_reachable (hr.path hbefore)) hs hb
    have htally := tally_of_path hr hbefore (w := w) .unborn
    rw [hseat] at htally
    exact (htally.of_isResting hresting).1
  · rintro us t vs w rfl hhires hopen
    obtain ⟨m, hbefore, hafter⟩ := hp.split
    obtain ⟨rfl, ok, hs, hrest⟩ := hafter.uncons
    have hm := hr.path hbefore
    have ht := hm.step hs
    -- The account starts anew with the worker that is hired.
    obtain ⟨hspend, hsole⟩ :=
      spending_of_hires (paired_of_reachable hm) (paired_of_reachable ht) hs hhires
    have hcapacity : t.after.channel.capacity = capacity := capacity_of_path (hbefore.snoc ok hs)
    rw [hcapacity] at hspend
    refine ⟨(spending_of_path ht hrest hspend hopen).completed_le, ?_⟩
    rintro hone hnone hdirect vs₁ v vs₂ rfl hunread
    obtain ⟨n, hbetween, hfrom⟩ := hrest.split
    obtain ⟨rfl, -, hv, -⟩ := hfrom.uncons
    obtain ⟨hquiet, -⟩ := List.forall_mem_append.1 hdirect
    rw [hone, hnone] at hspend
    have hsucc' : Succession v.before :=
      ((hsucc.path hr hbefore).step (custody_of_reachable hm) ok hs).path ht hbetween
    exact not_began_of_unread (ht.path hbetween) hsucc'
      (spending_of_path ht hbetween hspend (isOpen_of_path hfrom hopen))
      (sole_of_path ht hbetween hsole hquiet) hunread hv

end

/-- A worker refreshes twice while the consumer reads once.  Its second notification stays
    unread. -/
def parked : List Transition × Engine :=
  follow .remote (initial { now := 10000 } 1)
    [.invoke (.start 0), .resume (.call 0), .work 0 .start,
      .work 0 (.manifestAnswered (.error .failed) true), .resume (.listener 0), .receive,
      .resume (.listener 0), .work 0 .resume, .elapse 60000000000,
      .alter { lastRefresh := 10000, now := 20000 }, .work 0 .tick,
      .work 0 (.manifestAnswered (.error .failed) true), .resume (.listener 0),
      .elapse 600000000000]

/-- What is to be seen of the parked run, checked by running it. -/
theorem parked_facts : (∀ t ∈ parked.1, Patient t.before t.action) ∧
    parked.2.channel.isOpen = true ∧
    (parked.1[1]?).any (fun t => decide (t.Hires 0) && t.after.channel.unread = 0) = true ∧
    (parked.1[10]?).any (·.events.contains (.refreshBegan 0)) = true ∧
    acknowledged 0 (parked.1.take 10) = 1 ∧
    (∀ v ∈ parked.1.drop 2, v.notifiesDirectly = false) ∧
    completed 0 (parked.1.drop 2) = 2 ∧ consumed (parked.1.drop 2) = 1 ∧
    (parked.1[13]?).any (fun v => decide (0 < v.before.channel.unread)) = true := by
  decide +kernel

/-- The parked run keeps to its bounds: one refresh is under way at a time, two are completed for
    one notification read, and none begins before there is room. -/
theorem single_flight_parked :
    (∀ i j, parked.2.crew.isRefreshing i = true → parked.2.crew.isLive j = true → i = j) ∧
    begun 0 (parked.1.take 10) = 1 ∧
    (completed 0 (parked.1.drop 2) = 2 ∧
      completed 0 (parked.1.drop 2) ≤ consumed (parked.1.drop 2) + max 1 (1 - 0)) ∧
    ∃ v, parked.1[13]? = some v ∧ 0 < v.before.channel.unread ∧ .refreshBegan 0 ∉ v.events := by
  obtain ⟨hok, hopen, hhires, hbegan, hacked, hdirect, hcompleted, hconsumed, hunread⟩ := parked_facts
  have hpath : Path .remote Patient (initial { now := 10000 } 1) parked.1 parked.2 := path_follow hok
  obtain ⟨hlone, hbegins, hspends⟩ := single_flight hpath
  obtain ⟨t, ht, hhires⟩ := (Option.any_eq_true _ _).1 hhires
  obtain ⟨u, hu, hbegan⟩ := (Option.any_eq_true _ _).1 hbegan
  obtain ⟨v, hv, hunread⟩ := (Option.any_eq_true _ _).1 hunread
  obtain ⟨hhires, hnone⟩ := Bool.and_eq_true_iff.1 hhires
  have hnone := of_decide_eq_true hnone
  obtain ⟨hle, hparks⟩ :=
    hspends _ t _ 0 (cut_of_getElem? ht) (of_decide_eq_true hhires) hopen
  rw [hnone] at hle
  refine ⟨hlone, ?_, ⟨hcompleted, hle⟩, v, hv, of_decide_eq_true hunread, ?_⟩
  -- The step in which the second refresh begins, and the one in which it cannot.
  · exact (hbegins _ u _ 0 (cut_of_getElem? hu) (List.contains_iff_mem.1 hbegan)).trans hacked
  · have hv' : (parked.1.drop 2)[11]? = some v := by
      rw [List.getElem?_drop]
      exact hv
    exact hparks rfl hnone hdirect _ v _ (cut_of_getElem? hv') (of_decide_eq_true hunread)

end Engine

end TokenCatalog
