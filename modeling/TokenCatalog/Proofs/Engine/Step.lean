import TokenCatalog.Engine.Step
import TokenCatalog.Proofs.Engine.Call

namespace TokenCatalog

/-!
# Steps — who does what

* `Steady` — a state in which nobody has hired or dismissed a worker, and no call has moved;
* `StepCase` — every step is steady, or a call comes, goes, or runs;
* `stage?` — where a call waits; `moves_cases` and `stage?_of_isOver` say when it moves;
* `exists_act_of_step` — only workers begin refreshes and send requests.
-/

/-- Whether a call that is there has returned or been given up. -/
def CallStage.IsOver : CallStage → Prop
  | .returned _ | .abandoned => True
  | _ => False

namespace Engine

variable {c : Config} {e e' : Engine} {a : Action} {events : List Event} {id j : CallId}

/-- Where a call waits. -/
def stage? (e : Engine) (id : CallId) : Option CallStage := e.calls[id]?.map (·.stage)

/-- Nobody has hired or dismissed a worker, and no call has moved. -/
structure Steady (e e' : Engine) : Prop where
  worker : e'.worker = e.worker
  lifecycle : e'.lifecycle = e.lifecycle
  wasPrivate : e'.wasPrivate = e.wasPrivate
  token : e'.token = e.token
  calls : e'.calls = e.calls
  holds : ∀ id, e.holds (.call id) = true → e'.holds (.call id) = true
  ages : e.crew.Ages e'.crew

/-- What listeners leave alone hires nobody and moves no call. -/
theorem Keeps.steady (h : Keeps e e') : Steady e e' :=
  ⟨h.worker, h.lifecycle, h.wasPrivate, h.token, h.calls, h.holds, .of_bare h.crew⟩

/-- A crew that ages hires nobody and moves no call. -/
theorem Steady.setCrew {crew : Crew} (h : e.crew.Ages crew) : Steady e { e with crew } :=
  ⟨rfl, rfl, rfl, rfl, rfl, fun _ hid => hid, h⟩

/-- Whether an action moves a call that is there. -/
def Action.Moves (id : CallId) : Action → Prop
  | .resume (.call j) => j = id
  | .abandon j => j = id
  | _ => False

/-- A call is given up where it waits, with its place in the queue. -/
structure Abandons (id : CallId) (e e' : Engine) : Prop where
  pending : ∀ s, e.stage? id = some s → ¬ s.IsOver
  eq : e' = { e.setCall id .abandoned with lock := e'.lock, channel := e'.channel }
  lock : e'.lock = e.lock ∨ e'.lock = e.lock.erase (.call id)

/-- Everything a step can be. -/
inductive StepCase (c : Config) (e : Engine) : Action → Engine → List Event → Prop
  | steady {a : Action} {e' : Engine} {events : List Event} (steady : Steady e e')
      (other : ∀ id, ¬ a.Moves id) : StepCase c e a e' events
  | invoke (call : Call) : StepCase c e (.invoke call) (e.invoke call) []
  | abandon {id : CallId} {e' : Engine} (abandoned : Abandons id e e') :
      StepCase c e (.abandon id) e' []
  | resume {id : CallId} {e' : Engine} {events : List Event}
      (resumed : e.resumeCall? c id = some (e', events)) :
      StepCase c e (.resume (.call id)) e' events

/-- A call that can be abandoned is given up where it waits. -/
theorem abandons_of_abandonCall? (h : e.abandonCall? id = some e') : Abandons id e e' := by
  unfold abandonCall? at h
  split at h
  · cases h
  · rename_i p hp
    -- A call is given up only while it waits.
    have hpending : ¬ p.stage.IsOver → ∀ s, e.stage? id = some s → ¬ s.IsOver := by
      intro hwaits s hs
      rw [stage?, hp] at hs
      cases hs
      exact hwaits
    split at h
    · rename_i hstage
      cases h
      exact ⟨hpending (by rw [hstage]; exact not_false), rfl, .inr rfl⟩
    · rename_i hstage
      cases h
      exact ⟨hpending (by rw [hstage]; exact not_false), rfl, .inr rfl⟩
    · rename_i hstage
      cases h
      exact ⟨hpending (by rw [hstage]; exact not_false), rfl, .inl rfl⟩
    · cases h
    · cases h

/-- Every step is one of the steps there are. -/
theorem stepCase_of_step? (h : e.step? c a = some (e', events)) : StepCase c e a e' events := by
  cases a with
  | alter world =>
    cases h
    exact .steady (.setCrew (.of_workers rfl)) fun _ => id
  | elapse n =>
    cases h
    exact .steady (.setCrew (.of_workers rfl)) fun _ => id
  | cancel token =>
    cases h
    exact .steady (.setCrew (.of_workers rfl)) fun _ => id
  | invoke call =>
    cases h
    exact .invoke call
  | abandon i =>
    obtain ⟨e₁, he₁, heq⟩ := Option.map_eq_some_iff.1 h
    cases heq
    exact .abandon (abandons_of_abandonCall? he₁)
  | resume p =>
    cases p with
    | call i => exact .resume h
    | listener i => exact .steady (Keeps.resumeListener? h).steady fun _ => id
  | work i wa =>
    obtain ⟨⟨crew, evs⟩, hact, heq⟩ := Option.map_eq_some_iff.1 h
    cases heq
    exact .steady (.setCrew (Crew.ages_of_act? hact)) fun _ => id
  | receive =>
    obtain ⟨channel, -, heq⟩ := Option.map_eq_some_iff.1 h
    cases heq
    exact .steady (Keeps.setChannel e channel).steady fun _ => id
  | hangUp =>
    cases h
    exact .steady (Keeps.setChannel e _).steady fun _ => id

/-! ### Where calls wait -/

/-- A call that is there waits at its stage. -/
theorem stage?_of_getElem? {p : PendingCall} (h : e.calls[id]? = some p) :
    e.stage? id = some p.stage := by
  rw [stage?, h]
  rfl

/-- Where a call waits depends on the calls alone. -/
theorem stage?_of_calls (h : e'.calls = e.calls) (id : CallId) : e'.stage? id = e.stage? id := by
  rw [stage?, stage?, h]

/-- Moving one call moves no other. -/
theorem stage?_modify {s : CallStage}
    (h : e'.calls = e.calls.modify id ({ · with stage := s })) (j : CallId) :
    e'.stage? j = if id = j then (e.stage? j).map fun _ => s else e.stage? j := by
  rw [stage?, stage?, h, List.getElem?_modify]
  by_cases hj : id = j
  · rw [if_pos hj]
    cases e.calls[j]? <;> simp [hj]
  · rw [if_neg hj]
    cases e.calls[j]? <;> simp [hj]

/-- Where a call has been moved to. -/
theorem stage?_modify_self {p : PendingCall} {s : CallStage} (hp : e.calls[id]? = some p)
    (h : e'.calls = e.calls.modify id ({ · with stage := s })) : e'.stage? id = some s := by
  rw [stage?_modify h, if_pos rfl, stage?, hp]
  rfl

/-- When a call is moved, those that wait elsewhere are other ones, and waited there before. -/
theorem stage?_of_modify {s s' : CallStage}
    (h : e'.calls = e.calls.modify id ({ · with stage := s })) (hj : e'.stage? j = some s')
    (hs : s ≠ s') : j ≠ id ∧ e.stage? j = some s' := by
  rw [stage?_modify h] at hj
  by_cases hjid : id = j
  · rw [if_pos hjid] at hj
    obtain ⟨_, _, heq⟩ := Option.map_eq_some_iff.1 hj
    exact absurd heq hs
  · rw [if_neg hjid] at hj
    exact ⟨Ne.symm hjid, hj⟩

/-- A call that is clear waits for no worker. -/
theorem ne_joining_of_isClear {s : CallStage} (hs : s.IsClear) (w : WorkerId)
    (next : AfterLeave) : s ≠ .joining w next := by
  rintro rfl
  exact hs

/-- A new call comes last, and waits for the lock. -/
theorem getElem?_calls_invoke (e : Engine) (call : Call) :
    (e.invoke call).calls[e.calls.length]? = some ⟨call, .locking⟩ := by
  exact List.getElem?_concat_length

/-- A new call moves no other. -/
theorem stage?_invoke (e : Engine) (call : Call) (j : CallId) :
    (e.invoke call).stage? j = if j = e.calls.length then some .locking else e.stage? j := by
  show ((e.calls ++ [{ call := call }])[j]?).map _ = _
  rw [getElem?_snoc]
  split <;> rfl

/-- A call that is given up is marked so. -/
theorem Abandons.calls (h : Abandons id e e') :
    e'.calls = e.calls.modify id ({ · with stage := .abandoned }) := by
  rw [h.eq]
  rfl

/-- Giving up a call does not touch the workers. -/
theorem Abandons.crew (h : Abandons id e e') : e'.crew = e.crew := by
  rw [h.eq]
  rfl

/-- Giving up a call does not touch the worker the engine has. -/
theorem Abandons.worker (h : Abandons id e e') : e'.worker = e.worker := by
  rw [h.eq]
  rfl

/-- **A call waits where it waits until it moves.** -/
theorem getElem?_calls_of_step {p : PendingCall} (h : e.step? c a = some (e', events))
    (hp : e.calls[id]? = some p) (ha : ¬ a.Moves id) : e'.calls[id]? = some p := by
  cases stepCase_of_step? h with
  | steady hsteady => rw [hsteady.calls, hp]
  | invoke call =>
    show (e.calls ++ [{ call := call }])[id]? = some p
    rw [List.getElem?_append_left (List.getElem?_eq_some_iff.1 hp).1, hp]
  | @abandon i _ habandon =>
    have hi : i ≠ id := ha
    rw [habandon.calls, List.getElem?_modify_ne _ _ hi, hp]
  | @resume i _ _ hresume =>
    have hi : i ≠ id := ha
    obtain ⟨s', hs'⟩ := calls_resumeCall? hresume
    have hcalls : e'.calls = _ := hs'
    rw [hcalls, List.getElem?_modify_ne _ _ hi, hp]

/-- A call that moves is given up, or runs. -/
theorem moves_cases (h : e.step? c a = some (e', events)) (ha : a.Moves id) :
    (a = .abandon id ∧ Abandons id e e') ∨
      a = .resume (.call id) ∧ e.resumeCall? c id = some (e', events) := by
  cases stepCase_of_step? h with
  | steady _ hother => exact absurd ha (hother id)
  | invoke call => exact ha.elim
  | @abandon i _ habandon =>
    cases ha
    exact .inl ⟨rfl, habandon⟩
  | @resume i _ _ hresume =>
    cases ha
    exact .inr ⟨rfl, hresume⟩

/-- A call that runs is not over. -/
theorem not_isOver_of_resumeCall? {s : CallStage} {t : Turn} (h : e.resumeCall? c id = some t)
    (hs : e.stage? id = some s) : ¬ s.IsOver := by
  intro hover
  cases callStep_of_resumeCall? h with
  | run hpending | left hpending | sent hpending =>
    rw [stage?, hpending] at hs
    cases hs
    exact hover

/-- A call that is over moves no more. -/
theorem not_moves_of_isOver {s : CallStage} (h : e.step? c a = some (e', events))
    (hs : e.stage? id = some s) (hover : s.IsOver) : ¬ a.Moves id := by
  intro ha
  rcases moves_cases h ha with ⟨-, habandon⟩ | ⟨-, hresume⟩
  · exact habandon.pending s hs hover
  · exact not_isOver_of_resumeCall? hresume hs hover

/-- A step that does not move a call leaves it where it waits. -/
theorem stage?_of_not_moves {s : CallStage} (h : e.step? c a = some (e', events))
    (hs : e.stage? id = some s) (ha : ¬ a.Moves id) : e'.stage? id = some s := by
  obtain ⟨p, hp, rfl⟩ := Option.map_eq_some_iff.1 hs
  rw [stage?, getElem?_calls_of_step h hp ha]
  rfl

/-- A call that is over stays over. -/
theorem stage?_of_isOver {s : CallStage} (h : e.step? c a = some (e', events))
    (hs : e.stage? id = some s) (hover : s.IsOver) : e'.stage? id = some s :=
  stage?_of_not_moves h hs (not_moves_of_isOver h hs hover)

/-- Whether a call has returned without an error. -/
def hasSucceeded (e : Engine) (id : CallId) : Bool :=
  match e.stage? id with
  | some (.returned (.ok ())) => true
  | _ => false

/-- A call has succeeded exactly when it has returned without an error. -/
theorem hasSucceeded_iff : e.hasSucceeded id = true ↔ e.stage? id = some (.returned (.ok ())) := by
  unfold hasSucceeded
  split
  · rename_i h
    exact ⟨fun _ => h, fun _ => rfl⟩
  · rename_i h
    exact ⟨fun h' => absurd h' Bool.false_ne_true, fun h' => absurd h' h⟩

/-- An engine that has started is never again one that has not. -/
theorem lifecycle_of_step (h : e.lifecycle ≠ .unstarted) (hs : e.step? c a = some (e', events)) :
    e'.lifecycle ≠ .unstarted := by
  cases stepCase_of_step? hs with
  | steady hsteady =>
    rw [hsteady.lifecycle]
    exact h
  | invoke => exact h
  | @abandon i _ habandon =>
    rw [habandon.eq]
    exact h
  | @resume i _ _ hresume =>
    refine callInvariant_lifecycle.resumeCall? h (fun call => ?_) hresume
    rw [lifecycle_note h c call]
    exact h

/-! ### Who does what others see -/

/-- What a worker can do makes a step. -/
theorem step?_work {i : WorkerId} {w : Worker} {wa : Worker.Action} {t : Worker.Turn}
    (hw : e.crew.workers[i]? = some w)
    (ht : w.act? ⟨c, e.crew.world, e.crew.clock, e.crew.isCancelled w, i⟩ wa = some t) :
    e.step? c (.work i wa) =
      some ({ e with
        crew := { e.crew with world := t.world, workers := e.crew.workers.set i t.worker } },
        t.events) := by
  simp only [step?, Crew.act?, hw, ht, Option.map_some]

/-- **Only workers refresh.**  Whatever is neither published nor notified is a worker's doing. -/
theorem exists_act_of_step {ev : Event} (h : e.step? c a = some (e', events)) (hev : ev ∈ events)
    (hnews : ¬ ev.IsNews) :
    ∃ i wa crew, a = .work i wa ∧ e.crew.act? c i wa = some (crew, events) ∧
      e' = { e with crew } := by
  cases a with
  | alter | elapse | cancel | invoke | hangUp =>
    cases h
    exact absurd hev List.not_mem_nil
  | abandon i =>
    obtain ⟨e₁, -, heq⟩ := Option.map_eq_some_iff.1 h
    cases heq
    exact absurd hev List.not_mem_nil
  | resume p =>
    cases p with
    | call i => exact absurd (isNews_resumeCall? h ev hev) hnews
    | listener i => exact absurd (isNews_resumeListener? h ev hev) hnews
  | work i wa =>
    obtain ⟨⟨crew, evs⟩, hact, heq⟩ := Option.map_eq_some_iff.1 h
    cases heq
    exact ⟨i, wa, crew, rfl, hact, rfl⟩
  | receive =>
    obtain ⟨channel, -, heq⟩ := Option.map_eq_some_iff.1 h
    cases heq
    rw [List.mem_singleton.1 hev] at hnews
    exact absurd trivial hnews

end Engine

end TokenCatalog
