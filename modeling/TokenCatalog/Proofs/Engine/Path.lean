import TokenCatalog.Engine.Step

namespace TokenCatalog

/-!
# Paths — runs on which something is promised

A property of an engine over time holds while the application, the network and the callers keep a
promise: the guard stays on, a token is not cancelled.  A path is a run every step of which keeps
it.

* `Path` — a run from a state, each step of which is allowed where it is taken;
* `Offline` — the promise that the guard is on;
* `Path.invariant` — what the steps of a path preserve;
* `follow` — the path that given actions make;
* `Reachable.invariant`, `Reachable.path` — what all steps preserve, and where paths lead.
-/

namespace Engine

/-- A step, with the states before and after it. -/
structure Transition where
  before : Engine
  action : Action
  after : Engine
  events : List Event

/-- A run from a state, each step of which is allowed where it is taken. -/
inductive Path (c : Config) (allowed : Engine → Action → Prop) (start : Engine) :
    List Transition → Engine → Prop
  | nil : Path c allowed start [] start
  | snoc {ts : List Transition} {e e' : Engine} {a : Action} {events : List Event}
      (path : Path c allowed start ts e) (ok : allowed e a)
      (h : e.step? c a = some (e', events)) :
      Path c allowed start (ts ++ [⟨e, a, e', events⟩]) e'

/-- The promise that the guard is on, or cannot be read. -/
def Offline (e : Engine) (_ : Action) : Prop := e.crew.world.isOffline = true

instance (e : Engine) (a : Action) : Decidable (Offline e a) :=
  inferInstanceAs (Decidable (_ = true))

variable {c : Config} {allowed : Engine → Action → Prop} {start e e' : Engine}
  {ts : List Transition} {P : Engine → Prop}

namespace Path

/-- What a path's steps preserve holds before each of them, and at the end. -/
theorem invariant_before (hp : Path c allowed start ts e) (h₀ : P start)
    (hstep : ∀ e a e' events, P e → allowed e a → e.step? c a = some (e', events) → P e') :
    (∀ t ∈ ts, P t.before) ∧ P e := by
  induction hp with
  | nil => exact ⟨fun t ht => absurd ht List.not_mem_nil, h₀⟩
  | snoc _ ok h ih =>
    obtain ⟨hbefore, hend⟩ := ih
    refine ⟨fun t ht => ?_, hstep _ _ _ _ hend ok h⟩
    rcases List.mem_append.1 ht with ht | ht
    · exact hbefore t ht
    · rw [List.mem_singleton.1 ht]
      exact hend

/-- What a path's steps preserve holds at its end. -/
theorem invariant (hp : Path c allowed start ts e) (h₀ : P start)
    (hstep : ∀ e a e' events, P e → allowed e a → e.step? c a = some (e', events) → P e') : P e :=
  (hp.invariant_before h₀ hstep).2

/-- Every step of a path is allowed, and leads where the path says. -/
theorem step_of_mem (hp : Path c allowed start ts e) {t : Transition} (ht : t ∈ ts) :
    allowed t.before t.action ∧ t.before.step? c t.action = some (t.after, t.events) := by
  induction hp with
  | nil => exact absurd ht List.not_mem_nil
  | snoc _ ok h ih =>
    rcases List.mem_append.1 ht with ht | ht
    · exact ih ht
    · rw [List.mem_singleton.1 ht]
      exact ⟨ok, h⟩

/-- What the steps of one path preserve holds at its end. -/
theorem preserves (hp : Path c allowed start ts e) (h₀ : P start)
    (hstep : ∀ t ∈ ts, P t.before → allowed t.before t.action →
      t.before.step? c t.action = some (t.after, t.events) → P t.after) : P e := by
  induction hp with
  | nil => exact h₀
  | snoc _ ok hs ih =>
    have hbefore := ih fun t ht => hstep t (List.mem_append_left _ ht)
    exact hstep _ (List.mem_append_right _ (List.mem_singleton_self _)) hbefore ok hs

/-- A path is a path under any promise that its steps keep. -/
theorem weaken {allowed' : Engine → Action → Prop} (hp : Path c allowed start ts e)
    (h : ∀ t ∈ ts, allowed' t.before t.action) : Path c allowed' start ts e := by
  induction hp with
  | nil => exact .nil
  | snoc _ _ hs ih =>
    obtain ⟨hbefore, hlast⟩ := List.forall_mem_append.1 h
    exact (ih hbefore).snoc (hlast _ (List.mem_singleton_self _)) hs

/-- A path leads through a state wherever its steps are cut in two. -/
theorem split {us vs : List Transition} (hp : Path c allowed start (us ++ vs) e) :
    ∃ m, Path c allowed start us m ∧ Path c allowed m vs e := by
  generalize hts : us ++ vs = ts at hp
  -- The path grows at its end, so the induction is on the whole of it.
  induction hp generalizing vs with
  | nil =>
    obtain ⟨rfl, rfl⟩ := List.append_eq_nil_iff.1 hts
    exact ⟨start, .nil, .nil⟩
  | snoc path ok h ih =>
    rcases List.eq_nil_or_concat vs with rfl | ⟨vs', t, rfl⟩
    · rw [List.append_nil] at hts
      rw [hts]
      exact ⟨_, path.snoc ok h, .nil⟩
    · rw [List.concat_eq_append, ← List.append_assoc] at hts
      obtain ⟨rfl, hlast⟩ := List.append_inj' hts rfl
      cases hlast
      obtain ⟨m, hfirst, hrest⟩ := ih rfl
      rw [List.concat_eq_append]
      exact ⟨m, hfirst, hrest.snoc ok h⟩

/-- A path without steps stays where it is. -/
theorem eq_of_nil (hp : Path c allowed start [] e) : e = start := by
  generalize hts : ([] : List Transition) = ts at hp
  cases hp with
  | nil => rfl
  | snoc => exact absurd hts.symm (List.append_ne_nil_of_right_ne_nil _ (List.cons_ne_nil _ _))

/-- The first step of a path, and the path that is left. -/
theorem uncons {t : Transition} (hp : Path c allowed start (t :: ts) e) :
    t.before = start ∧ allowed start t.action ∧ start.step? c t.action = some (t.after, t.events) ∧
      Path c allowed t.after ts e := by
  generalize hts : t :: ts = us at hp
  induction hp generalizing ts with
  | nil => cases hts
  | @snoc us e₁ e' a events path ok h ih =>
    cases us with
    | nil =>
      cases hts
      obtain rfl := path.eq_of_nil
      exact ⟨rfl, ok, h, .nil⟩
    | cons u us =>
      cases hts
      obtain ⟨hbefore, hok, hstep, hrest⟩ := ih rfl
      exact ⟨hbefore, hok, hstep, hrest.snoc ok h⟩

/-- A path may begin with one step more. -/
theorem cons {a : Action} {events : List Event} (ok : allowed start a)
    (h : start.step? c a = some (e', events)) (hp : Path c allowed e' ts e) :
    Path c allowed start (⟨start, a, e', events⟩ :: ts) e := by
  induction hp with
  | nil =>
    show Path c allowed start ([] ++ [_]) _
    exact .snoc .nil ok h
  | snoc _ ok' h' ih => exact ih.snoc ok' h'

end Path

/-- The path that actions make, and where it ends; it stops before one that cannot happen. -/
def follow (c : Config) : Engine → List Action → List Transition × Engine
  | e, [] => ([], e)
  | e, a :: rest =>
    match e.step? c a with
    | none => ([], e)
    | some (e', events) => (⟨e, a, e', events⟩ :: (follow c e' rest).1, (follow c e' rest).2)

/-- Following actions gives a path, if every step that is taken is allowed. -/
theorem path_follow {actions : List Action}
    (ok : ∀ t ∈ (follow c start actions).1, allowed t.before t.action) :
    Path c allowed start (follow c start actions).1 (follow c start actions).2 := by
  induction actions generalizing start with
  | nil => exact .nil
  | cons a rest ih =>
    unfold follow at ok ⊢
    split
    · exact .nil
    · rename_i e' events hstep
      rw [hstep] at ok
      obtain ⟨hfirst, hlater⟩ := List.forall_mem_cons.1 ok
      exact .cons hfirst hstep (ih hlater)

/-- A run is cut in two at each of its steps. -/
theorem cut_of_getElem? {i : Nat} {t : Transition} (h : ts[i]? = some t) :
    ts = ts.take i ++ t :: ts.drop (i + 1) := by
  obtain ⟨hlt, rfl⟩ := List.getElem?_eq_some_iff.1 h
  rw [← List.drop_eq_getElem_cons hlt, List.take_append_drop]

/-- A new engine is reachable. -/
theorem reachable_initial (c : Config) (world : World) (capacity : Nat) :
    Reachable c (initial world capacity) :=
  ⟨world, capacity, [], .nil⟩

namespace Reachable

/-- A step leads to a reachable engine. -/
theorem step {a : Action} {events : List Event} (hr : Reachable c e)
    (h : e.step? c a = some (e', events)) : Reachable c e' := by
  obtain ⟨world, capacity, steps, hrun⟩ := hr
  exact ⟨world, capacity, _, hrun.snoc h⟩

/-- Paths from states that can be reached lead to states that can be reached. -/
theorem path (hr : Reachable c start) (hp : Path c allowed start ts e) : Reachable c e :=
  hp.invariant hr fun _ _ _ _ hr _ h => hr.step h

/-- Following actions leads to a reachable engine. -/
theorem follow (hr : Reachable c start) (actions : List Action) :
    Reachable c (follow c start actions).2 := by
  have hpath : Path c (fun _ _ => True) start (Engine.follow c start actions).1
      (Engine.follow c start actions).2 := path_follow fun _ _ => trivial
  exact hr.path hpath

/-- What every step preserves holds in every state that can be reached. -/
theorem invariant (hr : Reachable c e) (h₀ : ∀ world capacity, P (initial world capacity))
    (hstep : ∀ e a e' events, P e → e.step? c a = some (e', events) → P e') : P e := by
  obtain ⟨world, capacity, steps, hrun⟩ := hr
  induction hrun with
  | nil => exact h₀ world capacity
  | snoc _ h ih => exact hstep _ _ _ _ ih h

/-- A step may be taken to start in a state that can be reached. -/
theorem invariant_of_reachable (hr : Reachable c e)
    (h₀ : ∀ world capacity, P (initial world capacity))
    (hstep : ∀ e a e' events, Reachable c e → P e → e.step? c a = some (e', events) → P e') :
    P e := by
  have hboth : Reachable c e ∧ P e := by
    refine hr.invariant (P := fun e => Reachable c e ∧ P e)
      (fun world capacity => ⟨reachable_initial c world capacity, h₀ world capacity⟩) ?_
    exact fun _ _ _ _ h hs => ⟨h.1.step hs, hstep _ _ _ _ h.1 h.2 hs⟩
  exact hboth.2

end Reachable

end Engine

/-! ### A run to look at -/

/-- A configuration with a manifest, and with nothing that ships with the application. -/
def Config.remote : Config where
  mainListId := "main"
  mainList := []
  initialLists := ∅
  formats := ∅
  defaultFormat := .standard
  chains := [1]
  manifestUrl := some "https://lists.example/manifest.json"
  interval := .ofSeconds 1800
  checkInterval := .ofSeconds 60
  validator := .structural

namespace Engine

/-- An engine that has started, with a worker that has not run yet. -/
def poised : Engine :=
  (follow .remote (initial { now := 10000 } 1) [.invoke (.start 0), .resume (.call 0)]).2

/-- That worker has asked for the manifest when the guard is turned on. -/
def interrupted : Engine :=
  (follow .remote poised [.work 0 .start, .alter { now := 10000, privacy := true }]).2

/-- The poised engine can be reached. -/
theorem reachable_poised : Reachable .remote poised :=
  (reachable_initial .remote _ 1).follow _

/-- The interrupted engine can be reached. -/
theorem reachable_interrupted : Reachable .remote interrupted :=
  reachable_poised.follow _

end Engine

end TokenCatalog
