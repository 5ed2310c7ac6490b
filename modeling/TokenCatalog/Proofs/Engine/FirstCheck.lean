import TokenCatalog.Proofs.Config
import TokenCatalog.Proofs.Engine.Provenance
import TokenCatalog.Settings.Basic

namespace TokenCatalog

/-!
# First checks — which check intervals a worker survives

A worker that runs for the first time works out when its first tick is due, and only then checks
whether to refresh.  An instant holds seconds of 63 bits; if that tick is later than every instant,
the worker is gone before it has checked anything, forced or not.  Validation does not keep such an
interval out.

* `Worker.checked_iff` — a worker makes its first check exactly if its first tick has an instant;
* `Crew.IsIdle` — no worker of a crew has ever checked anything; `Engine.isIdle_of_step` says that it
  stays so if the check interval alone is longer than every instant;
* `Engine.first_checks` — the whole account, for every configuration that validation accepts.
-/

namespace Worker

variable {v : Worker} {s : Surroundings} {t : Turn} {a : Action} {force : Bool}

/-! ### One worker -/

/-- Every tick is later than the one before it. -/
theorem lt_tickAfter {due clock period : Nat} (h : 0 < period) :
    due < tickAfter due clock period := by
  unfold tickAfter
  split <;> omega

/-- A check that is not cancelled leaves a worker that goes on, or has begun a refresh. -/
theorem isLive_or_began_check (v : Worker) (force : Bool) (hs : s.cancelled = false) :
    (v.check s force).worker.isLive = true ∨ .refreshBegan s.id ∈ (v.check s force).events := by
  have hcase := checkCase_check v s force
  generalize v.check s force = t at hcase ⊢
  cases hcase with
  | cancelled hyes => cases hs.symm.trans hyes
  | spared => exact .inl rfl
  | fetches | asks => exact .inr List.mem_cons_self

/-- **A worker makes its first check exactly if its first tick has an instant**, as one can see by
    what is left of it. -/
theorem checked_iff (hstage : v.stage = .spawned force) (hs : s.cancelled = false)
    (h : v.act? s a = some t) :
    t.worker.isLive = true ∨ .refreshBegan s.id ∈ t.events ↔
      s.clock + s.config.checkInterval.nanoseconds < instantLimit := by
  obtain rfl := eq_start_of_act? hstage h
  cases step_of_act? h with
  | expire _ hlate =>
    refine ⟨fun hchecked => ?_, fun hearly => absurd hearly (Nat.not_lt.2 hlate)⟩
    rcases hchecked with hlive | hbegan
    · cases hlive
    · exact absurd hbegan List.not_mem_nil
  | start _ hearly => exact ⟨fun _ => hearly, fun _ => isLive_or_began_check _ _ hs⟩

/-- A worker whose first tick has no instant leaves, and nobody sees anything of it. -/
theorem expire_of_act? (hstage : v.stage = .spawned force)
    (hlate : instantLimit ≤ s.clock + s.config.checkInterval.nanoseconds)
    (h : v.act? s a = some t) : t = ⟨v.exit, s.world, []⟩ := by
  obtain rfl := eq_start_of_act? hstage h
  cases step_of_act? h with
  | expire => rfl
  | start _ hearly => exact absurd hlate (Nat.not_le.2 hearly)

end Worker

/-! ### Crews -/

/-- No worker of a crew has ever checked anything. -/
def Crew.IsIdle (k : Crew) : Prop :=
  ∀ w stage, k.stage? w = some stage → stage = .exited ∨ ∃ force, stage = .spawned force

/-- Where there are no workers they are idle. -/
theorem Crew.isIdle_of_workers_eq_nil {k : Crew} (h : k.workers = []) : k.IsIdle := by
  intro w stage hstage
  rw [stage?, h] at hstage
  cases hstage

/-- Where no worker runs, none checks anything. -/
theorem Crew.Still.isIdle {k k' : Crew} (h : k.Still k') (hk : k.IsIdle) : k'.IsIdle := by
  intro w stage hstage'
  cases hstage : k.stage? w with
  | none => exact .inr (h.new w stage hstage hstage')
  | some old =>
    rw [h.stage? w old hstage] at hstage'
    cases hstage'
    exact hk w _ hstage

namespace Engine

variable {c : Config} {allowed : Engine → Action → Prop} {e e' : Engine} {a : Action}
  {events : List Event} {ts : List Transition} {t : Transition} {w : WorkerId} {v : Worker}
  {force : Bool}

/-- **With a check interval longer than every instant no worker ever checks anything**, and nothing
    is seen of any. -/
theorem isIdle_of_step (hlong : Worker.instantLimit ≤ c.checkInterval.nanoseconds)
    (h : e.crew.IsIdle) (hs : e.step? c a = some (e', events)) :
    e'.crew.IsIdle ∧ ∀ ev ∈ events, ev.IsNews := by
  rcases still_or_act_of_step hs with ⟨hstill, hnews, -⟩ | ⟨i, wa, v, turn, -, hv, ht, hcrew, rfl⟩
  · exact ⟨hstill.isIdle h, hnews⟩
  · rcases h i v.stage (Crew.stage?_of_getElem? hv) with hexited | ⟨force, hspawned⟩
    · have hlive := Worker.isLive_of_act? ht
      simp [Worker.isLive, hexited] at hlive
    · obtain rfl := Worker.expire_of_act? hspawned (Nat.le_add_left_of_le hlong) ht
      refine ⟨fun j stage hstage => ?_, fun ev hev => absurd hev List.not_mem_nil⟩
      rw [Crew.stage?_of_turn hv hcrew] at hstage
      split at hstage
      · cases hstage
        exact .inl rfl
      · exact h j stage hstage

/-- With an interval between checks that the clock cannot hold, no worker lets anything be seen. -/
theorem isNews_of_path {start : Engine} (hp : Path c allowed start ts e)
    (h : start.crew.IsIdle) (hlong : Worker.instantLimit ≤ c.checkInterval.nanoseconds) :
    ∀ t ∈ ts, ∀ ev ∈ t.events, ev.IsNews := by
  intro t ht
  have hidle := (hp.invariant_before (P := (·.crew.IsIdle)) h
    fun _ _ _ _ hk _ hs => (isIdle_of_step hlong hk hs).1).1 t ht
  exact (isIdle_of_step hlong hidle (hp.step_of_mem ht).2).2

/-- A worker runs for the first time, and is not cancelled. -/
structure Transition.Awakens (t : Transition) (w : WorkerId) (v : Worker) (force : Bool) : Prop where
  action : t.action = .work w .start
  worker : t.before.crew.workers[w]? = some v
  stage : v.stage = .spawned force
  uncancelled : t.before.crew.isCancelled v = false

/-- A worker makes its first check, as one can see by what is left of it. -/
def Transition.Checks (t : Transition) (w : WorkerId) : Prop :=
  t.after.crew.isLive w = true ∨ .refreshBegan w ∈ t.events

/-- The first run of a worker, in a step of an engine. -/
theorem checked_iff_of_step (hs : t.before.step? c t.action = some (t.after, t.events))
    (h : t.Awakens w v force) :
    t.Checks w ↔ t.before.crew.clock + c.checkInterval.nanoseconds < Worker.instantLimit := by
  rw [h.action] at hs
  obtain ⟨v', turn, hv', hact, hcrew, hevents⟩ := exists_turn_of_step hs
  cases h.worker.symm.trans hv'
  have hlive : t.after.crew.isLive w = turn.worker.isLive := by
    rw [Crew.isLive, hcrew]
    show ((t.before.crew.workers.set w turn.worker)[w]?).any Worker.isLive = _
    rw [List.getElem?_set_self (List.getElem?_eq_some_iff.1 hv').1]
    rfl
  rw [Transition.Checks, hlive, hevents]
  exact Worker.checked_iff h.stage h.uncancelled hact

/-! ### Every configuration that is accepted -/

/-- What becomes of the first checks of workers under a configuration that a draft becomes, on a
    run. -/
structure FirstChecks (d : Draft) (c : Config) (ts : List Transition) : Prop where
  /-- The ticker has a period. -/
  ticks : ∀ due clock, due < Worker.tickAfter due clock c.checkInterval.nanoseconds
  /-- A worker that is not cancelled makes its first check, exactly if its first tick has an
      instant; then it lives on, or has begun a refresh. -/
  reached : ∀ t ∈ ts, ∀ w v force, t.Awakens w v force →
    (t.Checks w ↔ t.before.crew.clock + c.checkInterval.nanoseconds < Worker.instantLimit)
  /-- If the check interval alone is longer than every instant, no worker ever does anything. -/
  dead : Worker.instantLimit ≤ c.checkInterval.nanoseconds → ∀ t ∈ ts, ∀ ev ∈ t.events, ev.IsNews
  /-- The same draft is accepted with any interval and any check interval that is not longer,
      however long they are. -/
  unbounded : ∀ interval check : Duration, 0 < check.nanoseconds → check ≤ interval →
    (d.withAutoRefresh interval check).validate =
      .ok { c with interval := interval, checkInterval := check }

/-- **Workers reach their first check as long as the clock can tell their first tick**, under every
    configuration that is accepted and on every run of a new engine. -/
theorem first_checks {d : Draft} (hv : d.validate = .ok c) {world : World} {capacity : Nat}
    (hp : Path c allowed (initial world capacity) ts e) : FirstChecks d c ts := by
  obtain ⟨hcomplete, hc⟩ := Draft.validate_eq_ok_iff.1 hv
  have hpos : 0 < c.checkInterval.nanoseconds := by
    rw [hc]
    exact hcomplete.checkInterval_pos
  constructor
  · exact fun _ _ => Worker.lt_tickAfter hpos
  · exact fun t ht _ _ _ hawakens => checked_iff_of_step (hp.step_of_mem ht).2 hawakens
  · exact fun hlong => isNews_of_path hp (Crew.isIdle_of_workers_eq_nil rfl) hlong
  · exact fun _ _ hcheck hle => Draft.validate_withAutoRefresh hv hcheck hle

end Engine

/-! ### Settings of an operator -/

/-- A draft that takes its intervals from settings. -/
def Settings.draft (s : Settings) : Draft :=
  s.apply { Draft.ofMainList "main" [] .standard with supplied := Collaborator.all }

/-- What such a draft becomes. -/
def Settings.config (s : Settings) : Config := s.draft.finished none

/-- Settings with intervals of `2⁶³` seconds. -/
def Settings.patient : Settings where
  interval := 9223372036854775808
  checkInterval := 9223372036854775808

/-- The default settings are accepted. -/
theorem Settings.validate_draft_default : ({} : Settings).draft.validate = .ok ({} : Settings).config :=
  rfl

/-- The patient settings are accepted. -/
theorem Settings.validate_draft_patient :
    Settings.patient.draft.validate = .ok Settings.patient.config := rfl

namespace Engine

/-- An engine starts, and its worker runs for the first time. -/
def awakening (c : Config) : List Transition × Engine :=
  follow c (initial { now := 10000 } 4) [.invoke (.start 0), .resume (.call 0), .work 0 .start]

/-- The awakening is a run. -/
theorem path_awakening (c : Config) :
    Path c (fun _ _ => True) (initial { now := 10000 } 4) (awakening c).1 (awakening c).2 :=
  path_follow fun _ _ => trivial

/-- With the default settings the worker makes its first check. -/
theorem first_checks_default : ∃ t ∈ (awakening ({} : Settings).config).1, t.Checks 0 := by
  have hchecks : FirstChecks ({} : Settings).draft ({} : Settings).config
      (awakening ({} : Settings).config).1 :=
    first_checks Settings.validate_draft_default (path_awakening _)
  have hlast : ∃ t ∈ (awakening ({} : Settings).config).1, ∃ v, t.Awakens 0 v false ∧
      t.before.crew.clock = 0 :=
    ⟨_, .tail _ (.tail _ (.head _)), _, ⟨rfl, rfl, rfl, rfl⟩, rfl⟩
  obtain ⟨t, ht, v, hawakens, hclock⟩ := hlast
  refine ⟨t, ht, (hchecks.reached t ht 0 v false hawakens).2 ?_⟩
  rw [hclock]
  decide

/-- Settings with a long check interval are accepted, and then a worker is gone before its first
    check. -/
theorem first_check_not_always : ¬ ∀ (s : Settings) (c : Config), s.draft.validate = .ok c →
    ∀ t ∈ (awakening c).1, ∀ w v force, t.Awakens w v force → t.Checks w := by
  intro hreached
  have hlast : ∃ t ∈ (awakening Settings.patient.config).1, ∃ v, t.Awakens 0 v false ∧
      t.after.crew.isLive 0 = false ∧ t.events = [] :=
    ⟨_, .tail _ (.tail _ (.head _)), _, ⟨rfl, rfl, rfl, rfl⟩, rfl, rfl⟩
  obtain ⟨t, ht, v, hawakens, hgone, hevents⟩ := hlast
  rcases hreached _ _ Settings.validate_draft_patient t ht 0 v false hawakens with hlive | hbegan
  · exact Bool.false_ne_true (hgone.symm.trans hlive)
  · rw [hevents] at hbegan
    cases hbegan

end Engine

end TokenCatalog
