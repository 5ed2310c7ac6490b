import Mathlib.Tactic.ByContra
import TokenCatalog.Proofs.Engine.Custody

namespace TokenCatalog.Engine

/-!
# Calm — when a guard that stays on keeps everybody silent

While the guard is on no refresh begins, but a refresh that has begun goes on: its tasks ask for
their lists and schemas without looking at the guard again.

* `calm_of_step` — a calm crew stays calm while the guard is on, and nobody sends a request;
* `exists_request_of_not_calm` — in any other crew somebody can, while the guard is on;
* `silent_iff_calm` — so calm is what silence takes.
-/

variable {c : Config} {e e' : Engine} {a : Action} {events : List Event} {id : CallId}

/-! ### Calm lasts -/

theorem Keeps.calm (hk : Keeps e e') (h : e.crew.Calm c) : e'.crew.Calm c :=
  h.of_bare hk.crew

/-- Calls only stop workers, and start some that have to look at the guard before they ask. -/
theorem callInvariant_calm (c : Config) : CallInvariant (·.crew.Calm c) :=
  callInvariant_crew (fun _ w h => h.stop w) (fun _ parent force h => h.spawn parent force)
    fun _ _ hbare h => h.of_bare hbare

/-- **Calm lasts while the guard is on, and nobody sends a request.** -/
theorem calm_of_step (h : e.crew.Calm c) (hoff : e.crew.world.isOffline = true)
    (hs : e.step? c a = some (e', events)) :
    e'.crew.Calm c ∧ ∀ f r, .requested f r false ∉ events := by
  constructor
  -- Only the worker's own steps could disturb the calm.
  · cases a with
    | alter | elapse | invoke | hangUp =>
      cases hs
      exact h
    | cancel token =>
      cases hs
      exact h.cancel token
    | abandon i =>
      obtain ⟨e₁, he₁, heq⟩ := Option.map_eq_some_iff.1 hs
      cases heq
      rw [(abandons_of_abandonCall? he₁).crew]
      exact h
    | resume p =>
      cases p with
      | call i =>
        exact (callInvariant_calm c).resumeCall?_crew h hs
      | listener i => exact (Keeps.resumeListener? hs).calm h
    | work i wa =>
      obtain ⟨⟨crew, evs⟩, hact, heq⟩ := Option.map_eq_some_iff.1 hs
      cases heq
      exact (h.act hoff hact).1
    | receive =>
      obtain ⟨channel, -, heq⟩ := Option.map_eq_some_iff.1 hs
      cases heq
      exact h
  · intro f r hreq
    obtain ⟨i, wa, crew, -, hact, -⟩ := exists_act_of_step hs hreq nofun
    exact (h.act hoff hact).2 f r hreq

/-! ### Without calm somebody asks -/

/-- A worker whose tasks may ask can do so in one step. -/
theorem exists_request_of_fetching {i : WorkerId} {w : Worker} {f : FanOut}
    (hw : e.crew.workers[i]? = some w) (hrun : e.crew.isCancelled w = false)
    (hstage : w.stage = .fetching f) (hask : f.MayAsk) :
    ∃ a e' events q r, e.step? c a = some (e', events) ∧ .requested q r false ∈ events := by
  obtain ⟨wa, t, q, r, ht, hreq⟩ := Worker.exists_request
    (s := ⟨c, e.crew.world, e.crew.clock, e.crew.isCancelled w, i⟩) ⟨f, hstage, hask⟩ hrun
  exact ⟨_, _, _, q, r, step?_work hw ht, hreq⟩

/-- In a crew that is not calm somebody can send a request, with the right answers, although the
    guard stays on. -/
theorem exists_request_of_not_calm (hcalm : ¬ e.crew.Calm c)
    (hoff : e.crew.world.isOffline = true) :
    ∃ ts e', Path c Offline e ts e' ∧ ∃ t ∈ ts, ∃ q r, .requested q r false ∈ t.events := by
  simp only [Crew.Calm, not_forall, not_not] at hcalm
  obtain ⟨i, w, hw, hrun, hask⟩ := hcalm
  have hmay := hask
  unfold Worker.MayAsk at hask
  split at hask
  · -- The manifest comes first, and then the first of its lists.
    rename_i fallback hstage
    obtain ⟨wa, t, f, ht, hfetching, hf⟩ := Worker.exists_fetching
      (s := ⟨c, e.crew.world, e.crew.clock, e.crew.isCancelled w, i⟩) hstage hmay hrun
    have hstep := step?_work hw ht
    have hlawful := Worker.lawful_of_act? ht
    obtain ⟨a, e₂, events, q, r, hstep₂, hreq⟩ := exists_request_of_fetching
      (c := c) (i := i) (w := t.worker) (f := f)
      (e := { e with
        crew := { e.crew with world := t.world, workers := e.crew.workers.set i t.worker } })
      (List.getElem?_set_self (List.getElem?_eq_some_iff.1 hw).1)
      (by simpa [Crew.isCancelled, hlawful.stopped, hlawful.parent] using hrun) hfetching hf
    have hoff₂ : t.world.isOffline = true := by
      rw [hlawful.world.isOffline_eq]
      exact hoff
    exact ⟨_, e₂, (Path.nil.snoc hoff hstep).snoc hoff₂ hstep₂, ⟨_, a, e₂, events⟩,
      List.mem_append_right _ (List.mem_singleton_self _), q, r, hreq⟩
  · rename_i f hstage
    obtain ⟨a, e₂, events, q, r, hstep, hreq⟩ :=
      exists_request_of_fetching (c := c) hw hrun hstage hask
    exact ⟨_, e₂, Path.nil.snoc hoff hstep, ⟨e, a, e₂, events⟩,
      List.mem_append_right _ (List.mem_singleton_self _), q, r, hreq⟩
  · exact hask.elim

/-- **Silence takes calm, and no more.**  Nobody sends a request for as long as the guard stays on
    exactly if the crew is calm. -/
theorem silent_iff_calm (hoff : e.crew.world.isOffline = true) :
    (∀ ts e', Path c Offline e ts e' → ∀ t ∈ ts, ∀ q r, .requested q r false ∉ t.events) ↔
      e.crew.Calm c := by
  constructor
  · -- If the crew is not calm, a run of two steps at most breaks the silence.
    intro hsilent
    by_contra hcalm
    obtain ⟨ts, e', hpath, t, ht, q, r, hreq⟩ := exists_request_of_not_calm hcalm hoff
    exact hsilent ts e' hpath t ht q r hreq
  · intro hcalm ts e' hpath t ht q r
    obtain ⟨hbefore, -⟩ := hpath.invariant_before (P := fun e => e.crew.Calm c) hcalm
      fun _ _ _ _ h hoff hs => (calm_of_step h hoff hs).1
    obtain ⟨hoff', hstep⟩ := hpath.step_of_mem ht
    exact (calm_of_step (hbefore t ht) hoff' hstep).2 q r

end TokenCatalog.Engine
