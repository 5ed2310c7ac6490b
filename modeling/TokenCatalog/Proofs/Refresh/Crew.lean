import TokenCatalog.Refresh.Crew
import TokenCatalog.Proofs.Refresh.Worker

namespace TokenCatalog

/-!
# Crews — who runs, and who may still ask

* `Crew.bare` — a crew without what only its consumers change;
* `Crew.runs` — whether a worker is there and nobody has told it to stop;
* `Crew.Ages` — a crew of which workers leave, and to which none comes;
* `Crew.Calm` — no worker may send a request under a token that is not cancelled, and so it stays
  while the guard is on.
-/

/-- Workers, listeners and calls come one by one, and each has the next place. -/
theorem getElem?_snoc {α : Type} (xs : List α) (x : α) (i : Nat) :
    (xs ++ [x])[i]? = if i = xs.length then some x else xs[i]? := by
  grind

/-- A worker without what only its consumer and its ticks change. -/
def Worker.bare (w : Worker) : Worker :=
  { parent := w.parent, stopped := w.stopped, stage := w.stage }

namespace Crew

variable {c : Config} {k k' : Crew} {id j : WorkerId}

/-! ### What consumers change -/

/-- A crew without what only its consumers change. -/
def bare (k : Crew) : Crew := { k with workers := k.workers.map Worker.bare }

/-- What changes no worker's bare part does not change the crew's. -/
theorem bare_modify (k : Crew) (id : WorkerId) {f : Worker → Worker}
    (hf : ∀ w, (f w).bare = w.bare) : (k.modify id f).bare = k.bare := by
  have hworkers : (k.workers.modify id f).map Worker.bare = k.workers.map Worker.bare := by
    apply List.ext_getElem?
    intro i
    rw [List.getElem?_map, List.getElem?_map, List.getElem?_modify]
    by_cases hi : id = i
    · simp [hi, Function.comp_def, hf]
    · simp [hi]
  rw [bare, bare, modify, hworkers]

@[simp] theorem bare_take (k : Crew) (id : WorkerId) : (k.take id).bare = k.bare :=
  bare_modify k id fun _ => rfl

@[simp] theorem bare_acknowledge (k : Crew) (id : WorkerId) : (k.acknowledge id).bare = k.bare :=
  bare_modify k id fun _ => rfl

@[simp] theorem bare_leave (k : Crew) (id : WorkerId) : (k.leave id).bare = k.bare :=
  bare_modify k id fun _ => rfl

/-- Crews that agree barely have the same world. -/
theorem world_of_bare (h : k'.bare = k.bare) : k'.world = k.world :=
  congrArg (·.world) h

/-- Crews that agree barely have the same clock. -/
theorem clock_of_bare (h : k'.bare = k.bare) : k'.clock = k.clock :=
  congrArg (·.clock) h

/-- Crews that agree barely have the same tokens cancelled. -/
theorem cancelled_of_bare (h : k'.bare = k.bare) : k'.cancelled = k.cancelled :=
  congrArg (·.cancelled) h

/-- Crews that agree barely have the same workers, up to their results. -/
theorem getElem?_of_bare (h : k'.bare = k.bare) {w : Worker} (hw : k'.workers[id]? = some w) :
    ∃ v, k.workers[id]? = some v ∧ v.bare = w.bare := by
  have hid : k.bare.workers[id]? = some w.bare := by
    rw [← h, bare, List.getElem?_map, hw, Option.map_some]
  rw [bare, List.getElem?_map] at hid
  exact Option.map_eq_some_iff.1 hid

/-- Workers that agree barely have the same token, the same order to stop and the same stage. -/
theorem bare_inj {v w : Worker} (h : v.bare = w.bare) :
    v.parent = w.parent ∧ v.stopped = w.stopped ∧ v.stage = w.stage := by
  injection h with hparent hstopped hstage
  exact ⟨hparent, hstopped, hstage⟩

/-! ### Who runs -/

/-- Whether a worker has not left, and nobody has told it to. -/
def runs (k : Crew) (id : WorkerId) : Bool :=
  k.workers[id]?.any fun w => w.isLive && !w.stopped

/-- A worker is live when it is there and has not left. -/
theorem isLive_iff : k.isLive id = true ↔ ∃ w, k.workers[id]? = some w ∧ w.isLive = true := by
  rw [isLive, Option.any_eq_true_iff_get]
  cases k.workers[id]? <;> simp

/-- A worker runs when it is there, has not left and has not been told to stop. -/
theorem runs_iff :
    k.runs id = true ↔ ∃ w, k.workers[id]? = some w ∧ w.isLive = true ∧ w.stopped = false := by
  rw [runs]
  cases k.workers[id]? <;> simp

/-- A worker that runs is live. -/
theorem isLive_of_runs (h : k.runs id = true) : k.isLive id = true := by
  obtain ⟨w, hw, hlive, -⟩ := runs_iff.1 h
  exact isLive_iff.2 ⟨w, hw, hlive⟩

/-- From one crew to another, workers may leave; none comes, and nobody is told to stop. -/
structure Ages (k k' : Crew) : Prop where
  isLive : ∀ {id}, k'.isLive id = true → k.isLive id = true
  runs : ∀ id, k'.runs id = true ↔ k.runs id = true ∧ k'.isLive id = true

/-- Crews with the same workers have aged by nothing. -/
theorem Ages.of_workers (h : k'.workers = k.workers) : Ages k k' := by
  constructor
  · intro id hlive
    rwa [Crew.isLive, h] at hlive
  · intro id
    rw [Crew.runs, Crew.isLive, h]
    exact ⟨fun hr => ⟨hr, isLive_of_runs hr⟩, And.left⟩

/-- Whether a worker is live does not depend on its result. -/
@[simp] theorem isLive_bare (k : Crew) (id : WorkerId) : k.bare.isLive id = k.isLive id := by
  rw [isLive, isLive, bare, List.getElem?_map, Option.any_map]
  rfl

/-- Whether a worker runs does not depend on its result. -/
@[simp] theorem runs_bare (k : Crew) (id : WorkerId) : k.bare.runs id = k.runs id := by
  rw [runs, runs, bare, List.getElem?_map, Option.any_map]
  rfl

/-- Crews that agree barely have aged by nothing. -/
theorem Ages.of_bare (h : k'.bare = k.bare) : Ages k k' := by
  constructor
  · intro id hlive
    rwa [← isLive_bare, h, isLive_bare] at hlive
  · intro id
    rw [← runs_bare k', ← isLive_bare k', h, runs_bare, isLive_bare]
    exact ⟨fun hr => ⟨hr, isLive_of_runs hr⟩, And.left⟩

/-! ### A worker comes, goes, or runs -/

/-- A new worker comes last. -/
theorem getElem?_spawn (k : Crew) (parent : TokenId) (force : Bool) (id : WorkerId) :
    (k.spawn parent force).1.workers[id]? =
      if id = k.workers.length then some { parent, stage := .spawned force }
      else k.workers[id]? := by
  exact getElem?_snoc k.workers _ id

/-- Live is who was live before, and the new worker. -/
theorem isLive_spawn (k : Crew) (parent : TokenId) (force : Bool) (id : WorkerId) :
    (k.spawn parent force).1.isLive id = true ↔ k.isLive id = true ∨ id = k.workers.length := by
  rw [isLive, getElem?_spawn]
  by_cases hid : id = k.workers.length
  · rw [if_pos hid]
    exact ⟨fun _ => .inr hid, fun _ => rfl⟩
  · rw [if_neg hid]
    exact ⟨.inl, fun h => h.resolve_right hid⟩

/-- Running is who ran before, and the new worker. -/
theorem runs_spawn (k : Crew) (parent : TokenId) (force : Bool) (id : WorkerId) :
    (k.spawn parent force).1.runs id = true ↔ k.runs id = true ∨ id = k.workers.length := by
  rw [runs, getElem?_spawn]
  by_cases hid : id = k.workers.length
  · rw [if_pos hid]
    exact ⟨fun _ => .inr hid, fun _ => rfl⟩
  · rw [if_neg hid]
    exact ⟨.inl, fun h => h.resolve_right hid⟩

/-- Who is told to stop is told, and nobody else is. -/
theorem getElem?_stop (k : Crew) (id j : WorkerId) :
    (k.stop id).workers[j]? =
      if id = j then k.workers[j]?.map ({ · with stopped := true }) else k.workers[j]? := by
  rw [stop, modify, List.getElem?_modify]
  by_cases hj : id = j <;> simp [hj]

/-- Whoever is told to stop is still live. -/
@[simp] theorem isLive_stop (k : Crew) (id j : WorkerId) :
    (k.stop id).isLive j = k.isLive j := by
  rw [isLive, isLive, getElem?_stop]
  by_cases hj : id = j
  · rw [if_pos hj, Option.any_map]
    rfl
  · rw [if_neg hj]

/-- Whoever is told to stop does not run any more. -/
theorem runs_stop (k : Crew) (id j : WorkerId) :
    (k.stop id).runs j = true ↔ j ≠ id ∧ k.runs j = true := by
  rw [runs, runs, getElem?_stop]
  by_cases hj : id = j
  · rw [if_pos hj]
    cases k.workers[j]? <;> simp [hj]
  · rw [if_neg hj]
    exact ⟨fun h => ⟨Ne.symm hj, h⟩, And.right⟩

/-- A worker that runs, with what it finds. -/
theorem exists_turn_of_act? {a : Worker.Action} {events : List Event}
    (h : k.act? c id a = some (k', events)) :
    ∃ w t, k.workers[id]? = some w ∧ w.act? ⟨c, k.world, k.clock, k.isCancelled w, id⟩ a = some t ∧
      k' = { k with world := t.world, workers := k.workers.set id t.worker } ∧
      events = t.events := by
  unfold act? at h
  split at h
  · cases h
  · rename_i w hw
    obtain ⟨t, ht, he⟩ := Option.map_eq_some_iff.1 h
    cases he
    exact ⟨w, t, hw, ht, rfl, rfl⟩

/-- A worker's step ages the crew. -/
theorem ages_of_act? {a : Worker.Action} {events : List Event}
    (h : k.act? c id a = some (k', events)) : Ages k k' := by
  obtain ⟨w, t, hw, ht, rfl, -⟩ := exists_turn_of_act? h
  have hid : id < k.workers.length := (List.getElem?_eq_some_iff.1 hw).1
  have hlive : k.isLive id = true := isLive_iff.2 ⟨w, hw, Worker.isLive_of_act? ht⟩
  have hstopped : t.worker.stopped = w.stopped := (Worker.lawful_of_act? ht).stopped
  constructor
  -- A step changes one worker, and does not tell it to stop.
  · intro j hj
    by_cases hne : id = j
    · exact hne ▸ hlive
    · rwa [isLive, List.getElem?_set_ne hne] at hj
  · intro j
    by_cases hne : id = j
    · subst hne
      have hrun : k.runs id = !w.stopped := by
        rw [runs, hw, Option.any_some, Worker.isLive_of_act? ht, Bool.true_and]
      rw [hrun, runs, isLive, List.getElem?_set_self hid, Option.any_some, Option.any_some,
        hstopped, Bool.and_eq_true, and_comm]
    · rw [runs, isLive, List.getElem?_set_ne hne]
      exact ⟨fun hr => ⟨hr, isLive_of_runs hr⟩, And.left⟩

/-- Whoever sends a request under a token that is not cancelled runs. -/
theorem requested_of_act? {a : Worker.Action} {events : List Event} {f : Fetcher} {r : Request}
    (h : k.act? c id a = some (k', events)) (hr : .requested f r false ∈ events) :
    k.runs id = true := by
  obtain ⟨w, t, hw, ht, -, rfl⟩ := exists_turn_of_act? h
  obtain ⟨hcancelled, -⟩ := (Worker.lawful_of_act? ht).requested f r false hr
  have hstopped : w.stopped = false := by
    have := hcancelled.symm
    rw [isCancelled, Bool.or_eq_false_iff] at this
    exact this.1
  exact runs_iff.2 ⟨w, hw, Worker.isLive_of_act? ht, hstopped⟩

/-- A refresh begins only where the guard is read as off. -/
theorem isPrivate?_of_refreshBegan {a : Worker.Action} {events : List Event} {i : WorkerId}
    (h : k.act? c id a = some (k', events)) (hb : .refreshBegan i ∈ events) :
    k.world.isPrivate? = some false := by
  obtain ⟨w, t, -, ht, -, rfl⟩ := exists_turn_of_act? h
  exact ((Worker.lawful_of_act? ht).began i hb).1

/-! ### Calm -/

/-- No worker may send a request under a token that is not cancelled, unless the guard is found to
    be off. -/
def Calm (c : Config) (k : Crew) : Prop :=
  ∀ (id : WorkerId) (w : Worker), k.workers[id]? = some w → k.isCancelled w = false → ¬ w.MayAsk c

/-- Whether a worker may ask depends on its stage. -/
theorem mayAsk_congr {v w : Worker} (h : v.stage = w.stage) : v.MayAsk c ↔ w.MayAsk c := by
  rw [Worker.MayAsk, Worker.MayAsk, h]

/-- A crew whose workers have the stages of a calm one is calm if none of them is cancelled less. -/
theorem Calm.of_stages (h : Calm c k)
    (hw : ∀ (id : WorkerId) (w : Worker), k'.workers[id]? = some w → k'.isCancelled w = false →
      w.MayAsk c → ∃ v, k.workers[id]? = some v ∧ k.isCancelled v = false ∧ v.stage = w.stage) :
    Calm c k' := by
  intro id w hid hcancelled hask
  obtain ⟨v, hv, hvc, hstage⟩ := hw id w hid hcancelled hask
  exact h id v hv hvc ((mayAsk_congr hstage).2 hask)

/-- Calm does not depend on results. -/
theorem Calm.of_bare (hb : k'.bare = k.bare) (h : Calm c k) : Calm c k' := by
  refine h.of_stages fun id w hid hcancelled _ => ?_
  obtain ⟨v, hv, hvw⟩ := getElem?_of_bare hb hid
  obtain ⟨hparent, hstopped, hstage⟩ := bare_inj hvw
  refine ⟨v, hv, ?_, hstage⟩
  rwa [isCancelled, hstopped, hparent, ← cancelled_of_bare hb]

/-- Cancelling a token does not disturb the calm. -/
theorem Calm.cancel (h : Calm c k) (token : TokenId) :
    Calm c { k with cancelled := token :: k.cancelled } := by
  refine h.of_stages fun id w hid hcancelled _ => ⟨w, hid, ?_, rfl⟩
  simp only [isCancelled, Bool.or_eq_false_iff, List.contains_cons] at hcancelled ⊢
  exact ⟨hcancelled.1, hcancelled.2.2⟩

/-- Telling a worker to stop does not disturb the calm. -/
theorem Calm.stop (h : Calm c k) (id : WorkerId) : Calm c (k.stop id) := by
  refine h.of_stages fun j w hj hcancelled _ => ?_
  rw [getElem?_stop] at hj
  split at hj
  · obtain ⟨v, hv, rfl⟩ := Option.map_eq_some_iff.1 hj
    cases hcancelled
  · exact ⟨w, hj, hcancelled, rfl⟩

/-- A new worker does not disturb the calm. -/
theorem Calm.spawn (h : Calm c k) (parent : TokenId) (force : Bool) :
    Calm c (k.spawn parent force).1 := by
  refine h.of_stages fun j w hj hcancelled hask => ?_
  rw [getElem?_spawn] at hj
  split at hj
  · -- A new worker looks at the guard before it asks.
    cases hj
    exact absurd hask not_false
  · exact ⟨w, hj, hcancelled, rfl⟩

/-- **A calm crew stays silent and calm while the guard is on.** -/
theorem Calm.act {a : Worker.Action} {events : List Event} (hc : Calm c k)
    (hoff : k.world.isOffline = true) (h : k.act? c id a = some (k', events)) :
    Calm c k' ∧ ∀ f r, .requested f r false ∉ events := by
  obtain ⟨w, t, hw, ht, rfl, rfl⟩ := exists_turn_of_act? h
  have hlawful := Worker.lawful_of_act? ht
  -- Whether a worker is cancelled does not change by its own step.
  have hkept : k.isCancelled t.worker = k.isCancelled w := by
    rw [isCancelled, isCancelled, hlawful.stopped, hlawful.parent]
  constructor
  · intro j v hj hcancelled hask
    by_cases hne : id = j
    · subst hne
      rw [List.getElem?_set_self (List.getElem?_eq_some_iff.1 hw).1] at hj
      cases hj
      have hw' : k.isCancelled w = false := hkept ▸ hcancelled
      exact (Worker.mute_of_act? hoff (hc id w hw hw') ht).2 hask
    · rw [List.getElem?_set_ne hne] at hj
      exact hc j v hj hcancelled hask
  · intro f r hr
    obtain ⟨hcancelled, -⟩ := hlawful.requested f r false hr
    exact (Worker.mute_of_act? hoff (hc id w hw hcancelled.symm) ht).1.1 f r false hr

end Crew

end TokenCatalog
