import TokenCatalog.Proofs.Manifest.Distinct
import TokenCatalog.Proofs.Refresh.FanOut

namespace TokenCatalog

/-!
# Cycles — one refresh from its beginning to its end

A refresh that nobody disturbs asks for the manifest once, then asks for every list of it once and
for the schemas of those that need one, writes what has come, and notes the time.

* `World.SameStores` — two worlds whose stores hold the same;
* `Manifest.nodup_resolve` — the lists of a manifest have distinct ids;
* `Manifest.Entry.requests`, `FanOut.requests_of_run` — exactly what the task of an entry asks;
* `Worker.Resolved`, `Worker.Completed` — what others see of a refresh, and what it leaves;
* `Worker.Cycle` — a refresh as far as it has come; `Worker.advances_of_act?` says how it goes on,
  and `Worker.exists_advance` that it can.
-/

namespace World

/-- What the application stores is the same in two worlds; the guard, the clock and what fails may
    differ. -/
structure SameStores (w w' : World) : Prop where
  contents : w'.contents = w.contents
  custom : w'.custom = w.custom
  lastRefresh : w'.lastRefresh = w.lastRefresh

namespace SameStores

variable {w w' w'' : World}

/-- A world has its own stores. -/
theorem refl (w : World) : SameStores w w := ⟨rfl, rfl, rfl⟩

/-- Stores that stay the same twice stay the same. -/
theorem trans (h : SameStores w w') (h' : SameStores w' w'') : SameStores w w'' :=
  ⟨h'.contents.trans h.contents, h'.custom.trans h.custom, h'.lastRefresh.trans h.lastRefresh⟩

end SameStores

instance (w w' : World) : Decidable (w.SameStores w') :=
  decidable_of_iff (w'.contents.entries = w.contents.entries ∧
    w'.custom.byPlace.entries = w.custom.byPlace.entries ∧ w'.lastRefresh = w.lastRefresh)
    ⟨fun h => ⟨SortedMap.ext h.1, congrArg CustomTokens.mk (SortedMap.ext h.2.1), h.2.2⟩,
      fun h => ⟨by rw [h.contents], by rw [h.custom], h.lastRefresh⟩⟩

end World

/-! ### The ids of a manifest's lists -/

namespace Manifest

/-- In a manifest that decodes the ids are distinct. -/
theorem nodup_of_decode? {v : Validator} {raw : Bytes} {m : Manifest} (h : decode? v raw = some m) :
    (m.entries.map (·.id)).Nodup := by
  have hread : decode v raw = .ok m := by
    unfold decode? at h
    cases hd : decode v raw with
    | error => rw [hd] at h; cases h
    | ok m' => rw [hd] at h; cases h; rfl
  unfold decode at hread
  split at hread
  · cases hread
  · split at hread
    · cases hread
    · cases hread
      exact (nodup_distinct [] _).1

/-- In the manifest to fall back on the ids are distinct. -/
theorem nodup_fallback (c : Config) (w : World) : ((fallback c w).entries.map (·.id)).Nodup := by
  unfold fallback
  cases hcached : cached? c w with
  | none => exact List.nodup_nil
  | some p =>
    obtain ⟨content, -, hrest⟩ := Option.bind_eq_some_iff.1 hcached
    obtain ⟨m, hm, hp⟩ := Option.bind_eq_some_iff.1 hrest
    cases hp
    exact nodup_of_decode? hm

/-- **The lists of a manifest that a refresh uses have distinct ids.** -/
theorem nodup_resolve {old : Manifest} (h : (old.entries.map (·.id)).Nodup) (c : Config) (w : World)
    (url : String) (a : Answer) : ((resolve c w url old a).1.entries.map (·.id)).Nodup := by
  rcases Worker.resolve_fst c w url old a with hold | ⟨raw, hraw⟩
  · rw [hold]
    exact h
  · exact nodup_of_decode? hraw

/-! ### What a task asks -/

/-- What the task of an entry asks, by the world in which it looks for an etag and by the answers it
    is given: its list, and its schema if a body has come that needs one. -/
def Entry.requests (e : Entry) (w : World) (replies : List (Answer × Moment)) : List Request :=
  ⟨e.sourceUrl, w.etagOf e.id⟩ ::
    match e.schema?, replies.head? with
    | some url, some (.ok ⟨some _, _⟩, _) => [⟨url, ""⟩]
    | _, _ => []

section Requests

variable {e : Entry} {w : World} {now : Moment}

/-- An entry asks for its list first, with the etag of the cached copy. -/
theorem Entry.requests_nil : e.requests w [] = [⟨e.sourceUrl, w.etagOf e.id⟩] := by
  unfold requests
  cases e.schema? <;> rfl

/-- When the list has come an entry with a schema asks for that, without an etag. -/
theorem Entry.requests_of_schema {url etag : String} {body : Bytes} (h : e.schema? = some url) :
    e.requests w [(.ok ⟨some body, etag⟩, now)] =
      [⟨e.sourceUrl, w.etagOf e.id⟩, ⟨url, ""⟩] := by
  simp [requests, h]

/-- An entry without a schema asks for its list only. -/
theorem Entry.requests_unchecked {reply : Answer × Moment} (h : e.schema? = none) :
    e.requests w [reply] = [⟨e.sourceUrl, w.etagOf e.id⟩] := by
  simp [requests, h]

/-- An entry whose list does not come asks for nothing more. -/
theorem Entry.requests_missing {a : Answer} (h : ∀ body etag, a ≠ .ok ⟨some body, etag⟩) :
    e.requests w [(a, now)] = [⟨e.sourceUrl, w.etagOf e.id⟩] := by
  unfold requests
  split
  · rename_i body etag _ _ ha
    cases ha
    exact absurd rfl (h body etag)
  · rfl

/-- Only the first answer decides whether the schema is asked for. -/
theorem Entry.requests_append {replies : List (Answer × Moment)} (h : replies ≠ [])
    (more : List (Answer × Moment)) : e.requests w (replies ++ more) = e.requests w replies := by
  obtain ⟨r, rest, rfl⟩ := List.exists_cons_of_ne_nil h
  rfl

end Requests

end Manifest

namespace FanOut

open Manifest (Entry)

variable {v : Validator} {es : List Entry} {ms : List Move} {rs : List (Nat × Request)}
  {f f' : FanOut} {i : Nat} {e : Entry} {s s' : Stage} {a : Answer} {now : Moment}
  {r : Option Request}

/-- What a task in a stage has asked: nothing before it was polled. -/
def HasAsked (e : Entry) (i : Nat) (ms : List Move) (rs : List (Nat × Request)) (s : Stage) :
    Prop :=
  s = .ready ∧ asked i rs = [] ∨
    s ≠ .ready ∧ ∃ w, .poll i w ∈ ms ∧ asked i rs = e.requests w (replies i ms)

/-- A move that concerns another task. -/
theorem HasAsked.other {m : Move} {new : List (Nat × Request)} (h : HasAsked e i ms rs s)
    (hm : m.reply? i = none) (hnew : asked i new = []) :
    HasAsked e i (ms ++ [m]) (rs ++ new) s := by
  have hreplies : replies i (ms ++ [m]) = replies i ms := by
    rw [replies_snoc, hm]
    exact List.append_nil _
  rw [HasAsked, asked_append, hnew, List.append_nil, hreplies]
  rcases h with hready | ⟨hs, w, hw, hasked⟩
  · exact .inl hready
  · exact .inr ⟨hs, w, List.mem_append_left _ hw, hasked⟩

/-- An answer, by which a task has no more or its schema to ask for. -/
theorem HasAsked.answer (h : HasAsked e i ms rs s) (hs : s ≠ .ready) (hs' : s' ≠ .ready)
    (hmore : ∀ w, e.requests w (replies i ms ++ [(a, now)]) =
      e.requests w (replies i ms) ++ r.toList) :
    HasAsked e i (ms ++ [.answer i a now]) (rs ++ r.toList.map (i, ·)) s' := by
  have hreply : (Move.answer i a now).reply? i = some (a, now) := if_pos rfl
  obtain ⟨-, w, hw, hasked⟩ := h.resolve_left fun hready => hs hready.1
  refine .inr ⟨hs', w, List.mem_append_left _ hw, ?_⟩
  rw [asked_append, asked_map, if_pos rfl, hasked, replies_snoc, hreply]
  exact (hmore w).symm

/-- Where a task was before it was answered, and that it has asked for its schema if there is
    one. -/
theorem hasAsked_of_answered (hsound : Sound v es ms rs f) (ha : Answered f i v now a f' r)
    (ih : ∀ s, f.tasks[i]? = some ⟨e, s⟩ → HasAsked e i ms rs s)
    (ht : f'.tasks[i]? = some ⟨e, s'⟩) :
    HasAsked e i (ms ++ [.answer i a now]) (rs ++ r.toList.map (i, ·)) s' := by
  -- The task that is answered is the one that has moved.
  have hmoved : ∀ {e₁ : Entry} {s₁ s₂ : Stage}, f.tasks[i]? = some ⟨e₁, s₁⟩ →
      (f.setStage i s₂).tasks[i]? = some ⟨e, s'⟩ → e₁ = e ∧ s₂ = s' := by
    intro e₁ s₁ s₂ htask hmoved
    rw [tasks_setStage, if_pos rfl, htask] at hmoved
    cases hmoved
    exact ⟨rfl, rfl⟩
  cases ha with
  | asks htask hschema =>
    obtain ⟨rfl, rfl⟩ := hmoved htask ht
    obtain ⟨-, hreplies, -⟩ := hsound.task i _ _ htask
    refine (ih _ htask).answer nofun nofun fun w => ?_
    rw [hreplies]
    exact (Entry.requests_of_schema hschema).trans (congrArg (· ++ _) Entry.requests_nil.symm)
  | unchecked htask hschema =>
    obtain ⟨rfl, rfl⟩ := hmoved htask ht
    obtain ⟨-, hreplies, -⟩ := hsound.task i _ _ htask
    refine (ih _ htask).answer nofun nofun fun w => ?_
    rw [hreplies]
    exact (Entry.requests_unchecked hschema).trans (congrArg (· ++ _) Entry.requests_nil.symm)
  | missing htask hmissing =>
    obtain ⟨rfl, rfl⟩ := hmoved htask ht
    obtain ⟨-, hreplies, -⟩ := hsound.task i _ _ htask
    refine (ih _ htask).answer nofun nofun fun w => ?_
    rw [hreplies]
    exact (Entry.requests_missing hmissing).trans (congrArg (· ++ _) Entry.requests_nil.symm)
  | accepted htask | refused htask =>
    obtain ⟨rfl, rfl⟩ := hmoved htask ht
    obtain ⟨-, _, _, -, hreplies, -⟩ := hsound.task i _ _ htask
    refine (ih _ htask).answer nofun nofun fun w => ?_
    rw [hreplies]
    exact (Entry.requests_append (List.cons_ne_nil _ _) _).trans (List.append_nil _).symm

/-- **A task asks for its list once, and for its schema once if a body has come that needs one.** -/
theorem hasAsked_of_run (h : Run v es ms rs f) (ht : f.tasks[i]? = some ⟨e, s⟩) :
    HasAsked e i ms rs s := by
  induction h generalizing s with
  | begin =>
    obtain ⟨e', -, heq⟩ := List.getElem?_map ▸ ht |> Option.map_eq_some_iff.1
    cases heq
    exact .inl ⟨rfl, rfl⟩
  | @poll ms rs f _ j w _ run hpolled ih =>
    -- The task that is polled asks for its list with the etag of that moment.
    obtain ⟨e', htask, rfl, rfl⟩ := poll?_eq_some hpolled
    rw [tasks_setStage] at ht
    by_cases hj : j = i
    · subst hj
      rw [if_pos rfl, htask] at ht
      cases ht
      obtain ⟨-, hreplies, -⟩ := (sound_of_run run).task j _ .ready htask
      rcases ih htask with ⟨-, hnone⟩ | ⟨hne, -⟩
      · refine .inr ⟨nofun, w, List.mem_append_right _ (List.mem_singleton_self _), ?_⟩
        rw [asked_append, hnone, replies_snoc, hreplies]
        exact (asked_map j j [_]).trans ((if_pos rfl).trans Entry.requests_nil.symm)
      · exact absurd rfl hne
    · rw [if_neg hj] at ht
      exact (ih ht).other rfl ((asked_map i j [_]).trans (if_neg hj))
  | @answer ms rs f f' j a now r run hanswered ih =>
    have hcase := answered_of_answer? hanswered
    by_cases hj : j = i
    · subst hj
      exact hasAsked_of_answered (sound_of_run run) hcase (fun _ => ih) ht
    -- An answer moves its own task only.
    · have hsame : f'.tasks[i]? = f.tasks[i]? := by
        cases hcase with
        | asks | missing | refused => exact (tasks_setStage ..).trans (if_neg hj)
        | unchecked | accepted => exact (tasks_setStage f j i .finished).trans (if_neg hj)
      rw [hsame] at ht
      exact (ih ht).other (if_neg hj) ((asked_map i j _).trans (if_neg hj))

/-- **Once every task has finished, every list has been asked for**, with an etag that was found
    when its task was polled. -/
theorem requests_of_run (h : Run v es ms rs f) (hfinished : f.isFinished = true)
    (he : es[i]? = some e) :
    ∃ w, .poll i w ∈ ms ∧ asked i rs = e.requests w (replies i ms) := by
  obtain ⟨s, ht, -⟩ := (sound_of_run h).exists_task he
  obtain rfl : s = .finished := task_of_isFinished hfinished ht
  exact ((hasAsked_of_run h ht).resolve_left nofun).2

/-- Nobody but the tasks asks. -/
theorem lt_of_run (h : Run v es ms rs f) : ∀ p ∈ rs, p.1 < es.length := by
  induction h with
  | begin => exact fun p hp => absurd hp List.not_mem_nil
  | @poll ms rs f _ j w _ run hpolled ih =>
    -- A task that asks is one of the entries.
    obtain ⟨e', htask, -, -⟩ := poll?_eq_some hpolled
    have hj : j < es.length := (sound_of_run run).length ▸ (List.getElem?_eq_some_iff.1 htask).1
    intro p hp
    rcases List.mem_append.1 hp with hp | hp
    · exact ih p hp
    · rw [List.mem_singleton.1 hp]
      exact hj
  | @answer ms rs f f' j a now r run hanswered ih =>
    have hj : j < es.length := by
      rw [← (sound_of_run run).length]
      cases answered_of_answer? hanswered with
      | asks htask | unchecked htask | missing htask | accepted htask | refused htask =>
        exact (List.getElem?_eq_some_iff.1 htask).1
    intro p hp
    rcases List.mem_append.1 hp with hp | hp
    · exact ih p hp
    · obtain ⟨_, -, rfl⟩ := List.mem_map.1 hp
      exact hj

end FanOut

/-! ### One refresh -/

namespace Worker

/-- What others see of the requests of a worker's tasks, under a token that is not cancelled. -/
def taskRequests (id : WorkerId) (rs : List (Nat × Request)) : List Event :=
  rs.map fun (i, r) => .requested (.task id i) r false

/-- The requests of tasks are found piece by piece. -/
theorem taskRequests_append (id : WorkerId) (rs rs' : List (Nat × Request)) :
    taskRequests id (rs ++ rs') = taskRequests id rs ++ taskRequests id rs' := List.map_append

/-- What a worker does, and the world that it finds. -/
structure Act where
  world : World
  action : Action

/-- What that is for a task of its fan-out. -/
def Act.move? (a : Act) : Option FanOut.Move :=
  match a.action with
  | .poll index => some (.poll index a.world)
  | .taskAnswered index answer => some (.answer index answer a.world.moment)
  | _ => none

/-- How a refresh that finds some stores comes by its manifest: what the worker does, what others
    see of that, the manifest, and the world that it leaves. -/
inductive Resolved (c : Config) (id : WorkerId) (w₀ : World) :
    List Act → List Event → Manifest → World → Prop
  /-- There is no URL for it, and the cached one is used. -/
  | kept {w : World} (manifestUrl : c.manifestUrl = none) (stores : w₀.SameStores w) :
      Resolved c id w₀ [⟨w, .start⟩] [.refreshBegan id] (Manifest.fallback c w) w
  /-- It is asked for once, and what comes is used and written if it is one. -/
  | answered {w w' : World} {url : String} {a : Answer} {heed : Bool}
      (manifestUrl : c.manifestUrl = some url) (stores : w₀.SameStores w)
      (stores' : w₀.SameStores w') :
      Resolved c id w₀ [⟨w, .start⟩, ⟨w', .manifestAnswered a heed⟩]
        ([.refreshBegan id, .requested (.manifest id) (Manifest.request c w url) false] ++
          (Manifest.fresh? c w' url a).toList.map fun (_, content) =>
            wrote w' ContentStore.manifestId content)
        (Manifest.resolve c w' url (Manifest.fallback c w) a).1
        (Manifest.resolve c w' url (Manifest.fallback c w) a).2

/-- One whole refresh that finds some stores: what the worker does, what others see of it, and the
    world that it leaves. -/
inductive Completed (c : Config) (id : WorkerId) (w₀ : World) :
    List Act → List Event → World → Prop
  /-- The manifest is resolved.  Then every list is asked for once, with the etag that is cached
      under its id, and its schema once and without any, if a body has come that needs one; and
      nothing else.  What has come is written, and the time is noted once. -/
  | intro {first more last : List Act} {opening : List Event} {m : Manifest} {w w' : World}
      {ms : List FanOut.Move} {rs : List (Nat × Request)} {f : FanOut}
      (resolved : Resolved c id w₀ first opening m w) (moves : more.map Act.move? = ms.map some)
      (run : FanOut.Run c.validator m.entries ms rs f) (finished : f.isFinished = true)
      (requests : ∀ (i : Nat) (e : Manifest.Entry), m.entries[i]? = some e →
        ∃ u, .poll i u ∈ ms ∧ w.SameStores u ∧
          FanOut.asked i rs = e.requests u (FanOut.replies i ms))
      (nothingElse : ∀ p ∈ rs, p.1 < m.entries.length)
      (closing : m.entries = [] ∧ last = [] ∧ w' = w ∨ ∃ heed, last = [⟨w', .collect heed⟩])
      (stores : w.SameStores w')
      (outcome : FanOut.Outcome c.validator m.entries ms w' (f.persist w')) :
      Completed c id w₀ (first ++ more ++ last)
        (opening ++ taskRequests id rs ++ FanOut.seen w' f.arrived ++
          [.refreshRecorded id w'.now (!w'.fails .writeRefreshTime)])
        (f.persist w').1.recordRefresh

/-- A refresh that finds some stores, as far as it has come: what the worker has done, what others
    have seen of it, where the worker waits, and a world with the stores as they are now. -/
inductive Cycle (c : Config) (id : WorkerId) (w₀ : World) :
    List Act → List Event → Stage → World → Prop
  | hired {w : World} (stores : w₀.SameStores w) : Cycle c id w₀ [] [] (.spawned true) w
  | asking {w w' : World} {url : String} (manifestUrl : c.manifestUrl = some url)
      (stores : w₀.SameStores w) (stores' : w₀.SameStores w') :
      Cycle c id w₀ [⟨w, .start⟩]
        [.refreshBegan id, .requested (.manifest id) (Manifest.request c w url) false]
        (.resolving (Manifest.fallback c w)) w'
  | fetching {first more : List Act} {opening : List Event} {m : Manifest} {w w' : World}
      {ms : List FanOut.Move} {rs : List (Nat × Request)} {f : FanOut}
      (resolved : Resolved c id w₀ first opening m w) (moves : more.map Act.move? = ms.map some)
      (run : FanOut.Run c.validator m.entries ms rs f)
      (polled : ∀ i u, .poll i u ∈ ms → w.SameStores u) (stores : w.SameStores w') :
      Cycle c id w₀ (first ++ more) (opening ++ taskRequests id rs) (.fetching f) w'
  | completed {acts : List Act} {log : List Event} {w w' : World}
      (completed : Completed c id w₀ acts log w) (stores : w.SameStores w') :
      Cycle c id w₀ acts log .awaiting w'

variable {c : Config} {id : WorkerId} {w₀ w w' : World} {acts first more last : List Act}
  {log opening : List Event} {m : Manifest} {v : Worker} {s : Surroundings} {t : Turn} {a : Action}
  {stage : Stage}

/-- In a manifest that has been resolved the ids are distinct. -/
theorem Resolved.nodup (h : Resolved c id w₀ first opening m w) : (m.entries.map (·.id)).Nodup := by
  cases h with
  | kept => exact Manifest.nodup_fallback c w
  | @answered u => exact Manifest.nodup_resolve (Manifest.nodup_fallback c u) c _ _ _

/-- Nothing but the stores counts. -/
theorem Cycle.congr (h : Cycle c id w₀ acts log stage w) (hw : w.SameStores w') :
    Cycle c id w₀ acts log stage w' := by
  cases h with
  | hired hstores => exact .hired (hstores.trans hw)
  | asking hurl hstores hstores' => exact .asking hurl hstores (hstores'.trans hw)
  | fetching hresolved hmoves hrun hpolled hstores =>
    exact .fetching hresolved hmoves hrun hpolled (hstores.trans hw)
  | completed hcompleted hstores => exact .completed hcompleted (hstores.trans hw)

/-- A refresh goes on, or has come to its end, and then its result is offered. -/
structure Advances (s : Surroundings) (w₀ : World) (acts : List Act) (log : List Event) (v : Worker)
    (t : Turn) : Prop where
  cycle : Cycle s.config s.id w₀ acts (log ++ t.events) t.worker.stage t.world
  handover : t.worker.handover = if t.worker.stage = .awaiting then .offered else v.handover

/-! ### How it goes on -/

/-- What a worker leaves that writes what has come and notes the time. -/
theorem advances_finish {ms : List FanOut.Move} {rs : List (Nat × Request)} {f : FanOut}
    (hcancelled : s.cancelled = false) (hheard : v.hasConsumer = true)
    (hresolved : Resolved s.config s.id w₀ first opening m w)
    (hmoves : more.map Act.move? = ms.map some)
    (hrun : FanOut.Run s.config.validator m.entries ms rs f) (hfinished : f.isFinished = true)
    (hpolled : ∀ i u, .poll i u ∈ ms → w.SameStores u)
    (hclosing : m.entries = [] ∧ last = [] ∧ s.world = w ∨
      ∃ heed, last = [⟨s.world, .collect heed⟩])
    (hstores : w.SameStores s.world) (heed : Bool) :
    Advances s w₀ (first ++ more ++ last) (opening ++ taskRequests s.id rs) v
      (v.collectTurn s f heed) := by
  -- Somebody listens and nobody has cancelled, so the result is offered.
  have hoffers : (v.finish { s with world := (f.persist s.world).1 } heed).worker =
      { v with handover := .offered, stage := .awaiting } := by
    simp [finish, hcancelled, hheard]
  have hsame := (World.Refreshed.writeAll s.world f.arrived).eq
  have hnow : (f.persist s.world).1.now = s.world.now := by
    show (FanOut.writeAll s.world f.arrived).now = _
    rw [hsame]
  have hfails : (f.persist s.world).1.fails .writeRefreshTime =
      s.world.fails .writeRefreshTime := by
    show (FanOut.writeAll s.world f.arrived).fails _ = _
    rw [hsame]
    rfl
  have hcompleted : Completed s.config s.id w₀ (first ++ more ++ last)
      (opening ++ taskRequests s.id rs ++ (v.collectTurn s f heed).events)
      (v.collectTurn s f heed).world := by
    -- The copies are written first, and the time is noted last.
    have hevents : (v.collectTurn s f heed).events = FanOut.seen s.world f.arrived ++
        [.refreshRecorded s.id s.world.now (!s.world.fails .writeRefreshTime)] := by
      rw [← hnow, ← hfails]
      rfl
    rw [hevents, ← List.append_assoc]
    refine .intro hresolved hmoves hrun hfinished (fun i e he => ?_) (FanOut.lt_of_run hrun)
      hclosing hstores (FanOut.outcome_of_sound hresolved.nodup (FanOut.sound_of_run hrun) s.world)
    obtain ⟨u, hu, hasked⟩ := FanOut.requests_of_run hrun hfinished he
    exact ⟨u, hu, hpolled i u hu, hasked⟩
  constructor
  · rw [show (v.collectTurn s f heed).worker = _ from hoffers]
    exact .completed hcompleted (.refl _)
  · rw [show (v.collectTurn s f heed).worker = _ from hoffers]
    rfl

/-- What a worker leaves that has got its manifest; without lists there is nothing to wait for. -/
theorem advances_fetchLists (hcancelled : s.cancelled = false) (hheard : v.hasConsumer = true)
    (hresolved : Resolved s.config s.id w₀ first opening m s.world) (heed : Bool) :
    Advances s w₀ first opening v (v.fetchLists s m heed) := by
  have hbegin : FanOut.Run s.config.validator m.entries [] [] (.ofEntries m.entries) := .begin
  unfold fetchLists
  split
  · rename_i hnone
    -- No task is a fan-out that has finished, and writes nothing.
    have hgoes : Advances s w₀ (first ++ [] ++ []) (opening ++ taskRequests s.id []) v _ :=
      advances_finish hcancelled hheard hresolved rfl hbegin (by rw [hnone]; rfl)
        (fun _ _ hu => absurd hu List.not_mem_nil) (.inl ⟨hnone, rfl, rfl⟩) (.refl _) heed
    rw [taskRequests, List.map_nil, List.append_nil, List.append_nil, List.append_nil] at hgoes
    exact hgoes
  · have hcycle : Cycle s.config s.id w₀ (first ++ []) _ _ _ :=
      .fetching hresolved rfl hbegin (fun _ _ hu => absurd hu List.not_mem_nil) (.refl _)
    rw [List.append_nil] at hcycle
    exact ⟨hcycle, rfl⟩

/-- The first check of a worker that is forced begins a refresh, if the guard is off. -/
theorem advances_check (hstores : w₀.SameStores s.world) (hheard : v.hasConsumer = true)
    (hcancelled : s.cancelled = false) (honline : s.world.isOffline = false) :
    Advances s w₀ [⟨s.world, .start⟩] [] v (v.check s true) := by
  have hcase := checkCase_check v s true
  generalize v.check s true = t at hcase ⊢
  -- Nothing is in the way, so the check goes on to the refresh.
  cases hcase with
  | cancelled hyes =>
    rw [hcancelled] at hyes
    cases hyes
  | spared _ hspared =>
    rcases hspared with hoff | ⟨hforce, -⟩
    · rw [honline] at hoff
      cases hoff
    · cases hforce
  | fetches _ _ _ hurl heq =>
    subst heq
    obtain ⟨hcycle, hhandover⟩ := advances_fetchLists (v := v) hcancelled hheard
      (.kept hurl hstores) true
    exact ⟨hcycle, hhandover⟩
  | asks _ _ _ hurl =>
    rw [hcancelled]
    exact ⟨.asking hurl hstores hstores, rfl⟩

namespace Cycle

variable {f f' : FanOut} {i : Nat} {q : Request} {r : Option Request} {reply : Answer}

/-- The manifest comes, or does not. -/
theorem resolve {fallback : Manifest} {url : String}
    (h : Cycle s.config s.id w₀ acts log (.resolving fallback) s.world)
    (hheard : v.hasConsumer = true) (hcancelled : s.cancelled = false)
    (hurl : s.config.manifestUrl = some url) (heed : Bool) :
    Advances s w₀ (acts ++ [⟨s.world, .manifestAnswered reply heed⟩]) log v
      (v.manifestTurn s url fallback reply heed) := by
  cases h with
  | @asking w _ _ hurl' hstores hstores' =>
    cases hurl'.symm.trans hurl
    have hresolved : Resolved s.config s.id w₀
        [⟨w, .start⟩, ⟨s.world, .manifestAnswered reply heed⟩] _ _ _ :=
      .answered hurl hstores hstores'
    obtain ⟨hcycle, hhandover⟩ := advances_fetchLists (v := v)
      (s := { s with world := (Manifest.resolve s.config s.world url
        (Manifest.fallback s.config w) reply).2 }) hcancelled hheard hresolved heed
    rw [List.append_assoc] at hcycle
    exact ⟨hcycle, hhandover⟩

/-- A task asks for its list. -/
theorem poll (h : Cycle s.config s.id w₀ acts log (.fetching f) s.world)
    (hcancelled : s.cancelled = false) (hpolled : f.poll? i s.world = some (f', q)) :
    Cycle s.config s.id w₀ (acts ++ [⟨s.world, .poll i⟩]) (log ++ [taskRequest s i q])
      (.fetching f') s.world := by
  cases h with
  -- The request is the task's own, and not cancelled.
  | @fetching first more opening m w _ ms rs _ hresolved hmoves hrun hpolls hstores =>
    have hevents : opening ++ taskRequests s.id rs ++ [taskRequest s i q] =
        opening ++ taskRequests s.id (rs ++ [(i, q)]) := by
      rw [taskRequests_append, List.append_assoc, taskRequest, hcancelled]
      rfl
    rw [hevents, List.append_assoc]
    refine .fetching hresolved ?_ (hrun.poll hpolled) (fun j u hu => ?_) hstores
    · rw [List.map_append, List.map_append, hmoves]
      rfl
    · rcases List.mem_append.1 hu with hu | hu
      · exact hpolls j u hu
      · cases List.mem_singleton.1 hu
        exact hstores

/-- A task is answered, and may ask for its schema. -/
theorem answer (h : Cycle s.config s.id w₀ acts log (.fetching f) s.world)
    (hcancelled : s.cancelled = false)
    (hanswered : f.answer? i s.config.validator s.world.moment reply = some (f', r)) :
    Cycle s.config s.id w₀ (acts ++ [⟨s.world, .taskAnswered i reply⟩])
      (log ++ r.toList.map (taskRequest s i)) (.fetching f') s.world := by
  cases h with
  | @fetching first more opening m w _ ms rs _ hresolved hmoves hrun hpolls hstores =>
    have hevents : opening ++ taskRequests s.id rs ++ r.toList.map (taskRequest s i) =
        opening ++ taskRequests s.id (rs ++ r.toList.map (i, ·)) := by
      -- Whatever the task asks next is not cancelled either.
      rw [taskRequests_append, List.append_assoc, taskRequests, taskRequests, List.map_map]
      have hnew : r.toList.map (taskRequest s i) =
          r.toList.map fun q => .requested (.task s.id i) q false := by
        rw [← hcancelled]
        rfl
      rw [hnew]
      rfl
    rw [hevents, List.append_assoc]
    refine .fetching hresolved ?_ (hrun.answer hanswered) (fun j u hu => ?_) hstores
    · rw [List.map_append, List.map_append, hmoves]
      rfl
    · rcases List.mem_append.1 hu with hu | hu
      · exact hpolls j u hu
      · cases List.mem_singleton.1 hu

/-- The refresh comes to its end. -/
theorem collect (h : Cycle s.config s.id w₀ acts log (.fetching f) s.world)
    (hheard : v.hasConsumer = true) (hcancelled : s.cancelled = false)
    (hfinished : f.isFinished = true) (heed : Bool) :
    Advances s w₀ (acts ++ [⟨s.world, .collect heed⟩]) log v (v.collectTurn s f heed) := by
  cases h with
  | fetching hresolved hmoves hrun hpolls hstores =>
    exact advances_finish hcancelled hheard hresolved hmoves hrun hfinished hpolls
      (.inr ⟨heed, rfl⟩) hstores heed

end Cycle

/-- A worker whose result is not acknowledged does nothing more. -/
theorem busy_of_act? (hwaits : v.stage = .awaiting → v.handover = .offered ∨ v.handover = .taken)
    (hcancelled : s.cancelled = false) (ht : v.act? s a = some t) : v.stage ≠ .awaiting := by
  intro hawaits
  cases step_of_act? ht with
  | quit _ hyes =>
    rw [hcancelled] at hyes
    cases hyes
  | acknowledged _ hhandover | dropped _ hhandover =>
    rcases hwaits hawaits with h | h <;> rw [hhandover] at h <;> cases h
  | expire hother | start hother | tick hother | manifestAnswered hother | poll hother
  | taskAnswered hother | collect hother => cases hawaits.symm.trans hother

/-- **A refresh that nobody disturbs goes on as it should**: whatever its worker does, while the
    guard is off and the steady clock can hold the next tick, under a token that is not
    cancelled. -/
theorem advances_of_act? (h : Cycle s.config s.id w₀ acts log v.stage s.world)
    (hheard : v.hasConsumer = true) (hbusy : v.stage ≠ .awaiting)
    (hcancelled : s.cancelled = false) (honline : s.world.isOffline = false)
    (hearly : s.clock + s.config.checkInterval.nanoseconds < instantLimit)
    (ht : v.act? s a = some t) : Advances s w₀ (acts ++ [⟨s.world, a⟩]) log v t := by
  -- Nothing cancels the worker, and its clock holds the next tick.
  cases step_of_act? ht with
  | expire _ hlate => exact absurd hearly (Nat.not_lt.2 hlate)
  | start hspawned =>
    rw [hspawned] at h
    cases h with
    | hired hstores =>
      obtain ⟨hcycle, hhandover⟩ := advances_check
        (v := { v with nextTick := s.clock + s.config.checkInterval.nanoseconds }) hstores hheard
        hcancelled honline
      exact ⟨hcycle, hhandover⟩
  | tick hidle =>
    rw [hidle] at h
    cases h
  | quit _ hyes =>
    rw [hcancelled] at hyes
    cases hyes
  | acknowledged hawaits | dropped hawaits => exact absurd hawaits hbusy
  | manifestAnswered hresolving hurl =>
    rw [hresolving] at h
    exact h.resolve hheard hcancelled hurl _
  | poll hfetching hpolled =>
    rw [hfetching] at h
    exact ⟨h.poll hcancelled hpolled, rfl⟩
  | taskAnswered hfetching _ hanswered =>
    rw [hfetching] at h
    exact ⟨h.answer hcancelled hanswered, rfl⟩
  | collect hfetching hfinished =>
    rw [hfetching] at h
    exact h.collect hheard hcancelled hfinished _

/-! ### That it can go on -/

/-- How far a refresh is from its end: which part of it is next, and how many moves its tasks have
    before them. -/
def Stage.ahead : Stage → Nat × Nat
  | .spawned _ => (3, 0)
  | .resolving _ => (2, 0)
  | .fetching f => (1, f.left)
  | .idle | .awaiting | .exited => (0, 0)

/-- Nearer to the end of a refresh. -/
def Nearer : Nat × Nat → Nat × Nat → Prop := Prod.Lex (· < ·) (· < ·)

/-- There is no endless way nearer to the end. -/
theorem wellFounded_nearer : WellFounded Nearer :=
  (Prod.lex Nat.lt_wfRel Nat.lt_wfRel).wf

/-- After the end of a refresh nothing of it is ahead. -/
theorem ahead_finish (v : Worker) (s : Surroundings) (heed : Bool) :
    (v.finish s heed).worker.stage.ahead = (0, 0) := by
  rcases stage_finish v s heed with hstage | hstage <;> rw [hstage] <;> rfl

/-- Beginning to fetch is nearer to the end than waiting for the manifest. -/
theorem ahead_fetchLists (v : Worker) (s : Surroundings) (m : Manifest) (heed : Bool) {n k : Nat}
    (hn : 1 < n) : Nearer (v.fetchLists s m heed).worker.stage.ahead (n, k) := by
  unfold fetchLists
  split
  · rw [ahead_finish]
    exact .left _ _ (Nat.zero_lt_of_lt hn)
  · exact .left _ _ hn

/-- **A refresh that has not come to its end can go on, towards its end**, even if nothing
    answers. -/
theorem exists_advance (h : Cycle s.config s.id w₀ acts log v.stage s.world)
    (hbusy : v.stage ≠ .awaiting) (hcancelled : s.cancelled = false)
    (honline : s.world.isOffline = false)
    (hearly : s.clock + s.config.checkInterval.nanoseconds < instantLimit) :
    ∃ a t, v.act? s a = some t ∧ Nearer t.worker.stage.ahead v.stage.ahead := by
  have hadmits : admits s.cancelled (.error .failed) = true := by
    rw [hcancelled]
    rfl
  generalize hstage : v.stage = stage at h hbusy ⊢
  cases h with
  | hired =>
    -- A forced check goes on to the refresh.
    have hact : v.act? s .start =
        some ({ v with nextTick := s.clock + s.config.checkInterval.nanoseconds }.refresh s) := by
      simp [act?, hstage, Nat.not_le.2 hearly, check, hcancelled, honline]
    refine ⟨.start, _, hact, ?_⟩
    unfold refresh
    split
    · exact ahead_fetchLists _ _ _ _ (Nat.lt_add_left 1 (Nat.lt_add_one 1))
    · exact .left _ _ (Nat.lt_add_one 2)
  | @asking w _ url hurl =>
    -- Should nothing else come, an answer that fails can.
    have hact : v.act? s (.manifestAnswered (.error .failed) true) =
        some (v.manifestTurn s url (Manifest.fallback s.config w) (.error .failed) true) := by
      simp only [act?, hstage, hurl, hadmits, if_true]
      rfl
    exact ⟨_, _, hact, ahead_fetchLists _ _ _ _ (Nat.lt_add_one 1)⟩
  | @fetching _ _ _ _ _ _ _ _ f =>
    cases hfinished : f.isFinished with
    | true =>
      have hact : v.act? s (.collect true) = some (v.collectTurn s f true) := by
        simp only [act?, hstage, hfinished, if_true]
        rfl
      refine ⟨_, _, hact, ?_⟩
      rw [show (v.collectTurn s f true).worker.stage.ahead = (0, 0) from ahead_finish ..]
      exact .left _ _ Nat.one_pos
    | false =>
      -- Some task can be polled, or be given an answer that fails.
      obtain ⟨i, hpoll | hanswer⟩ := FanOut.exists_move_of_not_isFinished hfinished
      · obtain ⟨⟨f', r⟩, hpolled⟩ := Option.isSome_iff_exists.1 (hpoll s.world)
        have hact : v.act? s (.poll i) =
            some ⟨{ v with stage := .fetching f' }, s.world, [taskRequest s i r]⟩ := by
          simp only [act?, hstage, hpolled, Option.map_some]
        exact ⟨_, _, hact, .right _ (FanOut.left_lt_of_poll? hpolled)⟩
      · obtain ⟨⟨f', r⟩, hanswered⟩ := Option.isSome_iff_exists.1
          (hanswer s.config.validator s.world.moment (.error .failed))
        have hact : v.act? s (.taskAnswered i (.error .failed)) =
            some ⟨{ v with stage := .fetching f' }, s.world, r.toList.map (taskRequest s i)⟩ := by
          simp only [act?, hstage, hadmits, if_true, hanswered, Option.map_some]
        exact ⟨_, _, hact, .right _ (FanOut.left_lt_of_answer? hanswered)⟩
  | completed => exact absurd rfl hbusy

end Worker

end TokenCatalog
