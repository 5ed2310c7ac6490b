import TokenCatalog.Proofs.Engine.Step
import TokenCatalog.Proofs.Engine.Path
import TokenCatalog.Proofs.Refresh.FanOut

namespace TokenCatalog

open Manifest (Entry)
open ContentStore (manifestId)

/-!
# Provenance — who served what the content store holds

While the application leaves the content store alone, whatever stands in it was there at the
beginning or is what one answer brought: URL, etag and body together.

* `FanOut.Holds` — a fan-out has a document: it has arrived, or its task still asks for a schema;
* `Engine.rests_or_act_of_step` — a worker runs, or all of them rest;
* `Engine.ServesManifest`, `Engine.ServesList` — an answer that brings a manifest or a list;
* `Engine.exists_run_of_path`, `Engine.servedList_of_path` — what the tasks on a path have;
* `Engine.cached_of_path` — what is cached was so at the beginning, or was served.
-/

/-! ### Tasks -/

namespace FanOut

variable {f f' : FanOut} {id : String} {d : Document} {i : Nat}

/-- A fan-out has a document for an id: it has arrived, or its task still asks for the schema. -/
inductive Holds (f : FanOut) (id : String) (d : Document) : Prop
  | arrived {content : Content} (arrived : (id, content) ∈ f.arrived) (eq : content.document = d)
  | pending {i : Nat} {e : Entry} (task : f.tasks[i]? = some ⟨e, .fetchingSchema d.body d.etag⟩)
      (id_eq : e.id = id) (url : d.url = e.sourceUrl)

/-- A fan-out that has just begun has no documents. -/
theorem not_holds_ofEntries (es : List Entry) : ¬ (ofEntries es).Holds id d := by
  rintro (⟨harrived, -⟩ | ⟨htask, -, -⟩)
  · exact List.not_mem_nil harrived
  · obtain ⟨e, -, heq⟩ := Option.map_eq_some_iff.1 (List.getElem?_map ▸ htask)
    cases heq

/-- Where a document comes from that a fan-out has after a task has moved. -/
theorem holds_setStage {s : Stage} (h : (f.setStage i s).Holds id d) :
    f.Holds id d ∨ ∃ e s₀, f.tasks[i]? = some ⟨e, s₀⟩ ∧ s = .fetchingSchema d.body d.etag ∧
      e.id = id ∧ d.url = e.sourceUrl := by
  rcases h with ⟨harrived, heq⟩ | @⟨j, e, htask, hid, hurl⟩
  · exact .inl (.arrived harrived heq)
  · rw [tasks_setStage] at htask
    split at htask
    · rename_i hij
      subst hij
      obtain ⟨⟨e₀, s₀⟩, ht, heq⟩ := Option.map_eq_some_iff.1 htask
      cases heq
      exact .inr ⟨e₀, s₀, ht, rfl, hid, hurl⟩
    · exact .inl (.pending htask hid hurl)

/-- A list that is delivered is what the fan-out has then, and what it had before. -/
theorem holds_deliver {e : Entry} {body : Bytes} {etag : String} {now : Moment}
    (h : (f.deliver i e body etag now).Holds id d) :
    f.Holds id d ∨ id = e.id ∧ d = ⟨e.sourceUrl, etag, body⟩ := by
  rcases h with ⟨harrived, heq⟩ | ⟨htask, hid, hurl⟩
  · rcases List.mem_append.1 harrived with harrived | harrived
    · exact .inl (.arrived harrived heq)
    · cases List.mem_singleton.1 harrived
      exact .inr ⟨rfl, heq.symm⟩
  · have hset : (f.setStage i .finished).Holds id d := .pending htask hid hurl
    rcases holds_setStage hset with hf | ⟨_, _, _, hs, _⟩
    · exact .inl hf
    · cases hs

/-- Asking brings no document. -/
theorem holds_of_poll? {w : World} {r : Request} (h : f.poll? i w = some (f', r))
    (hd : f'.Holds id d) : f.Holds id d := by
  obtain ⟨e, -, rfl, -⟩ := poll?_eq_some h
  rcases holds_setStage hd with hf | ⟨_, _, _, hs, _⟩
  · exact hf
  · cases hs

/-- **Lists come as answers.**  What a fan-out has after an answer it had before, or the answer is
    the list's body. -/
theorem holds_of_answer? {v : Validator} {now : Moment} {a : Answer} {r : Option Request}
    (h : f.answer? i v now a = some (f', r)) (hd : f'.Holds id d) :
    f.Holds id d ∨ ∃ e, f.tasks[i]? = some ⟨e, .fetchingList⟩ ∧ a = .ok ⟨some d.body, d.etag⟩ ∧
      e.id = id ∧ d.url = e.sourceUrl := by
  cases answered_of_answer? h with
  | asks htask =>
    rcases holds_setStage hd with hf | ⟨e', s₀, htask', hs, hid, hurl⟩
    · exact .inl hf
    · cases hs
      cases htask.symm.trans htask'
      exact .inr ⟨_, htask, rfl, hid, hurl⟩
  | unchecked htask =>
    rcases holds_deliver hd with hf | ⟨rfl, rfl⟩
    · exact .inl hf
    · exact .inr ⟨_, htask, rfl, rfl, rfl⟩
  | missing | refused =>
    rcases holds_setStage hd with hf | ⟨_, _, _, hs, _⟩
    · exact .inl hf
    · cases hs
  | accepted htask =>
    -- The body was there before its schema came.
    rcases holds_deliver hd with hf | ⟨rfl, rfl⟩
    · exact .inl hf
    · exact .inl (.pending htask rfl rfl)

end FanOut

/-! ### Crews -/

namespace Crew

variable {k k' k'' : Crew}

/-- Where a worker waits. -/
def stage? (k : Crew) (id : WorkerId) : Option Worker.Stage := k.workers[id]?.map (·.stage)

/-- A worker that is there waits at its stage. -/
theorem stage?_of_getElem? {id : WorkerId} {w : Worker} (h : k.workers[id]? = some w) :
    k.stage? id = some w.stage := by
  rw [stage?, h]
  rfl

/-- Where one waits there is a worker. -/
theorem exists_of_stage? {id : WorkerId} {s : Worker.Stage} (h : k.stage? id = some s) :
    ∃ w, k.workers[id]? = some w ∧ w.stage = s :=
  Option.map_eq_some_iff.1 h

/-- A worker that has run waits elsewhere, and the others where they did. -/
theorem stage?_of_turn {i : WorkerId} {v : Worker} {t : Worker.Turn}
    (hv : k.workers[i]? = some v)
    (h : k' = { k with world := t.world, workers := k.workers.set i t.worker }) (j : WorkerId) :
    k'.stage? j = if i = j then some t.worker.stage else k.stage? j := by
  rw [h, stage?, stage?]
  show ((k.workers.set i t.worker)[j]?).map _ = _
  by_cases hj : i = j
  · subst hj
    rw [if_pos rfl, List.getElem?_set_self (List.getElem?_eq_some_iff.1 hv).1]
    rfl
  · rw [if_neg hj, List.getElem?_set_ne hj]

/-- No worker of a crew runs on the way to another one: each waits where it did, or is new. -/
structure Still (k k' : Crew) : Prop where
  stage? : ∀ id s, k.stage? id = some s → k'.stage? id = some s
  new : ∀ id s, k.stage? id = none → k'.stage? id = some s → ∃ force, s = .spawned force

namespace Still

/-- Crews whose workers all wait where they did stand still. -/
theorem of_stages (h : ∀ id, k'.stage? id = k.stage? id) : Still k k' := by
  refine ⟨fun id s hs => (h id).trans hs, fun id s hnone hs => ?_⟩
  rw [h id, hnone] at hs
  cases hs

/-- A crew stands still on the way to itself. -/
theorem refl (k : Crew) : Still k k := of_stages fun _ => rfl

/-- Crews that stand still twice stand still. -/
theorem trans (h : Still k k') (h' : Still k' k'') : Still k k'' := by
  refine ⟨fun id s hs => h'.stage? id s (h.stage? id s hs), fun id s hnone hs => ?_⟩
  cases hmid : k'.stage? id with
  | none => exact h'.new id s hmid hs
  | some s' =>
    obtain ⟨force, rfl⟩ := h.new id s' hnone hmid
    exact ⟨force, Option.some.inj (hs.symm.trans (h'.stage? id _ hmid))⟩

/-- Crews that agree barely stand still. -/
theorem of_bare (h : k'.bare = k.bare) : Still k k' := by
  refine of_stages fun id => ?_
  have hstage : ∀ k : Crew, k.stage? id = k.bare.stage? id := by
    intro k
    rw [Crew.stage?, Crew.stage?, bare, List.getElem?_map, Option.map_map]
    rfl
  rw [hstage k', h, ← hstage k]

/-- Telling a worker to stop moves nobody. -/
theorem stop (k : Crew) (id : WorkerId) : Still k (k.stop id) := by
  refine of_stages fun j => ?_
  rw [Crew.stage?, getElem?_stop, Crew.stage?]
  by_cases hj : id = j
  · rw [if_pos hj, Option.map_map]
    rfl
  · rw [if_neg hj]

/-- A worker that comes moves nobody else. -/
theorem spawn (k : Crew) (parent : TokenId) (force : Bool) :
    Still k (k.spawn parent force).1 := by
  constructor
  · intro id s hs
    obtain ⟨w, hw, rfl⟩ := exists_of_stage? hs
    have hid : id ≠ k.workers.length := Nat.ne_of_lt (List.getElem?_eq_some_iff.1 hw).1
    exact stage?_of_getElem? (by rw [getElem?_spawn, if_neg hid, hw])
  · intro id s hnone hs
    rw [Crew.stage?, getElem?_spawn] at hs
    split at hs
    · cases hs
      exact ⟨force, rfl⟩
    · rw [Crew.stage?] at hnone
      rw [hnone] at hs
      cases hs

end Still

/-- No worker of a crew runs on the way to another one: the store holds the same, and workers are
    where they were, or are new. -/
structure Rests (k k' : Crew) : Prop where
  contents : k'.world.contents = k.world.contents
  worker : ∀ {i : WorkerId} {w : Worker}, k'.workers[i]? = some w →
    (∃ force, w.stage = .spawned force) ∨ ∃ v, k.workers[i]? = some v ∧ v.stage = w.stage

/-- A crew that stands still rests if the store holds the same. -/
theorem Still.rests (h : Still k k') (hcontents : k'.world.contents = k.world.contents) :
    Rests k k' := by
  refine ⟨hcontents, fun {i w} hw => ?_⟩
  have hstage' := stage?_of_getElem? hw
  cases hstage : k.stage? i with
  | none => exact .inl (h.new i _ hstage hstage')
  | some s =>
    obtain ⟨v, hv, rfl⟩ := exists_of_stage? hstage
    exact .inr ⟨v, hv, Option.some.inj ((h.stage? i _ hstage).symm.trans hstage')⟩

end Crew

namespace Engine

variable {c : Config} {start e e' : Engine} {a : Action} {events : List Event} {id : String}
  {d : Document} {ts : List Transition}

/-- The promise that the application leaves the content store as it is. -/
def LeavesContents (e : Engine) : Action → Prop
  | .alter w => w.contents = e.crew.world.contents
  | _ => True

instance (e : Engine) (a : Action) : Decidable (LeavesContents e a) :=
  match a with
  | .alter w => decidable_of_iff (w.contents.entries = e.crew.world.contents.entries)
      ⟨SortedMap.ext, congrArg SortedMap.entries⟩
  | .elapse _ | .cancel _ | .invoke _ | .abandon _ | .resume _ | .work .. | .receive | .hangUp =>
    .isTrue trivial

/-- Calls hire and dismiss workers; none of them runs meanwhile. -/
theorem callInvariant_still (k : Crew) :
    CallInvariant fun e => k.Still e.crew ∧ e.crew.world = k.world :=
  callInvariant_crew (P := fun k' => k.Still k' ∧ k'.world = k.world)
    (fun k' w h => ⟨h.1.trans (.stop k' w), h.2⟩)
    (fun k' parent force h => ⟨h.1.trans (.spawn k' parent force), h.2⟩)
    fun _ _ hbare h => ⟨h.1.trans (.of_bare hbare), (Crew.world_of_bare hbare).trans h.2⟩

/-- A step of a worker is a turn of it. -/
theorem exists_turn_of_step {i : WorkerId} {wa : Worker.Action}
    (hs : e.step? c (.work i wa) = some (e', events)) :
    ∃ w t, e.crew.workers[i]? = some w ∧
      w.act? ⟨c, e.crew.world, e.crew.clock, e.crew.isCancelled w, i⟩ wa = some t ∧
      e'.crew = { e.crew with world := t.world, workers := e.crew.workers.set i t.worker } ∧
      events = t.events := by
  obtain ⟨⟨crew, evs⟩, hact, heq⟩ := Option.map_eq_some_iff.1 hs
  cases heq
  exact Crew.exists_turn_of_act? hact

/-- **A worker runs, or all of them are still.**  Then nobody but the application changes the
    world. -/
theorem still_or_act_of_step (hs : e.step? c a = some (e', events)) :
    (e.crew.Still e'.crew ∧ (∀ ev ∈ events, ev.IsNews) ∧
        (e'.crew.world = e.crew.world ∨ a = .alter e'.crew.world) ∧ ∀ i wa, a ≠ .work i wa) ∨
      ∃ i wa w t, a = .work i wa ∧ e.crew.workers[i]? = some w ∧
        w.act? ⟨c, e.crew.world, e.crew.clock, e.crew.isCancelled w, i⟩ wa = some t ∧
        e'.crew = { e.crew with world := t.world, workers := e.crew.workers.set i t.worker } ∧
        events = t.events := by
  have hsilent : ∀ ev ∈ ([] : List Event), ev.IsNews := fun _ hev => absurd hev List.not_mem_nil
  cases a with
  | alter w =>
    cases hs
    exact .inl ⟨.of_stages fun _ => rfl, hsilent, .inr rfl, nofun⟩
  | elapse | cancel | invoke | hangUp =>
    cases hs
    exact .inl ⟨.of_stages fun _ => rfl, hsilent, .inl rfl, nofun⟩
  | abandon i =>
    obtain ⟨e₁, he₁, heq⟩ := Option.map_eq_some_iff.1 hs
    cases heq
    rw [(abandons_of_abandonCall? he₁).crew]
    exact .inl ⟨.refl _, hsilent, .inl rfl, nofun⟩
  | resume p =>
    -- Calls tell workers to stop and bring new ones; they move none.
    cases p with
    | call i =>
      obtain ⟨hstill, hworld⟩ := (callInvariant_still e.crew).resumeCall?_crew
        (P := fun k => e.crew.Still k ∧ k.world = e.crew.world) ⟨.refl _, rfl⟩ hs
      exact .inl ⟨hstill, isNews_resumeCall? hs, .inl hworld, nofun⟩
    | listener i =>
      have hbare := (Keeps.resumeListener? hs).crew
      exact .inl ⟨.of_bare hbare, isNews_resumeListener? hs, .inl (Crew.world_of_bare hbare), nofun⟩
  | work i wa =>
    obtain ⟨w, t, hw, ht, hcrew, hevents⟩ := exists_turn_of_step hs
    exact .inr ⟨i, wa, w, t, rfl, hw, ht, hcrew, hevents⟩
  | receive =>
    obtain ⟨channel, -, heq⟩ := Option.map_eq_some_iff.1 hs
    cases heq
    refine .inl ⟨.refl _, fun ev hev => ?_, .inl rfl, nofun⟩
    rw [List.mem_singleton.1 hev]
    exact trivial

/-- A worker runs, or all of them rest. -/
theorem rests_or_act_of_step (hs : e.step? c a = some (e', events)) (ok : LeavesContents e a) :
    (e.crew.Rests e'.crew ∧ ∀ id, Event.written id events = []) ∨
      ∃ i wa w t, a = .work i wa ∧ e.crew.workers[i]? = some w ∧
        w.act? ⟨c, e.crew.world, e.crew.clock, e.crew.isCancelled w, i⟩ wa = some t ∧
        e'.crew = { e.crew with world := t.world, workers := e.crew.workers.set i t.worker } ∧
        events = t.events := by
  refine (still_or_act_of_step hs).imp_left ?_
  rintro ⟨hstill, hnews, hworld, -⟩
  refine ⟨hstill.rests ?_, fun id => Event.written_eq_nil fun content hc => hnews _ hc⟩
  rcases hworld with hsame | rfl
  · rw [hsame]
  · exact ok

/-! ### Answers -/

/-- An answer brings a manifest. -/
inductive ServesManifest (c : Config) (e : Engine) (d : Document) : Action → Prop
  | intro {i : WorkerId} {w : Worker} {fallback : Manifest} {heed : Bool}
      (worker : e.crew.workers[i]? = some w) (stage : w.stage = .resolving fallback)
      (manifestUrl : c.manifestUrl = some d.url)
      (decodes : (Manifest.decode? c.validator d.body).isSome) :
      ServesManifest c e d (.work i (.manifestAnswered (.ok ⟨some d.body, d.etag⟩) heed))

/-- A manifest is served by the URL of the configuration. -/
theorem ServesManifest.manifestUrl_eq (h : ServesManifest c e d a) :
    c.manifestUrl = some d.url := by
  cases h
  assumption

/-- An answer brings the list of an entry. -/
inductive ServesList (e : Engine) (entry : Entry) (d : Document) : Action → Prop
  | intro {i : WorkerId} {w : Worker} {f : FanOut} {index : Nat}
      (worker : e.crew.workers[i]? = some w) (stage : w.stage = .fetching f)
      (task : f.tasks[index]? = some ⟨entry, .fetchingList⟩) (url : d.url = entry.sourceUrl) :
      ServesList e entry d (.work i (.taskAnswered index (.ok ⟨some d.body, d.etag⟩)))

/-- A list is served by the URL of its entry. -/
theorem ServesList.url_eq {entry : Entry} (h : ServesList e entry d a) :
    d.url = entry.sourceUrl := by
  cases h
  assumption

/-- A document was served on a path as a manifest. -/
def ServedManifest (c : Config) (ts : List Transition) (d : Document) : Prop :=
  ∃ t ∈ ts, ServesManifest c t.before d t.action

/-- A document was served on a path for a list announced under an id. -/
def ServedList (ts : List Transition) (id : String) (d : Document) : Prop :=
  ∃ t ∈ ts, ∃ entry, entry.id = id ∧ ServesList t.before entry d t.action

/-- A document was served on a path for an id: a manifest for the reserved one, or a list. -/
def Served (c : Config) (ts : List Transition) (id : String) (d : Document) : Prop :=
  id = manifestId ∧ ServedManifest c ts d ∨ ServedList ts id d

/-- What was served for a list has been served after more steps. -/
theorem ServedList.append (h : ServedList ts id d) (us : List Transition) :
    ServedList (ts ++ us) id d := by
  obtain ⟨t, ht, hserves⟩ := h
  exact ⟨t, List.mem_append_left us ht, hserves⟩

/-- What was served has been served after more steps. -/
theorem Served.append (h : Served c ts id d) (us : List Transition) : Served c (ts ++ us) id d := by
  rcases h with ⟨hid, t, ht, hserves⟩ | hlist
  · exact .inl ⟨hid, t, List.mem_append_left us ht, hserves⟩
  · exact .inr (hlist.append us)

/-! ### Tasks on a path -/

/-- No worker has tasks that fetch lists. -/
def Unengaged (e : Engine) : Prop :=
  ∀ (i : WorkerId) (w : Worker) (f : FanOut), e.crew.workers[i]? = some w → w.stage ≠ .fetching f

/-- In a new engine nobody fetches. -/
theorem unengaged_initial (world : World) (capacity : Nat) : (initial world capacity).Unengaged :=
  fun _ _ _ hw => nomatch hw

/-- Where a worker's tasks come from: they stay as they are, or the worker moves them. -/
theorem fetching_of_step {i : WorkerId} {w' : Worker} {f' : FanOut}
    (hs : e.step? c a = some (e', events)) (ok : LeavesContents e a)
    (hw' : e'.crew.workers[i]? = some w') (hstage' : w'.stage = .fetching f') :
    (∃ w, e.crew.workers[i]? = some w ∧ w.stage = .fetching f') ∨
      ∃ wa w, a = .work i wa ∧ e.crew.workers[i]? = some w ∧
        w.FetchCase ⟨c, e.crew.world, e.crew.clock, e.crew.isCancelled w, i⟩ wa f' := by
  rcases rests_or_act_of_step hs ok with ⟨hrests, -⟩ | ⟨j, wa, w, t, rfl, hw, ht, hcrew, rfl⟩
  -- A worker that rests was fetching before already.
  · rcases hrests.worker hw' with ⟨force, hnew⟩ | ⟨v, hv, hstage⟩
    · cases hstage'.symm.trans hnew
    · exact .inl ⟨v, hv, hstage.trans hstage'⟩
  · rw [hcrew] at hw'
    by_cases hji : j = i
    · subst hji
      rw [List.getElem?_set_self (List.getElem?_eq_some_iff.1 hw).1] at hw'
      cases hw'
      exact .inr ⟨wa, w, rfl, hw, Worker.fetchCase_of_act? ht hstage'⟩
    · rw [List.getElem?_set_ne hji] at hw'
      exact .inl ⟨w', hw', hstage'⟩

/-- Every fan-out on a path is a run of the entries of some manifest. -/
theorem exists_run_of_path (hp : Path c LeavesContents start ts e) (hidle : start.Unengaged)
    {i : WorkerId} {w : Worker} {f : FanOut} (hw : e.crew.workers[i]? = some w)
    (hstage : w.stage = .fetching f) : ∃ es ms rs, FanOut.Run c.validator es ms rs f := by
  induction hp generalizing i w f with
  | nil => exact absurd hstage (hidle i w f hw)
  | snoc _ ok hs ih =>
    rcases fetching_of_step hs ok hw hstage with ⟨v, hv, hvstage⟩ | ⟨wa, v, -, hv, hcase⟩
    · exact ih hv hvstage
    · cases hcase with
      | begun => exact ⟨_, _, _, .begin⟩
      | polled hvstage hpolled =>
        obtain ⟨es, ms, rs, hrun⟩ := ih hv hvstage
        exact ⟨es, _, _, hrun.poll hpolled⟩
      | answered hvstage hanswered =>
        obtain ⟨es, ms, rs, hrun⟩ := ih hv hvstage
        exact ⟨es, _, _, hrun.answer hanswered⟩

/-- What a fan-out on a path has was served on it for its list. -/
theorem servedList_of_path (hp : Path c LeavesContents start ts e) (hidle : start.Unengaged)
    {i : WorkerId} {w : Worker} {f : FanOut} (hw : e.crew.workers[i]? = some w)
    (hstage : w.stage = .fetching f) (hd : f.Holds id d) : ServedList ts id d := by
  induction hp generalizing i w f with
  | nil => exact absurd hstage (hidle i w f hw)
  | snoc _ ok hs ih =>
    rcases fetching_of_step hs ok hw hstage with ⟨v, hv, hvstage⟩ | ⟨wa, v, rfl, hv, hcase⟩
    · exact (ih hv hvstage hd).append _
    · cases hcase with
      | begun => exact absurd hd (FanOut.not_holds_ofEntries _)
      | polled hvstage hpolled =>
        exact (ih hv hvstage (FanOut.holds_of_poll? hpolled hd)).append _
      | answered hvstage hanswered =>
        rcases FanOut.holds_of_answer? hanswered hd with hold | ⟨entry, htask, rfl, hid, hurl⟩
        · exact (ih hv hvstage hold).append _
        · exact ⟨_, List.mem_append_right _ (List.mem_singleton_self _), entry, hid,
            .intro hv hvstage htask hurl⟩

/-! ### The store on a path -/

/-- **The store holds what was last seen put there**, and else what it held. -/
theorem get?_of_step (hs : e.step? c a = some (e', events)) (ok : LeavesContents e a)
    (id : String) :
    e'.crew.world.contents.get? id =
      ((Event.written id events).getLast?.map e.crew.world.noted).or
        (e.crew.world.contents.get? id) := by
  rcases rests_or_act_of_step hs ok with ⟨hrests, hnone⟩ | ⟨i, wa, w, t, -, -, ht, hcrew, rfl⟩
  · rw [hrests.contents, hnone id]
    rfl
  · rw [hcrew]
    exact Worker.get?_of_act? ht id

/-- What nobody writes stays as it is. -/
theorem get?_of_path (hp : Path c LeavesContents start ts e)
    (hunwritten : ∀ t ∈ ts, Event.written id t.events = []) :
    e.crew.world.contents.get? id = start.crew.world.contents.get? id := by
  induction hp with
  | nil => rfl
  | snoc _ ok hs ih =>
    obtain ⟨hbefore, hlast⟩ := List.forall_mem_append.1 hunwritten
    rw [get?_of_step hs ok, hlast _ (List.mem_singleton_self _), ih hbefore]
    rfl

/-- What is written in a step is a manifest that has come, or a list that a fan-out has brought. -/
theorem written_of_step {content : Content} (hs : e.step? c a = some (e', events))
    (ok : LeavesContents e a) (hw : content ∈ Event.written id events) :
    (id = manifestId ∧ ServesManifest c e content.document a) ∨
      ∃ (i : WorkerId) (heed : Bool) (w : Worker) (f : FanOut),
        a = .work i (.collect heed) ∧ e.crew.workers[i]? = some w ∧ w.stage = .fetching f ∧
        (id, content) ∈ f.arrived := by
  rcases rests_or_act_of_step hs ok with ⟨-, hnone⟩ | ⟨i, wa, w, t, rfl, hi, ht, -, rfl⟩
  · rw [hnone id] at hw
    cases hw
  · cases Worker.writeCase_of_act? ht (Event.mem_written.1 hw) with
    | manifest hstage hurl hm hid heq =>
      subst heq
      exact .inl ⟨hid, .intro hi hstage hurl (by rw [Content.document, hm]; rfl)⟩
    | list hstage _ harrived => exact .inr ⟨i, _, w, _, rfl, hi, hstage, harrived⟩

/-- **Everything has been served.**  What is cached at the end of a path that begins without a
    refresh was cached then, or was served on it. -/
theorem cached_of_path {content : Content} (hp : Path c LeavesContents start ts e)
    (hidle : start.Unengaged) (hc : e.crew.world.contents.get? id = some content) :
    start.crew.world.contents.get? id = some content ∨ Served c ts id content.document := by
  induction hp generalizing content with
  | nil => exact .inl hc
  | snoc hpath ok hs ih =>
    rcases Option.or_eq_some_iff.1 ((get?_of_step hs ok id).symm.trans hc) with
      hnew | ⟨-, hold⟩
    · obtain ⟨written, hlast, rfl⟩ := Option.map_eq_some_iff.1 hnew
      rw [World.document_noted]
      right
      rcases written_of_step hs ok (List.mem_of_getLast? hlast) with
        ⟨hid, hserves⟩ | ⟨i, heed, w, f, -, hw, hstage, harrived⟩
      · exact .inl ⟨hid, _, List.mem_append_right _ (List.mem_singleton_self _), hserves⟩
      · have hserved := servedList_of_path hpath hidle hw hstage (.arrived harrived rfl)
        exact Served.append (.inr hserved) _
    · exact (ih hold).imp_right fun h => h.append _

/-! ### A run to look at -/

/-- A manifest that announces one list. -/
def announcing (id url : String) : Bytes :=
  Bytes.ofText (Manifest.toJson
    { timestamp := "2024-01-01T00:00:00Z", entries := [{ id, sourceUrl := url }] }).toText

/-- A new engine starts and refreshes: a manifest comes that announces one list, and its task asks
    for it. -/
def asking (id url : String) : List Action :=
  [.invoke (.start 0), .resume (.call 0), .work 0 .start,
    .work 0 (.manifestAnswered (.ok ⟨some (announcing id url), "m1"⟩) false), .work 0 (.poll 0)]

/-- The list comes, and the refresh ends. -/
def collecting (list : Response) : List Action :=
  [.work 0 (.taskAnswered 0 (.ok list)), .work 0 (.collect false)]

end Engine

end TokenCatalog
