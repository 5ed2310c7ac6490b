import TokenCatalog.Proofs.Refresh.Worker

namespace TokenCatalog

/-!
# Writing — what a refresh puts into the content store

A worker writes at two points only: when it has resolved the manifest, and when all its tasks have
finished.

* `Document` — a content but for the time of fetching;
* `World.get?_write`, `FanOut.get?_writeAll` — what writing leaves under every id;
* `Event.written` — what others see put under an id;
* `Worker.get?_of_act?` — the store holds what was last seen put there, and else what it held;
* `Worker.WriteCase`, `Worker.FetchCase` — where a write comes from, and how tasks come to be where
  they are.
-/

/-- What a URL serves: a body with its etag. -/
structure Document where
  url : String
  etag : String
  body : Bytes
  deriving DecidableEq

/-- What a content says but for the time of fetching. -/
def Content.document (c : Content) : Document := ⟨c.sourceUrl, c.etag, c.body⟩

namespace World

/-- A content as the store notes it. -/
def noted (w : World) (c : Content) : Content := { c with fetchedAt := w.stamp.getD c.fetchedAt }

/-- Noting when a copy was written does not change what it holds. -/
@[simp] theorem document_noted (w : World) (c : Content) : (w.noted c).document = c.document := rfl

/-- A write that can be done is seen under its id, and nowhere else. -/
theorem get?_write (w : World) (id k : String) (c : Content) :
    (w.write id c).contents.get? k =
      if k = id ∧ w.canWrite id = true then some (w.noted c) else w.contents.get? k := by
  unfold write
  cases hw : w.canWrite id with
  | true =>
    rw [if_pos rfl]
    simp only [SortedMap.get?_insert, and_true]
    rfl
  | false =>
    rw [if_neg Bool.false_ne_true]
    simp

/-- Writing one copy does not decide whether another may be written. -/
@[simp] theorem canWrite_write (w : World) (id k : String) (c : Content) :
    (w.write id c).canWrite k = w.canWrite k := by
  unfold write
  split <;> rfl

/-- Writing a copy does not change when copies are noted. -/
@[simp] theorem noted_write (w : World) (id : String) (c d : Content) :
    (w.write id c).noted d = w.noted d := by
  unfold write
  split <;> rfl

/-- Noting the refresh time leaves the copies alone. -/
@[simp] theorem contents_recordRefresh (w : World) : w.recordRefresh.contents = w.contents := by
  unfold recordRefresh
  split <;> rfl

end World

/-! ### What others see -/

namespace Event

/-- The content that an event has put under an id. -/
def written? (id : String) : Event → Option Content
  | .wrote k content true => if k = id then some content else none
  | _ => none

/-- The contents that events have put under an id, the last one last. -/
def written (id : String) (events : List Event) : List Content := events.filterMap (written? id)

/-- What is written is found piece by piece. -/
theorem written_append (id : String) (es es' : List Event) :
    written id (es ++ es') = written id es ++ written id es' :=
  List.filterMap_append

/-- A copy is written when an event says that it was, and that it worked. -/
theorem mem_written {id : String} {content : Content} {events : List Event} :
    content ∈ written id events ↔ .wrote id content true ∈ events := by
  rw [written, List.mem_filterMap]
  constructor
  · rintro ⟨e, he, hc⟩
    unfold written? at hc
    split at hc
    · split at hc <;> cases hc
      rename_i hk
      exact hk ▸ he
    · cases hc
  · intro he
    exact ⟨_, he, by simp [written?]⟩

/-- Where no event says so, nothing is written. -/
theorem written_eq_nil {id : String} {events : List Event}
    (h : ∀ content, .wrote id content true ∉ events) : written id events = [] :=
  List.eq_nil_iff_forall_not_mem.2 fun content hc => h content (mem_written.1 hc)

end Event

/-- Writing a copy is seen as writing it, if it works. -/
theorem Worker.written_wrote (w : World) (id k : String) (c : Content) :
    Event.written k [Worker.wrote w id c] =
      if k = id ∧ w.canWrite id = true then [c] else [] := by
  unfold Event.written Worker.wrote
  cases hw : w.canWrite id with
  | true =>
    by_cases hk : id = k
    · simp [Event.written?, hk]
    · simp [Event.written?, hk, Ne.symm hk]
  | false => simp [Event.written?]

namespace FanOut

/-- What is seen of writing several contents. -/
def seen (w : World) (contents : List (String × Content)) : List Event :=
  contents.map fun (id, c) => Worker.wrote w id c

/-- What is seen of many writes is what was to be written, where it works. -/
theorem written_seen (w : World) (contents : List (String × Content)) (k : String) :
    Event.written k (seen w contents) =
      if w.canWrite k = true then (contents.filter (·.1 = k)).map (·.2) else [] := by
  induction contents with
  | nil => simp [seen, Event.written]
  | cons p rest ih =>
    obtain ⟨id, c⟩ := p
    have hcons : seen w ((id, c) :: rest) = [Worker.wrote w id c] ++ seen w rest := rfl
    rw [hcons, Event.written_append, ih, Worker.written_wrote]
    by_cases hk : k = id
    · subst hk
      cases hw : w.canWrite k <;> simp
    · simp [hk, Ne.symm hk]

/-- Of several contents written under an id the last one counts. -/
theorem get?_writeAll (w : World) (contents : List (String × Content)) (k : String) :
    (writeAll w contents).contents.get? k =
      ((Event.written k (seen w contents)).getLast?.map w.noted).or (w.contents.get? k) := by
  induction contents generalizing w with
  | nil => rfl
  | cons p rest ih =>
    obtain ⟨id, c⟩ := p
    have hseen : seen (w.write id c) rest = seen w rest := by
      simp only [seen, Worker.wrote, World.canWrite_write]
    have hnoted : (w.write id c).noted = w.noted := funext (World.noted_write w id c)
    have hcons : seen w ((id, c) :: rest) = [Worker.wrote w id c] ++ seen w rest := rfl
    show (writeAll (w.write id c) rest).contents.get? k = _
    rw [ih, hseen, hnoted, World.get?_write, hcons, Event.written_append, Worker.written_wrote,
      List.getLast?_append]
    -- What the rest writes counts; only where it writes nothing does the first content.
    cases (Event.written k (seen w rest)).getLast? with
    | some d => rfl
    | none => split <;> rfl

end FanOut

namespace Worker

variable {w : Worker} {s : Surroundings} {t : Turn} {a : Action}

/-! ### What a step writes -/

/-- A turn that writes no content. -/
structure Turn.KeepsContents (s : Surroundings) (t : Turn) : Prop where
  contents : t.world.contents = s.world.contents
  written : ∀ id content ok, .wrote id content ok ∉ t.events

/-- The end of a refresh leaves the copies alone. -/
theorem finish_keepsContents (w : Worker) (s : Surroundings) (heed : Bool) :
    (w.finish s heed).KeepsContents s :=
  ⟨World.contents_recordRefresh s.world, by simp [finish]⟩

/-- A worker that begins to fetch leaves the copies alone. -/
theorem fetchLists_keepsContents (w : Worker) (s : Surroundings) (m : Manifest) (heed : Bool) :
    (w.fetchLists s m heed).KeepsContents s := by
  unfold fetchLists
  split
  · exact finish_keepsContents w s heed
  · exact ⟨rfl, by simp⟩

/-- A check leaves the copies alone. -/
theorem check_keepsContents (w : Worker) (s : Surroundings) (force : Bool) :
    (w.check s force).KeepsContents s := by
  have hcase := checkCase_check w s force
  generalize w.check s force = t at hcase ⊢
  cases hcase with
  | cancelled | spared | asks => exact ⟨rfl, by simp⟩
  | fetches _ _ _ _ heq =>
    subst heq
    have hkeeps := fetchLists_keepsContents w s (Manifest.fallback s.config s.world) true
    exact ⟨hkeeps.contents, by simpa using hkeeps.written⟩

/-- A turn that leaves the copies alone writes none. -/
theorem Turn.KeepsContents.written_eq_nil (h : Turn.KeepsContents s t) (id : String) :
    Event.written id t.events = [] :=
  Event.written_eq_nil fun content => h.written id content true

/-- Where the write of a content comes from. -/
inductive WriteCase (w : Worker) (s : Surroundings) (id : String) (content : Content) :
    Action → Prop
  /-- The manifest has come. -/
  | manifest {fallback m : Manifest} {url etag : String} {body : Bytes} {heed : Bool}
      (stage : w.stage = .resolving fallback) (manifestUrl : s.config.manifestUrl = some url)
      (decoded : Manifest.decode? s.config.validator body = some m)
      (reserved : id = ContentStore.manifestId)
      (eq : content = { sourceUrl := url, etag, body, fetchedAt := s.world.moment }) :
      WriteCase w s id content (.manifestAnswered (.ok ⟨some body, etag⟩) heed)
  /-- Every task has finished, and one of them brought it. -/
  | list {f : FanOut} {heed : Bool} (stage : w.stage = .fetching f)
      (finished : f.isFinished = true) (arrived : (id, content) ∈ f.arrived) :
      WriteCase w s id content (.collect heed)

/-- A manifest is fresh when its body came and decodes, and it is kept as it came. -/
theorem fresh?_eq_some {c : Config} {world : World} {url : String} {a : Answer} {m : Manifest}
    {content : Content} (h : Manifest.fresh? c world url a = some (m, content)) :
    ∃ body etag, a = .ok ⟨some body, etag⟩ ∧ Manifest.decode? c.validator body = some m ∧
      content = { sourceUrl := url, etag, body, fetchedAt := world.moment } := by
  unfold Manifest.fresh? at h
  split at h
  · rename_i body etag
    obtain ⟨m', hm', he⟩ := Option.map_eq_some_iff.1 h
    cases he
    exact ⟨body, etag, rfl, hm', rfl⟩
  · cases h

/-- **Where writes come from.**  Whatever a worker writes is a new manifest, or a list when every
    task has finished. -/
theorem writeCase_of_act? {id : String} {content : Content} {ok : Bool}
    (h : w.act? s a = some t) (hw : .wrote id content ok ∈ t.events) :
    WriteCase w s id content a := by
  cases step_of_act? h with
  | expire | quit | acknowledged | dropped => exact absurd hw List.not_mem_nil
  | start | tick => exact absurd hw ((check_keepsContents _ s _).written id content ok)
  | @manifestAnswered fallback url a heed hstage hurl _ =>
    -- The manifest is written when it is fresh; nothing else is until the lists have come.
    rcases List.mem_append.1 hw with hw | hw
    · obtain ⟨⟨m, d⟩, hfresh, he⟩ := List.mem_map.1 hw
      obtain ⟨body, etag, rfl, hm, rfl⟩ := fresh?_eq_some (Option.mem_toList.1 hfresh)
      cases he
      exact .manifest hstage hurl hm rfl rfl
    · exact absurd hw ((fetchLists_keepsContents w _ _ heed).written id content ok)
  | poll => simp [taskRequest] at hw
  | taskAnswered =>
    obtain ⟨q, -, he⟩ := mem_map_taskRequest hw
    cases he
  | @collect f heed hstage hfinished =>
    -- The lists are written when all of them have come.
    rcases List.mem_append.1 hw with hw | hw
    · obtain ⟨⟨k, d⟩, harrived, he⟩ := List.mem_map.1 hw
      cases he
      exact .list hstage hfinished harrived
    · exact absurd hw ((finish_keepsContents w _ heed).written id content ok)

/-- After the manifest's answer the copies are those resolving leaves. -/
theorem manifestTurn_contents (w : Worker) (s : Surroundings) (url : String) (fallback : Manifest)
    (a : Answer) (heed : Bool) :
    (w.manifestTurn s url fallback a heed).world.contents =
      (Manifest.resolve s.config s.world url fallback a).2.contents :=
  (fetchLists_keepsContents w _ _ heed).contents

/-- On the manifest's answer one copy is written, that of the manifest, and only when it is
    fresh. -/
theorem manifestTurn_written (w : Worker) (s : Surroundings) (url : String) (fallback : Manifest)
    (a : Answer) (heed : Bool) (id : String) :
    Event.written id (w.manifestTurn s url fallback a heed).events =
      Event.written id ((Manifest.fresh? s.config s.world url a).toList.map fun (_, content) =>
        wrote s.world ContentStore.manifestId content) := by
  unfold manifestTurn
  rw [Event.written_append, (fetchLists_keepsContents w _ _ heed).written_eq_nil, List.append_nil]

/-- **The store holds what was last seen put there**, and else what it held. -/
theorem get?_of_act? (h : w.act? s a = some t) (id : String) :
    t.world.contents.get? id =
      ((Event.written id t.events).getLast?.map s.world.noted).or (s.world.contents.get? id) := by
  have hkeeps : Turn.KeepsContents s t → t.world.contents.get? id =
      ((Event.written id t.events).getLast?.map s.world.noted).or
        (s.world.contents.get? id) := by
    intro hk
    rw [hk.contents, hk.written_eq_nil id]
    rfl
  -- Only the manifest's answer and the collection of lists write copies.
  cases step_of_act? h with
  | expire | quit | acknowledged | dropped => exact hkeeps ⟨rfl, by simp⟩
  | start | tick => exact hkeeps ⟨(check_keepsContents _ s _).1, (check_keepsContents _ s _).2⟩
  | @manifestAnswered fallback url a heed =>
    rw [manifestTurn_contents, manifestTurn_written]
    unfold Manifest.resolve
    cases Manifest.fresh? s.config s.world url a with
    | none => rfl
    | some p =>
      obtain ⟨m, content⟩ := p
      show (s.world.write _ content).contents.get? id =
        ((Event.written id [wrote s.world _ content]).getLast?.map _).or _
      rw [World.get?_write, written_wrote]
      split <;> rfl
  | poll => exact hkeeps ⟨rfl, by simp [taskRequest]⟩
  | taskAnswered =>
    refine hkeeps ⟨rfl, fun k content ok hm => ?_⟩
    obtain ⟨q, -, he⟩ := mem_map_taskRequest hm
    cases he
  | @collect f heed =>
    have hfinish := finish_keepsContents w { s with world := (f.persist s.world).1 } heed
    show (w.finish _ heed).world.contents.get? id =
      ((Event.written id (FanOut.seen s.world f.arrived ++ _)).getLast?.map _).or _
    rw [hfinish.contents, Event.written_append, hfinish.written_eq_nil, List.append_nil]
    exact FanOut.get?_writeAll s.world f.arrived id

/-! ### Where tasks come from -/

/-- How the tasks of a worker come to be where they are after a step. -/
inductive FetchCase (w : Worker) (s : Surroundings) : Action → FanOut → Prop
  | begun {a : Action} {es : List Manifest.Entry} (nonempty : es ≠ []) :
      FetchCase w s a (.ofEntries es)
  | polled {f f' : FanOut} {index : Nat} {r : Request} (stage : w.stage = .fetching f)
      (polled : f.poll? index s.world = some (f', r)) : FetchCase w s (.poll index) f'
  | answered {f f' : FanOut} {index : Nat} {a : Answer} {r : Option Request}
      (stage : w.stage = .fetching f)
      (answered : f.answer? index s.config.validator s.world.moment a = some (f', r)) :
      FetchCase w s (.taskAnswered index a) f'

/-- A worker that ends a refresh is not fetching. -/
theorem finish_not_fetching (w : Worker) (s : Surroundings) (heed : Bool) (f : FanOut) :
    (w.finish s heed).worker.stage ≠ .fetching f := by
  intro h
  rcases stage_finish w s heed with hstage | hstage <;> rw [hstage] at h <;> cases h

/-- A worker that fetches has a fan-out over the manifest's entries, and there are some. -/
theorem fetchLists_fetching {m : Manifest} {heed : Bool} {f : FanOut}
    (h : (w.fetchLists s m heed).worker.stage = .fetching f) :
    f = .ofEntries m.entries ∧ m.entries ≠ [] := by
  unfold fetchLists at h
  split at h
  · exact absurd h (finish_not_fetching w s heed f)
  · rename_i hne
    cases h
    exact ⟨rfl, hne⟩

/-- A check that begins to fetch has some entries to fetch. -/
theorem check_fetching {force : Bool} {f : FanOut}
    (h : (w.check s force).worker.stage = .fetching f) : ∃ es, f = .ofEntries es ∧ es ≠ [] := by
  have hcase := checkCase_check w s force
  generalize w.check s force = t at hcase h
  cases hcase with
  | cancelled | spared | asks => cases h
  | fetches _ _ _ _ heq =>
    subst heq
    exact ⟨_, fetchLists_fetching h⟩

/-- How a worker has come to fetch. -/
theorem fetchCase_of_act? {f : FanOut} (h : w.act? s a = some t)
    (hf : t.worker.stage = .fetching f) : FetchCase w s a f := by
  cases step_of_act? h with
  | expire | quit | acknowledged | dropped => cases hf
  | start | tick =>
    obtain ⟨es, rfl, hne⟩ := check_fetching hf
    exact .begun hne
  | manifestAnswered =>
    obtain ⟨rfl, hne⟩ := fetchLists_fetching hf
    exact .begun hne
  | poll hstage hpolled =>
    cases hf
    exact .polled hstage hpolled
  | taskAnswered hstage _ hanswered =>
    cases hf
    exact .answered hstage hanswered
  | collect => exact absurd hf (finish_not_fetching w _ _ f)

end Worker

end TokenCatalog
