import TokenCatalog.Proofs.Engine.Provenance
import TokenCatalog.Proofs.SortedMap

namespace TokenCatalog

open Manifest (Entry)
open ContentStore (manifestId)

/-!
# Etags — to whom they are sent

A task sends the etag that is cached under the id of its list to the URL that its entry names.  The
two belong together for as long as manifests do not move the list to another URL.

* `Engine.AsksList`, `Engine.asksList_of_step` — a request with an etag asks for a list;
* `Engine.list_etag_issued` — the etag was issued together with the cached body, and what follows if
  the list has not moved;
* `Engine.list_etag_not_always_home` — a list that moves has its old etag sent to the new URL.
-/

/-! ### Requests -/

/-- An etag that is sent is that of a cached copy. -/
theorem World.etagOf_ne {w : World} {id : String} (h : w.etagOf id ≠ "") :
    ∃ content, w.contents.get? id = some content ∧ w.etagOf id = content.etag := by
  unfold etagOf ContentStore.etag? at h ⊢
  split at h
  · exact absurd rfl h
  · rename_i hreads
    rw [if_neg hreads]
    cases hc : w.contents.get? id with
    | none => simp [hc] at h
    | some content => exact ⟨content, rfl, rfl⟩

namespace Worker

variable {w : Worker} {s : Surroundings} {t : Turn} {a : Action}

/-- A check sends no request of a task. -/
theorem not_task_check (w : Worker) (s : Surroundings) (force : Bool) (j : WorkerId) (i : Nat)
    (r : Request) (b : Bool) : .requested (.task j i) r b ∉ (w.check s force).events := by
  have hcase := checkCase_check w s force
  generalize w.check s force = t at hcase ⊢
  cases hcase with
  | cancelled | spared => exact List.not_mem_nil
  | fetches _ _ _ _ heq =>
    subst heq
    have hmute := (fetchLists_isMute w s (Manifest.fallback s.config s.world) true).1
    simpa using hmute (.task j i) r b
  | asks => simp

/-- A task's request is for its list, with the etag that is cached under its id, or has none. -/
theorem asksList_of_act? {j : WorkerId} {i : Nat} {r : Request} {b : Bool}
    (h : w.act? s a = some t) (hr : .requested (.task j i) r b ∈ t.events) (hetag : r.etag ≠ "") :
    ∃ f entry, a = .poll i ∧ w.stage = .fetching f ∧ f.tasks[i]? = some ⟨entry, .ready⟩ ∧
      r = ⟨entry.sourceUrl, s.world.etagOf entry.id⟩ := by
  cases step_of_act? h with
  | expire | quit | acknowledged | dropped => exact absurd hr List.not_mem_nil
  | start | tick => exact absurd hr (not_task_check _ s _ j i r b)
  | manifestAnswered => exact absurd hr ((manifestTurn_isMute w s _ _ _ _).1 _ r b)
  | collect => exact absurd hr ((collectTurn_isMute w s _ _).1 _ r b)
  | @poll f f' index r' hstage hpolled =>
    obtain ⟨entry, htask, -, rfl⟩ := FanOut.poll?_eq_some hpolled
    cases List.mem_singleton.1 hr
    exact ⟨f, entry, rfl, hstage, htask, rfl⟩
  | @taskAnswered f f' index a r' hstage _ hanswered =>
    obtain ⟨q, rfl, heq⟩ := mem_map_taskRequest hr
    cases heq
    -- A schema is asked for without an etag.
    cases FanOut.answered_of_answer? hanswered with
    | asks => exact absurd rfl hetag

end Worker

namespace Engine

variable {c : Config} {start e e' : Engine} {a : Action} {events : List Event} {id : String}
  {d : Document} {ts : List Transition} {entry : Entry} {r : Request}

/-- A task asks for the list of its entry. -/
inductive AsksList (e : Engine) (entry : Entry) : Request → Action → Prop
  | intro {i : WorkerId} {w : Worker} {f : FanOut} {index : Nat}
      (worker : e.crew.workers[i]? = some w) (stage : w.stage = .fetching f)
      (task : f.tasks[index]? = some ⟨entry, .ready⟩) :
      AsksList e entry ⟨entry.sourceUrl, e.crew.world.etagOf entry.id⟩ (.work i (.poll index))

/-- A request of a task that carries an etag asks for its list. -/
theorem asksList_of_step {j : WorkerId} {i : Nat} {b : Bool}
    (hs : e.step? c a = some (e', events)) (hr : .requested (.task j i) r b ∈ events)
    (hetag : r.etag ≠ "") : ∃ entry, AsksList e entry r a := by
  obtain ⟨k, wa, crew, rfl, hact, -⟩ := exists_act_of_step hs hr nofun
  obtain ⟨w, t, hw, ht, -, rfl⟩ := Crew.exists_turn_of_act? hact
  obtain ⟨f, entry, rfl, hstage, htask, rfl⟩ := Worker.asksList_of_act? ht hr hetag
  exact ⟨entry, .intro hw hstage htask⟩

/-- A list's etag is that of the copy cached under the entry's id, and goes to the entry's URL. -/
theorem cached_of_asksList (h : AsksList e entry r a) (hetag : r.etag ≠ "") :
    r.url = entry.sourceUrl ∧ ∃ content,
      e.crew.world.contents.get? entry.id = some content ∧ content.etag = r.etag := by
  cases h with
  | intro =>
    obtain ⟨content, hc, heq⟩ := World.etagOf_ne hetag
    exact ⟨rfl, content, hc, heq.symm⟩

/-! ### What is sent -/

/-- From an empty store on, what is cached has been served. -/
theorem served_of_cached {content : Content} (hp : Path c LeavesContents start ts e)
    (hidle : start.Unengaged) (hempty : ∀ id, start.crew.world.contents.get? id = none)
    (hc : e.crew.world.contents.get? id = some content) : Served c ts id content.document := by
  rcases cached_of_path hp hidle hc with hc₀ | hserved
  · cases (hempty id).symm.trans hc₀
  · exact hserved

/-- No manifest on a path has moved a list: it was always fetched from one URL. -/
def Unmoved (ts : List Transition) (id url : String) : Prop :=
  ∀ t ∈ ts, ∀ entry d, ServesList t.before entry d t.action → entry.id = id →
    entry.sourceUrl = url

/-- What was served for a list that has not moved came from its URL. -/
theorem url_of_served {url : String} (h : Served c ts id d) (hid : id ≠ manifestId)
    (hunmoved : Unmoved ts id url) : d.url = url := by
  rcases h with ⟨hmanifest, -⟩ | ⟨t, ht, entry, hentry, hserves⟩
  · exact absurd hmanifest hid
  · exact hserves.url_eq.trans (hunmoved t ht entry d hserves hentry)

/-- What is known of an etag that a task sends, and of the content it is cached with. -/
structure Sends (c : Config) (ts : List Transition) (e : Engine) (entry : Entry)
    (content : Content) (r : Request) : Prop where
  url : r.url = entry.sourceUrl
  cached : e.crew.world.contents.get? entry.id = some content
  etag : content.etag = r.etag
  /-- One answer of the URL that the store names brought the etag and the body. -/
  served : Served c ts entry.id content.document
  /-- It is the URL that is asked, if no manifest has moved the list. -/
  home : entry.id ≠ manifestId → Unmoved ts entry.id r.url → content.sourceUrl = r.url
  /-- Then, if equal etags of a URL mean equal bodies, a server that still has that etag has the
      body that is cached, for as long as nothing else is written there. -/
  current : content.sourceUrl = r.url → ∀ has : Document → Prop,
    (∀ d d', has d → has d' → d.url = d'.url → d.etag = d'.etag → d.body = d'.body) →
    (∀ id d, Served c ts id d → has d) → ∀ body, has ⟨r.url, r.etag, body⟩ →
    ∀ us e₂, Path c LeavesContents e us e₂ → (∀ t ∈ us, Event.written entry.id t.events = []) →
      ∃ content', e₂.crew.world.contents.get? entry.id = some content' ∧ content'.body = body

/-- **Etags are issued with what is cached.**  From an empty content store on, whatever is cached
    under an id was served for it in one answer, and a task that sends an etag sends the one cached
    under the id of its list. -/
theorem list_etag_issued (hp : Path c LeavesContents start ts e) (hidle : start.Unengaged)
    (hempty : ∀ id, start.crew.world.contents.get? id = none) :
    (∀ id content, e.crew.world.contents.get? id = some content →
      Served c ts id content.document) ∧
    ∀ a e' events j i r b, e.step? c a = some (e', events) →
      .requested (.task j i) r b ∈ events → r.etag ≠ "" →
      ∃ entry content, AsksList e entry r a ∧ Sends c ts e entry content r := by
  have hserved : ∀ id content, e.crew.world.contents.get? id = some content →
      Served c ts id content.document := fun _ _ hc => served_of_cached hp hidle hempty hc
  refine ⟨hserved, fun a e' events j i r b hs hr hetag => ?_⟩
  obtain ⟨entry, hasks⟩ := asksList_of_step hs hr hetag
  obtain ⟨hurl, content, hc, hetag'⟩ := cached_of_asksList hasks hetag
  refine ⟨entry, content, hasks, ?_⟩
  -- The copy and its etag were served together, so they belong to one URL.
  exact {
    url := hurl
    cached := hc
    etag := hetag'
    served := hserved _ _ hc
    home := fun hid hunmoved => url_of_served (hserved _ _ hc) hid hunmoved
    current := fun hhome has hequal hserves body hbody us e₂ hpath hunwritten =>
      ⟨content, (get?_of_path hpath hunwritten).trans hc,
        hequal content.document ⟨r.url, r.etag, body⟩ (hserves _ _ (hserved _ _ hc)) hbody hhome
          hetag'⟩ }

/-! ### A list that moves -/

/-- A first refresh, which brings a list. -/
def firstRefresh : List Action :=
  asking "remote" "https://a.example" ++ collecting ⟨some [], "v1"⟩

/-- The engine then. -/
def listed : Engine := (follow .remote (initial { now := 10000 } 1) firstRefresh).2

/-- The refresh is acknowledged, and the next one finds that the list has moved. -/
def moving : List Action :=
  [.resume (.listener 0), .receive, .resume (.listener 0), .work 0 .resume,
    .alter { listed.crew.world with now := 20000 }, .elapse 60000000000, .work 0 .tick,
    .work 0 (.manifestAnswered (.ok ⟨some (announcing "remote" "https://b.example"), "m2"⟩) false)]

/-- The run up to there. -/
def moved : List Transition × Engine :=
  follow .remote (initial { now := 10000 } 1) (firstRefresh ++ moving)

/-- All that the kernel has to find out about that run. -/
theorem moved_facts : (∀ t ∈ moved.1, LeavesContents t.before t.action) ∧
    moved.2.crew.world.contents.entries.all (·.2.sourceUrl ≠ "https://b.example") = true ∧
    (moved.2.step? .remote (.work 0 (.poll 0))).any
      (·.2.contains (.requested (.task 0 0) ⟨"https://b.example", "v1"⟩ false)) = true ∧
    moved.2.crew.workers[0]?.map (·.stage) =
      some (.fetching (.ofEntries [{ id := "remote", sourceUrl := "https://b.example" }])) := by
  decide +kernel

/-- The run in which the list moves is one in which the application leaves the copies alone. -/
theorem path_moved :
    Path .remote LeavesContents (initial { now := 10000 } 1) moved.1 moved.2 :=
  path_follow moved_facts.1

/-- The next request goes to the new URL with the old etag. -/
theorem exists_step_moved : ∃ e' events,
    moved.2.step? .remote (.work 0 (.poll 0)) = some (e', events) ∧
      .requested (.task 0 0) ⟨"https://b.example", "v1"⟩ false ∈ events := by
  have hasks := moved_facts.2.2.1
  cases hs : moved.2.step? .remote (.work 0 (.poll 0)) with
  | none =>
    rw [hs] at hasks
    cases hasks
  | some turn =>
    rw [hs] at hasks
    exact ⟨turn.1, turn.2, rfl, List.contains_iff_mem.1 hasks⟩

/-- The list has moved, and the etag that goes with it was issued by another URL. -/
theorem list_etag_issued_moved : ∃ entry content,
    AsksList moved.2 entry ⟨"https://b.example", "v1"⟩ (.work 0 (.poll 0)) ∧
      Sends .remote moved.1 moved.2 entry content ⟨"https://b.example", "v1"⟩ := by
  obtain ⟨e', events, hs, hr⟩ := exists_step_moved
  exact (list_etag_issued path_moved (unengaged_initial _ 1) fun _ => rfl).2 _ e' events 0 0 _ _ hs
    hr (by decide)

/-- An etag is not always sent to the URL that has issued it: when a manifest moves a list, the new
    URL gets the etag that the old one has issued. -/
theorem list_etag_not_always_home :
    ¬ ∀ (world : World) (e e' : Engine) (ts : List Transition) (a : Action) (events : List Event)
      (entry : Entry) (j : WorkerId) (i : Nat) (r : Request) (b : Bool),
      Path .remote LeavesContents (initial world 1) ts e →
      (∀ id, world.contents.get? id = none) →
      e.step? .remote a = some (e', events) → .requested (.task j i) r b ∈ events → r.etag ≠ "" →
      AsksList e entry r a →
      ∃ content, e.crew.world.contents.get? entry.id = some content ∧
        content.sourceUrl = r.url ∧ content.etag = r.etag := by
  intro hhome
  obtain ⟨e', events, hs, hr⟩ := exists_step_moved
  obtain ⟨entry, hasks⟩ := asksList_of_step hs hr (by decide)
  obtain ⟨content, hc, hurl, -⟩ := hhome _ _ e' _ _ events entry 0 0 _ _ path_moved (fun _ => rfl)
    hs hr (by decide) hasks
  have hother := List.all_eq_true.1 moved_facts.2.1 _ (SortedMap.mem_of_get? hc)
  exact of_decide_eq_true hother hurl

end Engine

end TokenCatalog
