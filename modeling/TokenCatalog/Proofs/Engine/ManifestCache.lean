import TokenCatalog.Proofs.Engine.Etags

namespace TokenCatalog

open Manifest (Entry)
open ContentStore (manifestId)

/-!
# The cached manifest — what stands under its reserved id

The manifest is cached beside the lists, under an id of its own.  Lists are written under the ids
that manifests announce, and nothing keeps a manifest from announcing that one.

* `FanOut.exists_task_of_arrived` — whatever arrives is for the list of some task;
* `Engine.Fetches` — a worker has a task for a list announced under an id;
* `Engine.manifest_entry` — the entry is the one of the beginning, or a manifest that was served, or
  a list announced under the reserved id; without such a list fan-outs leave it alone;
* `Engine.manifest_entry_not_always_intact` — with one they do not.
-/

/-- Whatever arrives is for the list of some task. -/
theorem FanOut.exists_task_of_arrived {v : Validator} {es : List Entry} {ms : List Move}
    {rs : List (Nat × Request)} {f : FanOut} {id : String} {content : Content}
    (hrun : Run v es ms rs f) (h : (id, content) ∈ f.arrived) :
    ∃ task ∈ f.tasks, task.entry.id = id := by
  have hsound := sound_of_run hrun
  obtain ⟨⟨e, i⟩, he, hbrings⟩ := List.mem_filterMap.1 (hsound.arrived.mem_iff.1 h)
  obtain ⟨c, -, heq⟩ := Option.map_eq_some_iff.1 hbrings
  cases heq
  obtain ⟨s, ht, -⟩ := hsound.exists_task (List.mk_mem_zipIdx_iff_getElem?.1 he)
  exact ⟨_, List.mem_of_getElem? ht, rfl⟩

namespace Engine

variable {c : Config} {start e e' : Engine} {a : Action} {events : List Event} {id : String}
  {ts : List Transition}

/-- A worker fetches lists, one of them announced under an id. -/
def Fetches (e : Engine) (i : WorkerId) (id : String) : Prop :=
  ∃ w f, e.crew.workers[i]? = some w ∧ w.stage = .fetching f ∧ ∃ task ∈ f.tasks, task.entry.id = id

/-- A step of a worker that fetches lists leaves the entry of an id alone: it writes nothing there,
    and sends etags of other ids only. -/
structure LeavesAlone (e : Engine) (a : Action) (id : String) (e' : Engine) (events : List Event) :
    Prop where
  contents : e'.crew.world.contents.get? id = e.crew.world.contents.get? id
  wrote : ∀ content ok, .wrote id content ok ∉ events
  requested : ∀ j i r b, .requested (.task j i) r b ∈ events → r.etag ≠ "" →
    ∃ entry, entry.id ≠ id ∧ AsksList e entry r a

/-- A worker that fetches lists leaves the ids alone under which none of them was announced. -/
theorem leavesAlone_of_step {i : WorkerId} {wa : Worker.Action} {w : Worker} {f : FanOut}
    (hp : Path c LeavesContents start ts e) (hidle : start.Unengaged)
    (hw : e.crew.workers[i]? = some w) (hstage : w.stage = .fetching f)
    (hother : ¬ e.Fetches i id) (hs : e.step? c (.work i wa) = some (e', events)) :
    LeavesAlone e (.work i wa) id e' events := by
  obtain ⟨es, ms, rs, hrun⟩ := exists_run_of_path hp hidle hw hstage
  have hwrote : ∀ content ok, .wrote id content ok ∉ events := by
    intro content ok hmem
    obtain ⟨w', t, hw', ht, -, rfl⟩ := exists_turn_of_step hs
    cases hw.symm.trans hw'
    -- A worker that fetches writes only what its own tasks have brought.
    cases Worker.writeCase_of_act? ht hmem with
    | manifest hresolving => cases hstage.symm.trans hresolving
    | list hfetching _ harrived =>
      cases hstage.symm.trans hfetching
      exact hother ⟨w, f, hw, hstage, FanOut.exists_task_of_arrived hrun harrived⟩
  refine ⟨?_, hwrote, fun j k r b hr hetag => ?_⟩
  · rw [get?_of_step hs trivial, Event.written_eq_nil fun content => hwrote content true]
    rfl
  · obtain ⟨entry, hasks⟩ := asksList_of_step hs hr hetag
    refine ⟨entry, fun hid => hother ?_, hasks⟩
    cases hasks with
    | intro hworker hfetching htask =>
      exact ⟨_, _, hworker, hfetching, _, List.mem_of_getElem? htask, hid⟩

/-- **What the cached manifest is.**  At every moment of a path that begins without a refresh, what
    stands under the reserved id was there at the beginning, or is a manifest that one answer of its
    URL brought, or a list that a manifest announced under the reserved id.  A worker that fetches
    no such list leaves the entry alone, and its etag. -/
theorem manifest_entry (hp : Path c LeavesContents start ts e) (hidle : start.Unengaged) :
    (∀ content, e.crew.world.contents.get? manifestId = some content →
      start.crew.world.contents.get? manifestId = some content ∨
        ServedManifest c ts content.document ∨ ServedList ts manifestId content.document) ∧
    ∀ i wa w f e' events, e.crew.workers[i]? = some w → w.stage = .fetching f →
      ¬ e.Fetches i manifestId → e.step? c (.work i wa) = some (e', events) →
      LeavesAlone e (.work i wa) manifestId e' events := by
  refine ⟨fun content hc => ?_, fun i wa w f e' events hw hstage hother hs => ?_⟩
  · exact (cached_of_path hp hidle hc).imp_right (Or.imp_left And.right)
  · exact leavesAlone_of_step hp hidle hw hstage hother hs

/-! ### A list under the reserved id -/

/-- A manifest announces a list under the reserved id. -/
def usurping : List Transition × Engine :=
  follow .remote (initial { now := 10000 } 1)
    (asking manifestId "https://a.example" ++ collecting ⟨some [], "v1"⟩)

/-- All that the kernel has to find out about that run. -/
theorem usurping_facts : (∀ t ∈ usurping.1, LeavesContents t.before t.action) ∧
    (usurping.2.crew.world.contents.get? manifestId).map Content.document =
      some ⟨"https://a.example", "v1", []⟩ := by
  decide +kernel

/-- The usurping run is one in which the application leaves the copies alone. -/
theorem path_usurping :
    Path .remote LeavesContents (initial { now := 10000 } 1) usurping.1 usurping.2 :=
  path_follow usurping_facts.1

/-- What stands under the reserved id then does not come from the URL of the manifest. -/
theorem exists_usurper : ∃ content, usurping.2.crew.world.contents.get? manifestId = some content ∧
    ¬ ServedManifest .remote usurping.1 content.document := by
  obtain ⟨content, hc, hdocument⟩ := Option.map_eq_some_iff.1 usurping_facts.2
  refine ⟨content, hc, fun ⟨t, _, hserves⟩ => ?_⟩
  have hurl := hserves.manifestUrl_eq
  rw [hdocument] at hurl
  exact absurd hurl (by decide)

/-- The worker of the run with a list that moves fetches no list under the reserved id. -/
theorem not_fetches_moved : ¬ moved.2.Fetches 0 manifestId := by
  rintro ⟨w, f, hw, hstage, task, htask, hid⟩
  have hfetching := moved_facts.2.2.2
  rw [hw, Option.map_some, hstage] at hfetching
  cases hfetching
  cases List.mem_singleton.1 htask
  exact absurd hid (by decide)

/-- The list that takes the reserved id is stored as the manifest; other requests leave that entry
    alone. -/
theorem manifest_entry_usurped :
    (∃ content, usurping.2.crew.world.contents.get? manifestId = some content ∧
      ServedList usurping.1 manifestId content.document) ∧
    ∃ e' events, moved.2.step? .remote (.work 0 (.poll 0)) = some (e', events) ∧
      LeavesAlone moved.2 (.work 0 (.poll 0)) manifestId e' events := by
  constructor
  · obtain ⟨content, hc, hother⟩ := exists_usurper
    rcases (manifest_entry path_usurping (unengaged_initial _ 1)).1 content hc with
      hstart | hmanifest | hlist
    · cases hstart
    · exact absurd hmanifest hother
    · exact ⟨content, hc, hlist⟩
  · obtain ⟨e', events, hs, -⟩ := exists_step_moved
    obtain ⟨w, hw, hstage⟩ := Option.map_eq_some_iff.1 moved_facts.2.2.2
    exact ⟨e', events, hs,
      (manifest_entry path_moved (unengaged_initial _ 1)).2 0 _ w _ e' events hw hstage
        not_fetches_moved hs⟩

/-- The cached manifest is not always one that its URL served: a manifest that announces a list
    under the reserved id has that list put in its place. -/
theorem manifest_entry_not_always_intact :
    ¬ ∀ (world : World) (e : Engine) (ts : List Transition) (content : Content),
      Path .remote LeavesContents (initial world 1) ts e →
      e.crew.world.contents.get? manifestId = some content →
      world.contents.get? manifestId = some content ∨
        ServedManifest .remote ts content.document := by
  intro hintact
  obtain ⟨content, hc, hother⟩ := exists_usurper
  rcases hintact _ _ _ content path_usurping hc with hstart | hmanifest
  · cases hstart
  · exact hother hmanifest

end Engine

end TokenCatalog
