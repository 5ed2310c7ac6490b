import TokenCatalog.Proofs.Engine.Provenance
import TokenCatalog.Proofs.ListFormat.Basic
import TokenCatalog.Proofs.Refresh.Attempt

namespace TokenCatalog

open ContentStore (manifestId)

/-!
# Resolving the manifest — whatever is cached, and whatever the answer is

A refresh never ends for want of a manifest: what comes, else what is cached, else nothing is used.

* `Manifest.CacheCase` — everything that the cache can come to;
* `Manifest.AtHand`, `Manifest.EtagFor` — the manifest that needs no request, and the etag that goes
  with one;
* `Manifest.Useless` — the answers that bring no manifest;
* `Worker.Reaction` — what a worker makes of an answer;
* `Worker.manifest_resolution` — the whole account, from the beginning of a refresh to the answer.
-/

/-! ### What others see -/

namespace Event

/-- The requests among events: who asks for what, and whether under a cancelled token. -/
def requests (events : List Event) : List (Fetcher × Request × Bool) :=
  events.filterMap fun
    | .requested fetcher request cancelled => some (fetcher, request, cancelled)
    | _ => none

/-- The writes among events: what is written where, and whether that can be done. -/
def writes (events : List Event) : List (String × Content × Bool) :=
  events.filterMap fun
    | .wrote id content ok => some (id, content, ok)
    | _ => none

/-- Where nothing is asked there are no requests. -/
theorem requests_eq_nil {events : List Event} (h : ∀ f r b, .requested f r b ∉ events) :
    requests events = [] := by
  refine List.filterMap_eq_nil_iff.2 fun e he => ?_
  cases e with
  | requested f r b => exact absurd he (h f r b)
  | refreshBegan | wrote | refreshRecorded | published | notified | received => rfl

/-- Where nothing is written there are no writes. -/
theorem writes_eq_nil {events : List Event} (h : ∀ id content ok, .wrote id content ok ∉ events) :
    writes events = [] := by
  refine List.filterMap_eq_nil_iff.2 fun e he => ?_
  cases e with
  | wrote id content ok => exact absurd he (h id content ok)
  | refreshBegan | requested | refreshRecorded | published | notified | received => rfl

/-- What is written is found piece by piece. -/
theorem writes_append (events more : List Event) :
    writes (events ++ more) = writes events ++ writes more := List.filterMap_append

end Event

namespace Manifest

variable {c : Config} {w : World} {m : Manifest} {content : Content} {url etag : String} {a : Answer}
  {cached : Option (Manifest × Content)}

/-! ### What is cached -/

/-- Everything that the cache can come to, with what must hold for it. -/
inductive CacheCase (c : Config) (w : World) : Option (Manifest × Content) → Prop
  | unreadable (fails : w.fails .readContent = true) : CacheCase c w none
  | absent (reads : w.fails .readContent = false)
      (absent : w.contents.get? manifestId = none) : CacheCase c w none
  | undecodable {content : Content} {error : Error} (reads : w.fails .readContent = false)
      (stored : w.contents.get? manifestId = some content)
      (undecodable : decode c.validator content.body = .error error) : CacheCase c w none
  | valid {content : Content} {m : Manifest} (reads : w.fails .readContent = false)
      (stored : w.contents.get? manifestId = some content)
      (decoded : decode c.validator content.body = .ok m) : CacheCase c w (some (m, content))

/-- What is found in the cache is the cached manifest. -/
theorem CacheCase.eq_cached? (h : CacheCase c w cached) : cached = cached? c w := by
  cases h with
  | unreadable hfails => simp [cached?, World.content?, hfails]
  | absent hreads habsent => simp [cached?, World.content?, hreads, habsent]
  | undecodable hreads hstored hdecode =>
    simp [cached?, World.content?, hreads, hstored, decode?, hdecode, Except.toOption]
  | valid hreads hstored hdecode =>
    simp [cached?, World.content?, hreads, hstored, decode?, hdecode, Except.toOption]

/-- The cached manifest is what is found in the cache. -/
theorem cacheCase_cached? (c : Config) (w : World) : CacheCase c w (cached? c w) := by
  suffices h : ∃ cached, CacheCase c w cached by
    obtain ⟨cached, hcached⟩ := h
    exact hcached.eq_cached? ▸ hcached
  cases hreads : w.fails .readContent with
  | true => exact ⟨_, .unreadable hreads⟩
  | false =>
    cases hstored : w.contents.get? manifestId with
    | none => exact ⟨_, .absent hreads hstored⟩
    | some content =>
      cases hdecode : decode c.validator content.body with
      | error => exact ⟨_, .undecodable hreads hstored hdecode⟩
      | ok => exact ⟨_, .valid hreads hstored hdecode⟩

/-- The manifest that is there without a request: the cached one, from whatever URL, else the empty
    one. -/
inductive AtHand (c : Config) (w : World) : Manifest → Prop
  | cached {m : Manifest} {content : Content} (cached : CacheCase c w (some (m, content))) :
      AtHand c w m
  | empty (uncached : CacheCase c w none) : AtHand c w {}

/-- The manifest at hand is the one to fall back on. -/
theorem atHand_iff : AtHand c w m ↔ m = fallback c w := by
  have hcase := cacheCase_cached? c w
  constructor
  · intro h
    cases h with
    | cached hcached => rw [fallback, ← hcached.eq_cached?, Option.map_some, Option.getD_some]
    | empty huncached => rw [fallback, ← huncached.eq_cached?, Option.map_none, Option.getD_none]
  · rintro rfl
    unfold fallback
    cases hc : cached? c w with
    | none => exact .empty (hc ▸ hcase)
    | some p =>
      obtain ⟨m, content⟩ := p
      exact .cached (hc ▸ hcase)

/-- The etag that goes with a request: that of the cached manifest, if it came from the same URL. -/
inductive EtagFor (c : Config) (w : World) (url : String) : String → Prop
  | issued {m : Manifest} {content : Content} (cached : CacheCase c w (some (m, content)))
      (same : content.sourceUrl = url) : EtagFor c w url content.etag
  | foreign {m : Manifest} {content : Content} (cached : CacheCase c w (some (m, content)))
      (other : content.sourceUrl ≠ url) : EtagFor c w url ""
  | none (uncached : CacheCase c w .none) : EtagFor c w url ""

/-- The etag for the URL is the one that is sent. -/
theorem etagFor_iff : EtagFor c w url etag ↔ etag = etagFor c w url := by
  have hcase := cacheCase_cached? c w
  constructor
  · intro h
    cases h with
    | issued hcached hsame => simp only [etagFor, ← hcached.eq_cached?, if_pos hsame]
    | foreign hcached hother => simp only [etagFor, ← hcached.eq_cached?, if_neg hother]
    | none huncached => simp only [etagFor, ← huncached.eq_cached?]
  · rintro rfl
    unfold etagFor
    split
    · rename_i m content hcached
      split
      · exact .issued (hcached ▸ hcase) ‹_›
      · exact .foreign (hcached ▸ hcase) ‹_›
    · rename_i hcached
      exact .none (hcached ▸ hcase)

/-! ### Answers -/

/-- The answers that bring no manifest. -/
inductive Useless (c : Config) : Answer → Prop
  | failed (error : FetchError) : Useless c (.error error)
  | unchanged (etag : String) : Useless c (.ok ⟨none, etag⟩)
  | undecodable {body : Bytes} {error : Error} (etag : String)
      (undecodable : decode c.validator body = .error error) : Useless c (.ok ⟨some body, etag⟩)

/-- A useless answer brings no manifest. -/
theorem Useless.fresh?_eq_none (h : Useless c a) : fresh? c w url a = none := by
  cases h with
  | failed | unchanged => rfl
  | undecodable etag hdecode => simp [fresh?, decode?, hdecode, Except.toOption]

/-- A body that decodes is a fresh manifest, and is kept with its etag. -/
theorem fresh?_of_decode {body : Bytes} (h : decode c.validator body = .ok m) :
    fresh? c w url (.ok ⟨some body, etag⟩) =
      some (m, { sourceUrl := url, etag, body, fetchedAt := w.moment }) := by
  simp [fresh?, decode?, h, Except.toOption]

end Manifest

namespace Worker

open Manifest (AtHand EtagFor Useless decode)

variable {v : Worker} {s s' : Surroundings} {t : Turn} {a : Action} {url etag : String}
  {m old : Manifest} {reply : Answer} {heed : Bool} {body : Bytes}

/-! ### One answer -/

/-- A worker uses a manifest: it fetches its lists, or has finished if there are none. -/
def Turn.Uses (t : Turn) (v : Worker) (s : Surroundings) (m : Manifest) (heed : Bool) : Prop :=
  t.worker = (v.fetchLists s m heed).worker

/-- What a worker makes of an answer to its request for the manifest. -/
structure Reaction (v : Worker) (s : Surroundings) (url : String) (old : Manifest) (reply : Answer)
    (heed : Bool) (t : Turn) : Prop where
  /-- A manifest that comes is used, and written once, if that can be done. -/
  fresh : ∀ body etag m content, reply = .ok ⟨some body, etag⟩ →
    decode s.config.validator body = .ok m →
    content = { sourceUrl := url, etag, body, fetchedAt := s.world.moment } →
    t.Uses v s m heed ∧
      Event.writes t.events = [(manifestId, content, s.world.canWrite manifestId)] ∧
      t.world.contents = (s.world.write manifestId content).contents
  /-- Else the manifest at hand is used, and the store is left alone. -/
  kept : Useless s.config reply →
    t.Uses v s old heed ∧ Event.writes t.events = [] ∧ t.world.contents = s.world.contents
  /-- Nothing more is asked. -/
  requests : Event.requests t.events = []

/-- Where a worker goes from does not depend on what is stored. -/
theorem fetchLists_worker (v : Worker) (s : Surroundings) (world : World) (m : Manifest)
    (heed : Bool) :
    (v.fetchLists { s with world } m heed).worker = (v.fetchLists s m heed).worker := by
  unfold fetchLists
  split <;> rfl

/-- A worker that begins to fetch writes nothing. -/
theorem fetchLists_writes (v : Worker) (s : Surroundings) (m : Manifest) (heed : Bool) :
    Event.writes (v.fetchLists s m heed).events = [] :=
  Event.writes_eq_nil (fetchLists_keepsContents v s m heed).written

/-- **Whatever the answer, there is a manifest to go on with.** -/
theorem reaction_manifestTurn (v : Worker) (s : Surroundings) (url : String) (old : Manifest)
    (reply : Answer) (heed : Bool) :
    Reaction v s url old reply heed (v.manifestTurn s url old reply heed) where
  fresh := by
    -- A fresh manifest is used at once and cached as it came.
    rintro body etag m content rfl hdecode rfl
    have hfresh : Manifest.fresh? s.config s.world url (.ok ⟨some body, etag⟩) =
        some (m, { sourceUrl := url, etag, body, fetchedAt := s.world.moment }) :=
      Manifest.fresh?_of_decode hdecode
    refine ⟨?_, ?_, ?_⟩
    · simp only [Turn.Uses, manifestTurn, Manifest.resolve, hfresh, fetchLists_worker]
    · simp only [manifestTurn, Manifest.resolve, hfresh, Event.writes_append, fetchLists_writes]
      rfl
    · rw [manifestTurn_contents]
      simp only [Manifest.resolve, hfresh]
  kept := by
    -- A useless answer leaves the manifest at hand in use, and the cache alone.
    intro huseless
    have hfresh : Manifest.fresh? s.config s.world url reply = none := huseless.fresh?_eq_none
    refine ⟨?_, ?_, ?_⟩
    · simp only [Turn.Uses, manifestTurn, Manifest.resolve, hfresh]
    · simp only [manifestTurn, Manifest.resolve, hfresh, Event.writes_append, fetchLists_writes]
      rfl
    · rw [manifestTurn_contents]
      simp only [Manifest.resolve, hfresh]
  requests := Event.requests_eq_nil (manifestTurn_isMute v s url old reply heed).1

/-- A worker that waits for the manifest takes every answer that can come, and does nothing else. -/
theorem act?_resolving_iff (hstage : v.stage = .resolving old)
    (hurl : s.config.manifestUrl = some url) :
    v.act? s a = some t ↔ ∃ reply heed, a = .manifestAnswered reply heed ∧
      admits s.cancelled reply = true ∧ t = v.manifestTurn s url old reply heed := by
  constructor
  · intro h
    cases step_of_act? h with
    | @manifestAnswered _ _ reply heed hresolving hurl' hadmits =>
      cases hstage.symm.trans hresolving
      cases hurl.symm.trans hurl'
      exact ⟨reply, heed, rfl, hadmits, rfl⟩
    | expire hother | start hother | tick hother | acknowledged hother | dropped hother
    | poll hother | taskAnswered hother | collect hother => cases hstage.symm.trans hother
    | quit hother => rcases hother with hother | hother <;> cases hstage.symm.trans hother
  · rintro ⟨reply, heed, rfl, hadmits, rfl⟩
    simp only [act?, hstage, hurl, hadmits, ↓reduceIte]
    rfl

/-! ### The whole resolution -/

/-- How a worker comes to a manifest for a refresh that it begins. -/
structure Resolution (v : Worker) (s : Surroundings) (t : Turn) : Prop where
  /-- Without a URL nobody is asked, and the manifest at hand is used. -/
  unasked : s.config.manifestUrl = none → ∃ due m, AtHand s.config s.world m ∧
    t.Uses { v with nextTick := due } s m true ∧ Event.requests t.events = [] ∧
    Event.writes t.events = [] ∧ t.world.contents = s.world.contents
  /-- With one it is asked, with the etag that goes with it. -/
  asked : ∀ url, s.config.manifestUrl = some url → ∃ due m etag, AtHand s.config s.world m ∧
    EtagFor s.config s.world url etag ∧
    t = ⟨{ v with nextTick := due, stage := .resolving m }, s.world,
      [.refreshBegan s.id, .requested (.manifest s.id) ⟨url, etag⟩ false]⟩
  /-- Then every answer that can come is taken, and nothing else is done. -/
  answered : ∀ url old, s.config.manifestUrl = some url → t.worker.stage = .resolving old →
    ∀ s', s'.config = s.config →
      (∀ reply heed, admits s'.cancelled reply = true →
        ∃ t', t.worker.act? s' (.manifestAnswered reply heed) = some t') ∧
      ∀ a t', t.worker.act? s' a = some t' → ∃ reply heed, a = .manifestAnswered reply heed ∧
        Reaction t.worker s' url old reply heed t'
  /-- Wherever the entry of a manifest that came can be read, if it could be written, that manifest
      is the one at hand, and its etag goes with the next request. -/
  again : ∀ url old, s.config.manifestUrl = some url → t.worker.stage = .resolving old →
    ∀ s' body etag m heed t', s'.config = s.config → decode s.config.validator body = .ok m →
    s'.world.canWrite manifestId = true →
    t.worker.act? s' (.manifestAnswered (.ok ⟨some body, etag⟩) heed) = some t' →
    ∀ w : World, w.fails .readContent = false →
      w.contents.get? manifestId = t'.world.contents.get? manifestId →
      (∀ m', AtHand s.config w m' ↔ m' = m) ∧
      ∀ etag', EtagFor s.config w url etag' ↔ etag' = etag

/-- A check in which a refresh begins is that refresh, and was not cancelled. -/
theorem check_eq_refresh {force : Bool} (hb : .refreshBegan s.id ∈ (v.check s force).events) :
    v.check s force = v.refresh s ∧ s.cancelled = false := by
  obtain ⟨huncancelled, hguard, hdue⟩ := (began_check_iff v s force).1 hb
  have honline := s.world.isOffline_eq_false_iff.2 hguard
  refine ⟨?_, huncancelled⟩
  rcases hdue with hforce | hdue
  · simp [check, huncancelled, honline, hforce]
  · simp [check, huncancelled, honline, hdue]

/-- A step in which a refresh begins does nothing else but set the next tick. -/
theorem exists_refresh_of_began (h : v.act? s a = some t) (hb : .refreshBegan s.id ∈ t.events) :
    ∃ due, t = ({ v with nextTick := due } : Worker).refresh s ∧ s.cancelled = false := by
  cases (began_iff_passes h).1 hb with
  | first =>
    cases step_of_act? h with
    | expire => exact absurd hb List.not_mem_nil
    | start => exact ⟨_, check_eq_refresh hb⟩
  | later =>
    cases step_of_act? h with
    | tick => exact ⟨_, check_eq_refresh hb⟩

/-- **There is always a manifest to go on with**, for every configuration, whatever is cached under
    the reserved id, and whatever is answered. -/
theorem manifest_resolution (h : v.act? s a = some t) (hb : .refreshBegan s.id ∈ t.events) :
    Resolution v s t := by
  obtain ⟨due, rfl, huncancelled⟩ := exists_refresh_of_began h hb
  constructor
  · intro hurl
    have hlists := fetchLists_keepsContents { v with nextTick := due } s
      (Manifest.fallback s.config s.world) true
    have hmute := fetchLists_isMute { v with nextTick := due } s
      (Manifest.fallback s.config s.world) true
    refine ⟨due, _, Manifest.atHand_iff.2 rfl, ?_, ?_, ?_, ?_⟩
    · simp only [Turn.Uses, refresh, hurl]
    · simp only [refresh, hurl]
      exact Event.requests_eq_nil (by simpa using hmute.1)
    · simp only [refresh, hurl]
      exact Event.writes_eq_nil (by simpa using hlists.written)
    · simp only [refresh, hurl]
      exact hlists.contents
  · intro url hurl
    refine ⟨due, _, _, Manifest.atHand_iff.2 rfl, Manifest.etagFor_iff.2 rfl, ?_⟩
    simp only [refresh, hurl, huncancelled]
    rfl
  · intro url old hurl hstage s' hconfig
    have hurl' := hconfig ▸ hurl
    refine ⟨fun reply heed hadmits => ?_, fun a t' ht' => ?_⟩
    · exact ⟨_, (act?_resolving_iff hstage hurl').2 ⟨reply, heed, rfl, hadmits, rfl⟩⟩
    · obtain ⟨reply, heed, rfl, -, rfl⟩ := (act?_resolving_iff hstage hurl').1 ht'
      exact ⟨reply, heed, rfl, reaction_manifestTurn ..⟩
  -- Where the manifest has been written, the next refresh finds it at hand, and sends its etag.
  · intro url old hurl hstage s' body etag m heed t' hconfig hdecode hwrite ht' w hreads hsame
    have hurl' := hconfig ▸ hurl
    obtain ⟨_, _, heq, -, rfl⟩ := (act?_resolving_iff hstage hurl').1 ht'
    cases heq
    have hdecode' := hconfig ▸ hdecode
    obtain ⟨-, -, hcontents⟩ := (reaction_manifestTurn _ s' url old _ heed).fresh body etag m _ rfl
      hdecode' rfl
    rw [hcontents, World.get?_write, if_pos ⟨rfl, hwrite⟩] at hsame
    have hcached := (Manifest.CacheCase.valid hreads hsame hdecode).eq_cached?
    refine ⟨fun m' => ?_, fun etag' => ?_⟩
    · rw [Manifest.atHand_iff, Manifest.fallback, ← hcached]
      rfl
    · rw [Manifest.etagFor_iff, Manifest.etagFor, ← hcached]
      simp [World.noted]

/-- What a worker finds that is told to refresh, in a world. -/
def Surroundings.of (world : World) : Surroundings where
  config := .remote
  world := world
  clock := 0
  cancelled := false
  id := 0

/-- A worker that is told to refresh. -/
def summoned : Worker := { parent := 0, stage := .spawned true }

/-- A manifest that was served once. -/
def servedOnce : Content where
  sourceUrl := "https://lists.example/manifest.json"
  etag := "m1"
  body := Engine.announcing "a" "https://a.example"
  fetchedAt := ⟨10000, false⟩

/-- A world in which it is cached. -/
def remembering : World where
  contents := (∅ : ContentStore).insert manifestId servedOnce
  now := 10000

/-- The remembering store has the copy that was served once. -/
theorem get?_remembering : remembering.contents.get? manifestId = some servedOnce :=
  (SortedMap.get?_insert ..).trans (if_pos rfl)

/-- The copy that was served once is a manifest with lists to fetch. -/
theorem decode_servedOnce : ∃ m, decode .structural servedOnce.body = .ok m ∧ m.entries ≠ [] := by
  have hdecode : (decode .structural servedOnce.body).toOption.any (·.entries ≠ []) = true := by
    decide +kernel
  obtain ⟨m, hm, hentries⟩ := (Option.any_eq_true _ _).1 hdecode
  exact ⟨m, toOption_eq_some_iff.1 hm, of_decide_eq_true hentries⟩

/-- A remembering worker sends the etag, and where the network fails it uses the manifest it
    remembers. -/
theorem manifest_resolution_remembering : ∃ (t t' : Turn) (m : Manifest), m.entries ≠ [] ∧
    t.events = [.refreshBegan 0,
      .requested (.manifest 0) ⟨"https://lists.example/manifest.json", "m1"⟩ false] ∧
    t.worker.act? (.of remembering) (.manifestAnswered (.error .failed) false) = some t' ∧
    t'.Uses t.worker (.of remembering) m false := by
  obtain ⟨m, hdecode, hentries⟩ := decode_servedOnce
  obtain ⟨t, ht, hbegan, -⟩ := act?_start_forced (w := summoned) (s := .of remembering) rfl rfl
    (by decide) rfl
  have hresolves := manifest_resolution ht hbegan
  have hcached : Manifest.CacheCase .remote remembering (some (m, servedOnce)) :=
    .valid rfl get?_remembering hdecode
  obtain ⟨due, m', etag, hm, hetag, rfl⟩ := hresolves.asked _ rfl
  obtain rfl : m' = m :=
    (Manifest.atHand_iff.1 hm).trans (Manifest.atHand_iff.1 (.cached hcached)).symm
  obtain rfl : etag = "m1" :=
    (Manifest.etagFor_iff.1 hetag).trans (Manifest.etagFor_iff.1 (.issued hcached rfl)).symm
  obtain ⟨hgoesOn, hreaction⟩ := hresolves.answered _ m' rfl rfl (.of remembering) rfl
  obtain ⟨t', ht'⟩ := hgoesOn (.error .failed) false rfl
  obtain ⟨reply, heed, heq, hkept⟩ := hreaction _ t' ht'
  cases heq
  exact ⟨_, t', m', hentries, rfl, ht', (hkept.kept (.failed .failed)).1⟩

end Worker

end TokenCatalog
