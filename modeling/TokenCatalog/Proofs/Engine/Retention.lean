import TokenCatalog.Proofs.Engine.Provenance
import TokenCatalog.Proofs.Snapshot.Presence

namespace TokenCatalog

/-!
# Retention — which lists a refresh takes away

A refresh replaces the cached copy of a list by what its URL serves, whether or not that can be
read.  A list that ships with the application then falls back to the shipped copy; any other is
gone.

* `Engine.Spoiled` — the only way in which a list goes;
* `Engine.retention` — a list that was there is gone exactly if it is spoiled;
* `Engine.retention_not_always` — an error page takes a list away.
-/

/-- What a snapshot finds in the content store under an id. -/
theorem World.content?_sources {w : World} (h : w.fails .readContents = false) (id : String) :
    w.sources.content? id = w.contents.get? id := by
  rw [← Precedence.get?_cache, Sources.cache, sources, if_neg (Bool.eq_false_iff.1 h)]
  exact SortedMap.get?_ofList_of_perm (.refl _) id

namespace Engine

variable {d : Draft} {c : Config} {start e : Engine} {id : String} {ts : List Transition}

/-- What is cached stays cached, or is replaced. -/
theorem isSome_cached_of_path (hp : Path c LeavesContents start ts e)
    (h : (start.crew.world.contents.get? id).isSome) :
    (e.crew.world.contents.get? id).isSome := by
  induction hp with
  | nil => exact h
  | snoc _ ok hs ih =>
    rw [get?_of_step hs ok, Option.isSome_or, ih, Bool.or_true]

/-- The cached copy of a list has been replaced by bytes that cannot be read, which were served for
    it, and no copy that can be read ships with the application. -/
structure Spoiled (d : Draft) (c : Config) (ts : List Transition) (e : Engine) (id : String) :
    Prop where
  cached : ∃ content, e.crew.world.contents.get? id = some content ∧
    (d.formatOf id).reads content.body = false ∧ Served c ts id content.document
  shipped : ∀ raw, d.shipped? id = some raw → (d.formatOf id).reads raw = false

/-- A spoiled list cannot be read. -/
theorem Spoiled.not_readable (h : Spoiled d c ts e id)
    (hreads : e.crew.world.fails .readContents = false) :
    ¬ e.crew.world.sources.Readable d id := by
  obtain ⟨content, hc, hunreadable, -⟩ := h.cached
  rintro (⟨content', hc', hreads'⟩ | ⟨raw, hraw, hreads'⟩)
  · rw [World.content?_sources hreads] at hc'
    cases hc.symm.trans hc'
    rw [hunreadable] at hreads'
    cases hreads'
  · rw [h.shipped raw hraw] at hreads'
    cases hreads'

/-- A list that could be read, and no longer can, has been spoiled. -/
theorem spoiled_of_path (hp : Path c LeavesContents start ts e) (hidle : start.Unengaged)
    (hstart : start.crew.world.fails .readContents = false)
    (hend : e.crew.world.fails .readContents = false)
    (hbefore : start.crew.world.sources.Readable d id)
    (hafter : ¬ e.crew.world.sources.Readable d id) : Spoiled d c ts e id := by
  have hshipped : ∀ raw, d.shipped? id = some raw → (d.formatOf id).reads raw = false :=
    fun raw hraw => Bool.eq_false_iff.2 fun hr => hafter (.inr ⟨raw, hraw, hr⟩)
  have hcached : ∀ content, e.crew.world.contents.get? id = some content →
      (d.formatOf id).reads content.body = false := fun content hc =>
    Bool.eq_false_iff.2 fun hr => hafter (.inl ⟨content, World.content?_sources hend id ▸ hc, hr⟩)
  rcases hbefore with ⟨content₀, hc₀, hr₀⟩ | ⟨raw, hraw, hr⟩
  · rw [World.content?_sources hstart] at hc₀
    obtain ⟨content, hc⟩ := Option.isSome_iff_exists.1
      (isSome_cached_of_path hp (Option.isSome_iff_exists.2 ⟨content₀, hc₀⟩))
    refine ⟨⟨content, hc, hcached content hc, ?_⟩, hshipped⟩
    rcases cached_of_path hp hidle hc with hsame | hserved
    · -- The copy of the beginning could be read.
      cases hc₀.symm.trans hsame
      rw [hcached content₀ hc] at hr₀
      cases hr₀
    · exact hserved
  · rw [hshipped raw hraw] at hr
    cases hr

/-- **What a refresh takes away.**  While the application leaves the stores alone and they can be
    read, a list that was there before is gone afterwards exactly if it is spoiled and is neither
    the list of native tokens nor that of the user's tokens. -/
theorem retention (hvalid : d.validate = .ok c) (hp : Path c LeavesContents start ts e)
    (hidle : start.Unengaged) (hstart : start.crew.world.fails .readContents = false)
    (hend : e.crew.world.fails .readContents = false)
    (hcustom : e.crew.world.sources.custom = start.crew.world.sources.custom)
    (hbefore : id ∈ (start.localSnapshot c).listIds) :
    id ∉ (e.localSnapshot c).listIds ↔ Spoiled d c ts e id ∧
      id ∉ (c.nativeTier ++ c.customTier e.crew.world.sources.custom).map (·.1) := by
  rw [localSnapshot, mem_listIds_buildInOrder hvalid, not_or]
  rw [localSnapshot, mem_listIds_buildInOrder hvalid, ← hcustom] at hbefore
  constructor
  · rintro ⟨hown, hgone⟩
    obtain ⟨hlists, hread⟩ := hbefore.resolve_left hown
    exact ⟨spoiled_of_path hp hidle hstart hend hread fun hr => hgone ⟨hlists, hr⟩, hown⟩
  · rintro ⟨hspoiled, hown⟩
    exact ⟨hown, fun h => hspoiled.not_readable hend h.2⟩

/-! ### An error page -/

end Engine

/-- A draft with a manifest, whose main list cannot be read. -/
def Draft.remote : Draft :=
  { Draft.ofMainList "main" [] .standard with
    chains := [1], manifestUrl := Config.remote.manifestUrl, supplied := Collaborator.all }

/-- The configuration that it becomes. -/
def Config.remoteOnly : Config := { Config.remote with formats := Draft.remote.formats }

/-- The draft of remote lists is accepted. -/
theorem Draft.validate_remote : Draft.remote.validate = .ok Config.remoteOnly := by
  have hblank : Text.isBlankText "https://lists.example/manifest.json" = false := by
    decide +kernel
  have hcheck : Url.problem? "https://lists.example/manifest.json" = none := by decide +kernel
  have hurl : Draft.remote.manifestUrl? = .ok Config.remote.manifestUrl := by
    simp [Draft.manifestUrl?, Draft.remote, Config.remote, hblank, hcheck]
  unfold Draft.validate
  rw [hurl]
  rfl

namespace Engine

/-- A world in which a list is cached. -/
def stocked : World where
  contents := (∅ : ContentStore).insert "remote"
    { sourceUrl := "https://a.example", etag := "v1", fetchedAt := ⟨0, false⟩
      body := Bytes.ofText (Json.object [("name", .string "Remote"),
        ("timestamp", .string "2024-01-01T00:00:00Z"), ("tokens", .array [])]).toText }
  now := 10000

/-- A refresh in that world, in which the URL of the list answers with an error page. -/
def spoiling : List Transition × Engine :=
  follow .remoteOnly (initial stocked 1)
    (asking "remote" "https://a.example" ++
      collecting ⟨some (Bytes.ofText "<html>Service unavailable</html>"), ""⟩)

/-- All that the kernel has to find out about that run. -/
theorem spoiling_facts : (∀ t ∈ spoiling.1, LeavesContents t.before t.action) ∧
    "remote" ∈ ((initial stocked 1).localSnapshot .remoteOnly).listIds ∧
    "remote" ∉ (spoiling.2.localSnapshot .remoteOnly).listIds ∧
    spoiling.2.crew.world.failing = [] ∧
    spoiling.2.crew.world.custom.all = stocked.custom.all := by
  decide +kernel

/-- The spoiling run is one in which the application leaves the copies alone. -/
theorem path_spoiling :
    Path .remoteOnly LeavesContents (initial stocked 1) spoiling.1 spoiling.2 :=
  path_follow spoiling_facts.1

/-- In the spoiling run the readable copy gives way to a body that cannot be read. -/
theorem retention_spoiled : Spoiled .remote .remoteOnly spoiling.1 spoiling.2 "remote" := by
  obtain ⟨-, hbefore, hafter, hfailing, hcustom⟩ := spoiling_facts
  have hreads : ∀ o, spoiling.2.crew.world.fails o = false := fun o => by
    rw [World.fails, hfailing]
    rfl
  have hsame : spoiling.2.crew.world.sources.custom = stocked.sources.custom := by
    simp only [World.sources, hreads, hcustom]
    rfl
  exact ((retention Draft.validate_remote path_spoiling (unengaged_initial _ 1) rfl (hreads _)
    hsame hbefore).1 hafter).1

/-- A refresh takes lists away: an error page that is served for a list replaces the copy of it that
    could be read. -/
theorem retention_not_always :
    ¬ ∀ (d : Draft) (c : Config) (world : World) (e : Engine) (ts : List Transition) (id : String),
      d.validate = .ok c → Path c LeavesContents (initial world 1) ts e → world.failing = [] →
      e.crew.world.failing = [] → e.crew.world.custom.all = world.custom.all →
      id ∈ ((initial world 1).localSnapshot c).listIds → id ∈ (e.localSnapshot c).listIds := by
  intro hkeeps
  obtain ⟨-, hbefore, hafter, hfailing, hcustom⟩ := spoiling_facts
  exact hafter (hkeeps _ _ _ _ _ "remote" Draft.validate_remote path_spoiling rfl hfailing hcustom
    hbefore)

end Engine

end TokenCatalog
