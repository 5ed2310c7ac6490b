import TokenCatalog.Proofs.Snapshot.Presence

namespace TokenCatalog

open ContentStore (manifestId nativeId customId)

/-!
# Agreement — the lists of a snapshot and its index

The index keeps the first token of a key and the lists keep the last list of an id, so the two agree
only as far as no two lists are merged under one id.  The tiers see to that for every id that they
choose themselves; a list that ships with the application may have any id.

* `Clash` — an id of the catalogue's own under which a list ships as well;
* `Snapshot.Indexed`, `Snapshot.Backs` — the two halves of agreement;
* `list?_buildInOrder_or_clash` — a list is found under its id unless the id clashes;
* `lists_agree` — only a clash replaces a list, and only its tokens are lost to the lists.
-/

/-- The application ships a list under an id, and a copy of it can be read. -/
def Draft.Ships (d : Draft) (s : Sources) (id : String) : Prop :=
  (d.shipped? id).isSome ∧ s.Readable d id

/-- Two lists are merged under one id: a list ships under the id of the native tokens, or under that
    of the user's tokens while there are any. -/
inductive Clash (d : Draft) (c : Config) (s : Sources) : String → Prop
  | native (ships : d.Ships s nativeId) : Clash d c s nativeId
  | custom (ships : d.Ships s customId) (tokens : c.customTokens (s.custom.getD []) ≠ []) :
      Clash d c s customId

/-! ### What merging keeps -/

namespace Snapshot

/-- Every token of a list has its key in the index. -/
def Indexed (s : Snapshot) : Prop :=
  ∀ l ∈ s.tokenLists, ∀ t ∈ l.tokens, t.key ∈ s.index.map (·.1)

/-- A token stands, as it is, in some list. -/
def Backs (s : Snapshot) (t : Token) : Prop := ∃ l ∈ s.tokenLists, t ∈ l.tokens

theorem mem_of_mem_putList {id : String} {l : TokenList} {ls : List (String × TokenList)}
    {e : String × TokenList} (h : e ∈ putList id l ls) : e = (id, l) ∨ e ∈ ls := by
  fun_induction putList id l ls with
  | case1 => exact .inl (List.mem_singleton.1 h)
  | case2 m rest => exact (List.mem_cons.1 h).imp_right (List.mem_cons_of_mem _)
  | case3 i m rest hi ih =>
    rcases List.mem_cons.1 h with he | he
    · exact .inr (he ▸ List.mem_cons_self)
    · exact (ih he).imp_right (List.mem_cons_of_mem _)

/-- The lists are among those merged. -/
theorem mem_of_mem_lists_merge {s : Snapshot} {ls : List (String × TokenList)}
    {e : String × TokenList} (h : e ∈ (s.merge ls).lists) : e ∈ s.lists ∨ e ∈ ls := by
  induction ls generalizing s with
  | nil => exact .inl h
  | cons first ls ih =>
    obtain ⟨id, l⟩ := first
    rcases ih h with hadd | hrest
    · rcases mem_of_mem_putList hadd with rfl | hold
      · exact .inr List.mem_cons_self
      · exact .inl hold
    · exact .inr (List.mem_cons_of_mem _ hrest)

/-- The keys of the index are those of all tokens merged, also of those that another list has
    replaced. -/
theorem mem_keys_merge (ls : List (String × TokenList)) (k : String) :
    k ∈ (merge {} ls).index.map (·.1) ↔ k ∈ (ls.flatMap (·.2.tokens)).map Token.key := by
  have hindex : (merge {} ls).index = fresh [] (ls.flatMap (·.2.tokens)) := index_merge {} ls
  rw [hindex, mem_keys_fresh_iff]
  simp

theorem indexed_merge (ls : List (String × TokenList)) : (merge {} ls).Indexed := by
  intro l hl t ht
  obtain ⟨e, he, rfl⟩ := List.mem_map.1 hl
  have hmerged : e ∈ ls := (mem_of_mem_lists_merge he).resolve_left List.not_mem_nil
  rw [mem_keys_merge]
  exact List.mem_map_of_mem (List.mem_flatMap.2 ⟨e, hmerged, ht⟩)

theorem mem_of_mem_firstPerKey {ts : List Token} {t : Token} (h : t ∈ firstPerKey ts) : t ∈ ts := by
  obtain ⟨⟨u, i⟩, hmem, hu⟩ := List.mem_filterMap.1 h
  have hut : u = t := by
    dsimp only at hu
    split at hu
    · cases hu
    · exact Option.some.inj hu
  exact hut ▸ List.fst_mem_of_mem_zipIdx hmem

/-- Every token comes from a list that was merged. -/
theorem exists_of_mem_tokens_merge {ls : List (String × TokenList)} {t : Token}
    (h : t ∈ (merge {} ls).tokens) : ∃ e ∈ ls, t ∈ e.2.tokens := by
  rw [tokens_merge] at h
  exact List.mem_flatMap.1 (mem_of_mem_firstPerKey h)

theorem mem_tokenLists_of_list? {s : Snapshot} {id : String} {l : TokenList}
    (h : s.list? id = some l) : l ∈ s.tokenLists := by
  obtain ⟨e, he, rfl⟩ := Option.map_eq_some_iff.1 h
  exact List.mem_map_of_mem (List.mem_of_find?_eq_some he)

end Snapshot

/-! ### Under which ids lists are merged -/

namespace Precedence

variable {d : Draft} {s : Sources} {c : Config} {o : String → ListFormat.Orders}

/-- No id is read twice. -/
theorem nodup_ids (p : Precedence d s) : p.ids.Nodup := by
  have hinitial : p.initial.Nodup := p.enumerates_initial.ascending.imp String.ne_of_lt
  have hremote : p.remote.Nodup := p.enumerates_remote.ascending.imp String.ne_of_lt
  have hmain : d.mainListId ∉ p.initial ++ p.remote := by
    rw [List.mem_append, p.enumerates_initial.mem_iff, p.enumerates_remote.mem_iff]
    tauto
  refine List.nodup_cons.2 ⟨hmain, List.nodup_append.2 ⟨hinitial, hremote, ?_⟩⟩
  rintro id hi _ hr rfl
  exact ((p.enumerates_remote.mem_iff id).1 hr).2.2.2 ((p.enumerates_initial.mem_iff id).1 hi).1

theorem map_entries (p : Precedence d s) (ids : List String) :
    (ids.flatMap (p.entry o)).map (·.1) = ids.filter fun id => (p.list? o id).isSome := by
  induction ids with
  | nil => rfl
  | cons id ids ih =>
    rw [List.flatMap_cons, List.map_append, ih, List.filter_cons]
    cases hl : p.list? o id <;> simp [entry, hl]

/-- No list is read under the id of another one. -/
theorem nodup_entries (p : Precedence d s) : ((p.ids.flatMap (p.entry o)).map (·.1)).Nodup := by
  rw [map_entries]
  exact p.nodup_ids.filter _

/-- A list is read under one of the catalogue's own ids if the application ships it. -/
theorem mem_entries_iff_ships (p : Precedence d s) {id : String} (h : id ∈ [nativeId, customId]) :
    id ∈ (p.ids.flatMap (p.entry o)).map (·.1) ↔ d.Ships s id := by
  have hlists : d.Lists id ↔ (d.shipped? id).isSome :=
    or_iff_left fun hnot => hnot (List.mem_cons_of_mem _ h)
  rw [mem_map_entries, Draft.Ships, ← hlists]
  exact and_congr_left p.mem_ids_iff

theorem mem_entries_iff {p : Precedence d s} {id : String} {l : TokenList} :
    (id, l) ∈ p.ids.flatMap (p.entry o) ↔ p.found? o id = some l := by
  simp [entry, found?]

theorem ships_of_found? {p : Precedence d s} {id : String} {l : TokenList}
    (h : p.found? o id = some l) (hid : id ∈ [nativeId, customId]) : d.Ships s id :=
  (p.mem_entries_iff_ships hid).1 (List.mem_map_of_mem (mem_entries_iff.2 h))

end Precedence

open Precedence

variable {d : Draft} {c : Config}

/-- No two lists are merged under one id, unless one ships under an id of the catalogue's own. -/
theorem nodup_tiers_iff (h : d.validate = .ok c) (o : Snapshot.Orders) (s : Sources) :
    ((c.tiersInOrder o s).map (·.1)).Nodup ↔ ∀ id, ¬ Clash d c s id := by
  have hships : ∀ id ∈ [nativeId, customId],
      (id ∈ ((ofConfig h s).ids.flatMap ((ofConfig h s).entry o.lists)).map (·.1) ↔
        d.Ships s id) :=
    fun _ hid => (ofConfig h s).mem_entries_iff_ships hid
  have hnative := hships nativeId (by simp)
  have hcustom := hships customId (by simp)
  have hlast : ((c.customTier s.custom).map (·.1)).Nodup := by
    rw [Config.customTier]
    split <;> simp
  have hne : nativeId ≠ customId := by decide
  rw [Config.tiersInOrder, Precedence.readTier_eq h, List.map_append, List.map_append,
    List.append_assoc, List.nodup_append, List.nodup_append]
  -- Ids come once within each tier, and so twice only where two tiers have one in common.
  constructor
  · rintro ⟨-, ⟨-, -, hcustomOnce⟩, hnativeOnce⟩ id hclash
    cases hclash with
    | native ships =>
      have hread := hnative.2 ships
      exact hnativeOnce nativeId (by simp [Config.nativeTier]) _ (List.mem_append_left _ hread) rfl
    | custom ships tokens =>
      exact hcustomOnce customId (hcustom.2 ships) _ (Config.mem_customTier_iff.2 ⟨rfl, tokens⟩) rfl
  · intro hclash
    refine ⟨by simp [Config.nativeTier],
      ⟨(ofConfig h s).nodup_entries, hlast, ?_⟩, ?_⟩
    · rintro id hread _ hown rfl
      obtain ⟨rfl, tokens⟩ := Config.mem_customTier_iff.1 hown
      exact hclash _ (.custom (hcustom.1 hread) tokens)
    · rintro id hfirst _ hrest rfl
      obtain rfl : id = nativeId := by simpa [Config.nativeTier] using hfirst
      rcases List.mem_append.1 hrest with hread | hown
      · exact hclash _ (.native (hnative.1 hread))
      · exact hne (Config.mem_customTier_iff.1 hown).1

/-! ### Which list an id has in the end -/

/-- A list that was merged is found under its id, or the id clashes. -/
theorem list?_buildInOrder_or_clash (h : d.validate = .ok c) (o : Snapshot.Orders) (s : Sources)
    {e : String × TokenList} (he : e ∈ c.tiersInOrder o s) :
    (Snapshot.buildInOrder c o s).list? e.1 = some e.2 ∨ Clash d c s e.1 := by
  rw [Snapshot.list?_buildInOrder, list?_eq_found? h]
  rw [Config.tiersInOrder, Precedence.readTier_eq h, List.mem_append, List.mem_append] at he
  -- Whoever stands in the last of the tiers with an id has it.
  rcases he with (hnative | hread) | hcustom
  · obtain rfl := List.mem_singleton.1 hnative
    have hown := Config.find?_customTier_of_ne (by decide : nativeId ≠ customId) c s.custom
    cases hfound : (ofConfig h s).found? o.lists nativeId with
    | some l => exact .inr (.native (ships_of_found? hfound (by simp)))
    | none =>
      left
      simp only [hown]
      rfl
  · have hfound : (ofConfig h s).found? o.lists e.1 = some e.2 := mem_entries_iff.1 hread
    cases hown : (c.customTier s.custom).reverse.find? (·.1 = e.1) with
    | none =>
      left
      rw [hfound]
      rfl
    | some last =>
      have hlast : last.1 = e.1 := by simpa using List.find?_some hown
      have hmem := List.mem_reverse.1 (List.mem_of_find?_eq_some hown)
      obtain ⟨hid, tokens⟩ := Config.mem_customTier_iff.1 (List.mem_map_of_mem (f := (·.1)) hmem)
      have hcustom : e.1 = customId := hlast.symm.trans hid
      right
      rw [hcustom] at hfound ⊢
      exact .custom (ships_of_found? hfound (by simp)) tokens
  · left
    rw [Config.find?_customTier_of_mem hcustom]
    rfl

/-! ### The main result -/

/-- **Lists and index agree but for clashes.**  In whatever order hash maps come, every token of a
    list has its key in the index.  Lists are merged under ids of their own exactly if no id clashes;
    a list that another one has replaced had an id that clashes, and a token that stands in no list
    any more is one of such a list. -/
theorem lists_agree (h : d.validate = .ok c) (o : Snapshot.Orders) (s : Sources) :
    (Snapshot.buildInOrder c o s).Indexed ∧
    (((c.tiersInOrder o s).map (·.1)).Nodup ↔ ∀ id, ¬ Clash d c s id) ∧
    (∀ e ∈ c.tiersInOrder o s,
      (Snapshot.buildInOrder c o s).list? e.1 = some e.2 ∨ Clash d c s e.1) ∧
    ∀ t ∈ (Snapshot.buildInOrder c o s).tokens, (Snapshot.buildInOrder c o s).Backs t ∨
      ∃ e ∈ c.tiersInOrder o s, t ∈ e.2.tokens ∧
        (Snapshot.buildInOrder c o s).list? e.1 ≠ some e.2 ∧ Clash d c s e.1 := by
  refine ⟨Snapshot.indexed_merge _, nodup_tiers_iff h o s,
    fun e he => list?_buildInOrder_or_clash h o s he, fun t ht => ?_⟩
  obtain ⟨e, he, hte⟩ := Snapshot.exists_of_mem_tokens_merge ht
  by_cases hlist : (Snapshot.buildInOrder c o s).list? e.1 = some e.2
  · exact .inl ⟨e.2, Snapshot.mem_tokenLists_of_list? hlist, hte⟩
  · have hclash := (list?_buildInOrder_or_clash h o s he).resolve_left hlist
    exact .inr ⟨e, he, hte, hlist, hclash⟩

/-! ### A main list under the id of the native tokens -/

/-- A draft whose main list has the id of the native tokens. -/
def Draft.usurping : Draft :=
  { Draft.ofMainList nativeId
      (Bytes.ofText (Json.object [("name", .string "Status"),
        ("timestamp", .string "2024-01-01T00:00:00Z"), ("tokens", .array [])]).toText)
      .status with
    chains := [1], supplied := Collaborator.all }

/-- The configuration that it becomes. -/
def Config.usurped : Config where
  mainListId := nativeId
  mainList := Draft.usurping.mainList
  initialLists := ∅
  formats := Draft.usurping.formats
  defaultFormat := .standard
  chains := [1]
  manifestUrl := none
  interval := .ofSeconds 1800
  checkInterval := .ofSeconds 60
  validator := .structural

theorem Draft.validate_usurping : Draft.usurping.validate = .ok Config.usurped := rfl

/-- Stores that hold nothing. -/
def Sources.bare : Sources := ⟨some [], some []⟩

/-- All that the kernel has to find out about its snapshot: the native token is there, and the only
    list is the main one, which has no tokens. -/
theorem usurped_facts :
    (Snapshot.buildInOrder .usurped .standing .bare).tokens = [Chain.nativeToken 1] ∧
    (Snapshot.buildInOrder .usurped .standing .bare).tokenLists.map (·.tokens) = [[]] ∧
    ((Snapshot.buildInOrder .usurped .standing .bare).list? nativeId).map (·.tokens) =
      some [] := by
  decide +kernel

theorem not_backs_usurped :
    ¬ (Snapshot.buildInOrder .usurped .standing .bare).Backs (Chain.nativeToken 1) := by
  rintro ⟨l, hl, ht⟩
  have htokens : l.tokens ∈
      (Snapshot.buildInOrder .usurped .standing .bare).tokenLists.map (·.tokens) :=
    List.mem_map_of_mem hl
  rw [usurped_facts.2.1] at htokens
  rw [List.mem_singleton.1 htokens] at ht
  exact List.not_mem_nil ht

/-- The native token has lost its list to the main one. -/
theorem lists_agree_usurped : Draft.usurping.validate = .ok Config.usurped ∧
    Chain.nativeToken 1 ∈ (Snapshot.buildInOrder .usurped .standing .bare).tokens ∧
    ∃ e ∈ Config.usurped.tiersInOrder .standing .bare, Chain.nativeToken 1 ∈ e.2.tokens ∧
      (Snapshot.buildInOrder .usurped .standing .bare).list? e.1 ≠ some e.2 ∧
      Clash .usurping .usurped .bare e.1 := by
  have hmem : Chain.nativeToken 1 ∈
      (Snapshot.buildInOrder .usurped .standing .bare).tokens := by
    rw [usurped_facts.1]
    exact List.mem_singleton_self _
  obtain ⟨-, -, -, hlost⟩ := lists_agree Draft.validate_usurping .standing .bare
  exact ⟨Draft.validate_usurping, hmem, (hlost _ hmem).resolve_left not_backs_usurped⟩

/-- A configuration may lose a token to the lists and a list to another one: nothing keeps a list
    that ships with the application from having an id of the catalogue's own. -/
theorem lists_agree_not_always :
    (¬ ∀ (d : Draft) (c : Config) (o : Snapshot.Orders) (s : Sources), d.validate = .ok c →
      ∀ t ∈ (Snapshot.buildInOrder c o s).tokens, (Snapshot.buildInOrder c o s).Backs t) ∧
    ¬ ∀ (d : Draft) (c : Config) (o : Snapshot.Orders) (s : Sources), d.validate = .ok c →
      ∀ e ∈ c.tiersInOrder o s, (Snapshot.buildInOrder c o s).list? e.1 = some e.2 := by
  constructor
  · intro hbacks
    refine not_backs_usurped (hbacks _ _ .standing _ Draft.validate_usurping _ ?_)
    rw [usurped_facts.1]
    exact List.mem_singleton_self _
  · intro hkept
    have hnative : (nativeId, _) ∈ Config.usurped.tiersInOrder .standing .bare :=
      List.mem_cons_self
    have hlist := hkept _ _ .standing _ Draft.validate_usurping _ hnative
    have htokens := usurped_facts.2.2
    rw [hlist] at htokens
    cases htokens

end TokenCatalog
