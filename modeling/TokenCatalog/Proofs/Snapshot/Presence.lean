import TokenCatalog.Proofs.Snapshot.Precedence

namespace TokenCatalog

open ContentStore (manifestId nativeId customId)

/-!
# Presence — under which ids a snapshot has a list

A list is there if one of its copies can be read, and whether it can is up to its bytes alone.

* `ListFormat.reads` — whether bytes are a list of a format;
* `Draft.Lists` — whether an id may stand for a list that is read;
* `Sources.Readable` — whether a copy of a list can be read;
* `mem_listIds_buildInOrder` — the ids of a snapshot.
-/

/-! ### Reading -/

theorem isSome_toOption_bind_pure {ε α β : Type} (x : Except ε α) (g : α → β) :
    (x >>= fun a => pure (g a)).toOption.isSome = x.toOption.isSome := by
  cases x <;> rfl

namespace ListFormat

/-- Whether bytes are a list of a format. -/
def reads (f : ListFormat) (raw : Bytes) : Bool := (f.parse raw default []).toOption.isSome

/-- Where the bytes came from, which chains are supported and in which order hash maps come makes no
    difference. -/
theorem isSome_parseInOrder (f : ListFormat) (orders : Orders) (raw : Bytes) (o : Origin)
    (chains : List ChainId) :
    (f.parseInOrder orders raw o chains).toOption.isSome = f.reads raw := by
  cases f with
  | standard =>
    exact (isSome_toOption_bind_pure _ _).trans (isSome_toOption_bind_pure _ _).symm
  | status =>
    exact (isSome_toOption_bind_pure _ _).trans (isSome_toOption_bind_pure _ _).symm
  | coinGecko platforms =>
    exact (isSome_toOption_bind_pure _ _).trans (isSome_toOption_bind_pure _ _).symm

end ListFormat

/-- Whether an id may stand for a list that is read: the reserved ids do so only if the application
    ships a list under them. -/
def Draft.Lists (d : Draft) (id : String) : Prop :=
  (d.shipped? id).isSome ∨ id ∉ [manifestId, nativeId, customId]

/-- A copy of a list can be read, the cached or the shipped one. -/
def Sources.Readable (s : Sources) (d : Draft) (id : String) : Prop :=
  (∃ content, s.content? id = some content ∧ (d.formatOf id).reads content.body = true) ∨
    ∃ raw, d.shipped? id = some raw ∧ (d.formatOf id).reads raw = true

/-! ### Which lists are merged -/

namespace Snapshot

theorem mem_map_putList {id k : String} {l : TokenList} {ls : List (String × TokenList)} :
    k ∈ (putList id l ls).map (·.1) ↔ k = id ∨ k ∈ ls.map (·.1) := by
  induction ls with
  | nil => simp [putList]
  | cons e rest ih =>
    obtain ⟨i, m⟩ := e
    rw [putList]
    split
    · rename_i hi
      subst hi
      simp
    · simp only [List.map_cons, List.mem_cons, ih]
      tauto

theorem mem_listIds_merge (s : Snapshot) (ls : List (String × TokenList)) (k : String) :
    k ∈ (s.merge ls).listIds ↔ k ∈ s.listIds ∨ k ∈ ls.map (·.1) := by
  induction ls generalizing s with
  | nil => simp
  | cons e ls ih =>
    obtain ⟨id, l⟩ := e
    have hadd : k ∈ (s.add id l).listIds ↔ k = id ∨ k ∈ s.listIds := mem_map_putList
    rw [merge_cons, ih, hadd, List.map_cons, List.mem_cons]
    tauto

end Snapshot

namespace Precedence

variable {d : Draft} {s : Sources} {c : Config} {o : String → ListFormat.Orders}

/-- A list can be read if one of its copies can, in whatever order hash maps come. -/
theorem isSome_list?_iff (p : Precedence d s) (id : String) :
    (p.list? o id).isSome ↔ s.Readable d id := by
  have hparse : ∀ raw origin,
      (p.parse o id raw origin).toOption.isSome = (d.formatOf id).reads raw :=
    fun raw origin => ListFormat.isSome_parseInOrder _ (o id) raw origin p.chains
  rw [list?, Option.isSome_or, Bool.or_eq_true, Sources.Readable]
  refine or_congr ?_ ?_
  · cases s.content? id <;> simp [hparse]
  · cases d.shipped? id <;> simp [hparse]

theorem mem_map_entries (p : Precedence d s) (ids : List String) (k : String) :
    k ∈ (ids.flatMap (p.entry o)).map (·.1) ↔ k ∈ ids ∧ s.Readable d k := by
  rw [← p.isSome_list?_iff (o := o), Option.isSome_iff_exists]
  simp [entry]

theorem isSome_shipped?_iff (d : Draft) (id : String) :
    (d.shipped? id).isSome ↔ id = d.mainListId ∨ d.initialLists.contains id := by
  unfold Draft.shipped?
  split <;> simp_all [SortedMap.contains]

/-- The lists of a precedence that can be read are those of an id that may stand for one. -/
theorem mem_ids_iff (p : Precedence d s) {id : String} (h : s.Readable d id) :
    id ∈ p.ids ↔ d.Lists id := by
  -- Bytes that can be read are cached or shipped.
  have hheld : (s.content? id).isSome ∨ id = d.mainListId ∨ d.initialLists.contains id := by
    rw [← isSome_shipped?_iff]
    rcases h with ⟨content, hc, -⟩ | ⟨raw, hraw, -⟩
    · exact .inl (by rw [hc]; rfl)
    · exact .inr (by rw [hraw]; rfl)
  rw [ids, List.mem_cons, List.mem_append, p.enumerates_initial.mem_iff,
    p.enumerates_remote.mem_iff, Draft.Lists, isSome_shipped?_iff]
  tauto

end Precedence

/-- **Which lists a snapshot has.**  The native tokens, every list of which a copy can be read, and
    the user's tokens if any are acceptable. -/
theorem mem_listIds_buildInOrder {d : Draft} {c : Config} (h : d.validate = .ok c)
    (o : Snapshot.Orders) (s : Sources) (id : String) :
    id ∈ (Snapshot.buildInOrder c o s).listIds ↔
      id ∈ (c.nativeTier ++ c.customTier s.custom).map (·.1) ∨ d.Lists id ∧ s.Readable d id := by
  have hempty : id ∉ ({} : Snapshot).listIds := List.not_mem_nil
  change id ∈ (Snapshot.merge {} (c.tiersInOrder o s)).listIds ↔ _
  rw [Snapshot.mem_listIds_merge, Config.tiersInOrder, Precedence.readTier_eq h, List.map_append,
    List.map_append, List.map_append, List.mem_append, List.mem_append, List.mem_append,
    Precedence.mem_map_entries]
  have hids : id ∈ (Precedence.ofConfig h s).ids ∧ s.Readable d id ↔
      d.Lists id ∧ s.Readable d id :=
    and_congr_left fun hread => (Precedence.ofConfig h s).mem_ids_iff hread
  rw [hids]
  tauto

end TokenCatalog
