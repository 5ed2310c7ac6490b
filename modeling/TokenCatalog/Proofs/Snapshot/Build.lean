import TokenCatalog.Snapshot.Build
import TokenCatalog.Proofs.Config
import TokenCatalog.Proofs.ListFormat.Basic
import TokenCatalog.Proofs.Snapshot.Merge

namespace TokenCatalog

open ContentStore (nativeId customId)

/-!
# Building — what a snapshot has of every tier

The contents of the store and the formats of the lists are only looked up by their keys, so it is lost
in which order they came.  Everything else about a snapshot follows from what its tiers bring.

* `Config.foundInOrder?_eq_findSome?`, `Config.readTier_eq` — the lists that are read, by ids and
  copies;
* `Config.tokens_tiersInOrder` — the tokens of all tiers, one after the other;
* `Snapshot.tokens_buildInOrder` — a snapshot has of these the first of every key;
* `Snapshot.list?_buildInOrder` — the list that it has under an id.
-/

namespace Config

variable {c : Config} {s : Sources}

/-! ### The lists that are read -/

@[simp] theorem formatInOrder_eq (c : Config) (o : Snapshot.Orders) (id : String) :
    c.formatInOrder o id = c.formatOf id := by
  rw [formatInOrder, SortedMap.gather_eq, formatOf]

/-- A list is read from the first of its copies that is one of its format. -/
theorem foundInOrder?_eq_findSome? (c : Config) (o : Snapshot.Orders) (s : Sources) (id : String) :
    c.foundInOrder? o s id = (copies s.cache id (c.shipped? id)).findSome? fun copy =>
      ((c.formatOf id).parseInOrder (o.lists id) copy.1 copy.2 c.chains).toOption := by
  rw [foundInOrder?, readInOrder?, SortedMap.gather_eq, formatInOrder_eq]

/-- The lists that are read stand in the order of their ids. -/
theorem readTier_eq (o : Snapshot.Orders) : c.readTier o s =
    (c.readIds s.cache).flatMap fun id => ((c.foundInOrder? o s id).map (id, ·)).toList := by
  rw [readTier, SortedMap.gather_eq]

/-! ### The user's tokens -/

/-- The tokens of the user's tier are those that are acceptable, also if these are none. -/
theorem tokens_customTier (c : Config) (custom : Option (List CustomToken)) :
    (c.customTier custom).flatMap (·.2.tokens) = c.customTokens (custom.getD []) := by
  rw [customTier]
  split
  · rename_i h
    rw [h, List.flatMap_nil]
  · rw [List.flatMap_singleton]

/-- The user's tier has one list, or none if no token is acceptable. -/
theorem mem_customTier_iff {custom : Option (List CustomToken)} {id : String} :
    id ∈ (c.customTier custom).map (·.1) ↔
      id = customId ∧ c.customTokens (custom.getD []) ≠ [] := by
  rw [customTier]
  split
  · rename_i h
    simp [h]
  · rename_i h
    rw [List.map_singleton, List.mem_singleton]
    exact (and_iff_left h).symm

theorem find?_customTier_of_mem {custom : Option (List CustomToken)} {e : String × TokenList}
    (h : e ∈ c.customTier custom) :
    (c.customTier custom).reverse.find? (·.1 = e.1) = some e := by
  rw [customTier] at h ⊢
  split at h
  · cases h
  · rw [List.mem_singleton.1 h]
    simp

/-- An id that is not one of the user's tokens is passed by their tier. -/
theorem find?_customTier_of_not_mem {custom : Option (List CustomToken)} {k : String}
    (h : k ∉ (c.customTier custom).map (·.1)) :
    (c.customTier custom).reverse.find? (·.1 = k) = none := by
  rw [List.find?_eq_none]
  intro e he hk
  apply h
  rw [← of_decide_eq_true hk]
  exact List.mem_map_of_mem (List.mem_reverse.1 he)

/-- Under another id than that of the user's tokens there is nothing in their tier. -/
theorem find?_customTier_of_ne {k : String} (h : k ≠ customId) (c : Config)
    (custom : Option (List CustomToken)) :
    (c.customTier custom).reverse.find? (·.1 = k) = none :=
  find?_customTier_of_not_mem fun hmem => h (mem_customTier_iff.1 hmem).1

/-! ### All tiers -/

/-- The tokens of every tier, one after the other. -/
theorem tokens_tiersInOrder (c : Config) (o : Snapshot.Orders) (s : Sources) :
    (c.tiersInOrder o s).flatMap (·.2.tokens) =
      c.chains.map Chain.nativeToken ++ (c.readTier o s).flatMap (·.2.tokens) ++
        c.customTokens (s.custom.getD []) := by
  rw [tiersInOrder, List.flatMap_append, List.flatMap_append, tokens_customTier, nativeTier,
    List.flatMap_singleton]

end Config

/-! ### The snapshot -/

namespace Snapshot

/-- A snapshot has the first token of every key. -/
theorem tokens_buildInOrder (c : Config) (o : Orders) (s : Sources) :
    (buildInOrder c o s).tokens = firstPerKey ((c.tiersInOrder o s).flatMap (·.2.tokens)) :=
  tokens_merge (c.tiersInOrder o s)

/-- Under an id are the user's tokens, else a list that was read, else the native tokens. -/
theorem list?_buildInOrder (c : Config) (o : Orders) (s : Sources) (k : String) :
    (buildInOrder c o s).list? k =
      (((c.customTier s.custom).reverse.find? (·.1 = k)).map (·.2)).or
        ((if k ∈ c.readIds s.cache then c.foundInOrder? o s k else none).or
          ((c.nativeTier.reverse.find? (·.1 = k)).map (·.2))) := by
  have hempty : ({} : Snapshot).list? k = none := rfl
  -- The list that was merged last is the one that is found, so the search goes from the last tier to
  -- the first.
  show (merge {} (c.tiersInOrder o s)).list? k = _
  rw [list?_merge, Config.tiersInOrder, hempty, Option.or_none, List.reverse_append,
    List.reverse_append, List.find?_append, List.find?_append, Option.map_or, Option.map_or,
    Config.readTier_eq, find?_given]

/-- Under any other id than the two that the catalogue gives itself is a list that was read. -/
theorem list?_buildInOrder_of_not_mem (c : Config) (o : Orders) (s : Sources) {k : String}
    (hk : k ∉ [nativeId, customId]) :
    (buildInOrder c o s).list? k =
      if k ∈ c.readIds s.cache then c.foundInOrder? o s k else none := by
  simp only [List.mem_cons, List.not_mem_nil, or_false, not_or] at hk
  have hnative : c.nativeTier.reverse.find? (·.1 = k) = none := by
    simpa [Config.nativeTier] using Ne.symm hk.1
  rw [list?_buildInOrder, Config.find?_customTier_of_ne hk.2, hnative, Option.map_none,
    Option.none_or, Option.or_none]

end Snapshot

end TokenCatalog
