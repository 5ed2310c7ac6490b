import TokenCatalog.Proofs.CustomToken
import TokenCatalog.Proofs.ListFormat.Chains
import TokenCatalog.Proofs.Snapshot.Enumeration

namespace TokenCatalog

open ContentStore (manifestId nativeId customId)

/-!
# Trust — what no list can do to a snapshot

The bytes of a list may come from anybody.  Whatever they are, and in whatever order hash maps come,

* `chainId_of_mem_tiersInOrder` — they bring no token on a chain that is not configured;
* `tokens_eq_native_append` — the native tokens come first, so that no other token has a key of
  theirs;
* `mem_readTier` — they bring no token that is marked as custom;
* `Config.Owned` — what a token of the user's in a snapshot is like;
* `tokens_are_trusted` — all of it for every snapshot.
-/

/-! ### What the tiers bring -/

namespace Config

variable {c : Config} {o : Snapshot.Orders} {s : Sources}

/-- The list of an id was read by the format of that id. -/
theorem exists_parse_of_foundInOrder? {id : String} {l : TokenList}
    (h : c.foundInOrder? o s id = some l) :
    ∃ raw origin, (c.formatOf id).parseInOrder (o.lists id) raw origin c.chains = .ok l := by
  rw [foundInOrder?_eq, Option.bind_eq_some_iff] at h
  obtain ⟨copy, -, hparsed⟩ := h
  exact ⟨copy.1, copy.2, toOption_eq_some_iff.1 hparsed⟩

/-- Tokens that were read are on configured chains, and none is marked as custom. -/
theorem mem_readTier {t : Token} (h : t ∈ (c.readTier o s).flatMap (·.2.tokens)) :
    t.chainId ∈ c.chains ∧ t.custom = false := by
  obtain ⟨e, he, ht⟩ := List.mem_flatMap.1 h
  rw [readTier_eq] at he
  obtain ⟨id, -, hfound⟩ := List.mem_flatMap.1 he
  obtain ⟨l, hl, rfl⟩ := Option.map_eq_some_iff.1 (Option.mem_toList.1 hfound)
  obtain ⟨raw, origin, hparse⟩ := exists_parse_of_foundInOrder? hl
  exact ListFormat.mem_of_parseInOrder hparse ht

theorem mem_nativeTier {t : Token} (h : t ∈ c.nativeTier.flatMap (·.2.tokens)) :
    ∃ chain ∈ c.chains, Chain.nativeToken chain = t := by
  rw [nativeTier, List.flatMap_singleton] at h
  exact List.mem_map.1 h

theorem mem_customTokens {custom : List CustomToken} {t : Token} :
    t ∈ c.customTokens custom ↔ ∃ r ∈ custom, r.validate c.chains = .ok t := by
  rw [customTokens, List.mem_filterMap]
  simp only [toOption_eq_some_iff]

/-- No tier brings a token on a chain that is not configured. -/
theorem chainId_of_mem_tiersInOrder {t : Token}
    (h : t ∈ (c.tiersInOrder o s).flatMap (·.2.tokens)) : t.chainId ∈ c.chains := by
  rw [tokens_tiersInOrder, List.mem_append, List.mem_append] at h
  rcases h with (hnative | hread) | hcustom
  · obtain ⟨chain, hchain, rfl⟩ := List.mem_map.1 hnative
    exact hchain
  · exact (mem_readTier hread).1
  · obtain ⟨r, -, hvalid⟩ := mem_customTokens.1 hcustom
    obtain ⟨hchain, -, -, -, a, -, rfl⟩ := CustomToken.validate_eq_ok_iff.1 hvalid
    exact hchain

/-- A token of the user's that stands in a snapshot. -/
structure Owned (c : Config) (o : Snapshot.Orders) (s : Sources) (t : Token) : Prop where
  record : ∃ r ∈ s.custom.getD [], r.validate c.chains = .ok t
  /-- No other tier brings its key. -/
  unclaimed : ∀ e ∈ c.nativeTier ++ c.readTier o s, t.key ∉ e.2.tokens.map Token.key
  /-- No other list of the snapshot has its key. -/
  unlisted : ∀ e ∈ (Snapshot.buildInOrder c o s).lists, e.1 ≠ customId →
    t.key ∉ e.2.tokens.map Token.key
  decimals : t.decimals.toNat ≤ 18
  symbol : ¬ Text.isBlankText t.symbol
  logo : t.logoUri = "" ∨ ∃ scheme ∈ CustomToken.logoSchemes, scheme.toList <+: t.logoUri.toList

end Config

/-! ### Which tokens are kept -/

namespace Snapshot

variable {c : Config} (o : Orders) (s : Sources)

/-- Native tokens of different chains have different keys. -/
theorem nodup_keys_native {chains : List ChainId} (h : chains.Pairwise (· < ·)) :
    ((chains.map Chain.nativeToken).map Token.key).Nodup := by
  rw [List.map_map]
  refine List.pairwise_map.2 (h.imp fun {x y} hxy hkey => ?_)
  obtain ⟨rfl, -⟩ := Key.encode_inj hkey
  exact UInt64.lt_irrefl _ hxy

/-- The native tokens come first, and none that follows has a key of theirs. -/
theorem tokens_eq_native_append (hchains : c.chains.Pairwise (· < ·)) :
    ∃ rest, (buildInOrder c o s).tokens = c.chains.map Chain.nativeToken ++ rest ∧
      ∀ t ∈ rest, t.key ∉ (c.chains.map Chain.nativeToken).map Token.key := by
  have htokens := tokens_buildInOrder c o s
  rw [Config.tokens_tiersInOrder, List.append_assoc, firstPerKey_append,
    firstPerKey_of_nodup (nodup_keys_native hchains)] at htokens
  refine ⟨_, htokens, fun t ht => ?_⟩
  exact of_decide_eq_true (List.mem_filter.1 ht).2

/-- At the zero address of a chain stands its native token. -/
theorem token?_zero (hchains : c.chains.Pairwise (· < ·)) {chain : ChainId}
    (hchain : chain ∈ c.chains) :
    (buildInOrder c o s).token? chain .zero = some (Chain.nativeToken chain) := by
  obtain ⟨rest, htokens, -⟩ := tokens_eq_native_append o s hchains
  have hfound : ((c.chains.map Chain.nativeToken).find?
      fun t => t.key = Key.encode chain .zero) = some (Chain.nativeToken chain) := by
    -- The native tokens have one key each, so the search stops at no other one.
    rw [List.find?_map, Option.map_eq_some_iff]
    cases hfind : c.chains.find? _ with
    | none => exact absurd (decide_eq_true rfl) (List.find?_eq_none.1 hfind chain hchain)
    | some first =>
      have hkey : (Chain.nativeToken first).key = Key.encode chain .zero := by
        simpa using List.find?_some hfind
      obtain ⟨rfl, -⟩ := Key.encode_inj hkey
      exact ⟨first, rfl, rfl⟩
  show (merge {} (c.tiersInOrder o s)).token? chain .zero = _
  rw [token?_merge]
  show List.find? _ (buildInOrder c o s).tokens = _
  rw [htokens, List.find?_append, hfound, Option.some_or]

/-- The user's tokens come last, as far as no other tier brings their keys. -/
theorem mem_tokens_iff {t : Token} :
    t ∈ (buildInOrder c o s).tokens ↔
      t ∈ firstPerKey ((c.nativeTier ++ c.readTier o s).flatMap (·.2.tokens)) ∨
      t ∈ firstPerKey (c.customTokens (s.custom.getD [])) ∧
        ∀ e ∈ c.nativeTier ++ c.readTier o s, t.key ∉ e.2.tokens.map Token.key := by
  rw [tokens_buildInOrder, Config.tiersInOrder, List.flatMap_append, Config.tokens_customTier,
    firstPerKey_append, List.mem_append, List.mem_filter, decide_eq_true_eq]
  have hkeys : t.key ∉ ((c.nativeTier ++ c.readTier o s).flatMap (·.2.tokens)).map Token.key ↔
      ∀ e ∈ c.nativeTier ++ c.readTier o s, t.key ∉ e.2.tokens.map Token.key := by
    simp only [List.map_flatMap, List.mem_flatMap, not_exists, not_and]
  rw [hkeys]

/-- A token of a snapshot that is marked as custom is one of the user's, and the other way round. -/
theorem custom_iff_owned {t : Token} (ht : t ∈ (buildInOrder c o s).tokens) :
    t.custom = true ↔ c.Owned o s t := by
  constructor
  · intro hcustom
    rcases (mem_tokens_iff o s).1 ht with hother | ⟨hown, hunclaimed⟩
    · -- A token of any other tier is not marked as custom.
      have hmem := mem_of_mem_firstPerKey hother
      rw [List.flatMap_append, List.mem_append] at hmem
      rcases hmem with hnative | hread
      · obtain ⟨chain, -, rfl⟩ := Config.mem_nativeTier hnative
        cases hcustom
      · rw [(Config.mem_readTier hread).2] at hcustom
        cases hcustom
    · obtain ⟨r, hr, hvalid⟩ := Config.mem_customTokens.1 (mem_of_mem_firstPerKey hown)
      obtain ⟨-, hsymbol, hdecimals, hlogo, a, -, heq⟩ := CustomToken.validate_eq_ok_iff.1 hvalid
      refine ⟨⟨r, hr, hvalid⟩, hunclaimed, fun e he hid => ?_, ?_, ?_, ?_⟩
      · have hmerged := (mem_of_mem_lists_merge he).resolve_left List.not_mem_nil
        rw [Config.tiersInOrder, List.mem_append] at hmerged
        refine hunclaimed e (hmerged.resolve_right fun hlast => hid ?_)
        exact (Config.mem_customTier_iff.1 (List.mem_map_of_mem (f := (·.1)) hlast)).1
      · have hle : r.decimals.toNat ≤ 18 := UInt32.le_iff_toNat_le.1 hdecimals
        rw [heq]
        show r.decimals.toUInt8.toNat ≤ 18
        rw [UInt32.toNat_toUInt8]
        omega
      · rw [heq]
        exact hsymbol
      · rw [heq]
        exact CustomToken.isLogoUri_iff.1 hlogo
  · rintro ⟨⟨r, -, hvalid⟩, -, -, -, -, -⟩
    obtain ⟨-, -, -, -, a, -, rfl⟩ := CustomToken.validate_eq_ok_iff.1 hvalid
    rfl

end Snapshot

/-! ### The main result -/

open Snapshot

/-- **Tokens are trusted.**  Whatever the stores hold and in whatever order hash maps come, every
    token of a snapshot and of its lists is on a configured chain; at the zero address of every chain
    stands its native token, and these are the tokens that count as native, one for each chain; and a
    token is marked as custom exactly if it is one of the user's. -/
theorem tokens_are_trusted {d : Draft} {c : Config} (h : d.validate = .ok c) (o : Orders)
    (s : Sources) :
    (∀ t ∈ (buildInOrder c o s).tokens, t.chainId ∈ d.chains) ∧
    (∀ l ∈ (buildInOrder c o s).tokenLists, ∀ t ∈ l.tokens, t.chainId ∈ d.chains) ∧
    (∀ chain ∈ d.chains, (buildInOrder c o s).token? chain .zero =
      some (Chain.nativeToken chain)) ∧
    Enumerates c.chains (· ∈ d.chains) ∧
    (buildInOrder c o s).tokens.filter Token.isNative = c.chains.map Chain.nativeToken ∧
    ∀ t ∈ (buildInOrder c o s).tokens, (t.custom = true ↔ c.Owned o s t) := by
  have hchains : Enumerates c.chains (· ∈ d.chains) := by
    rw [Draft.eq_of_validate h]
    exact Draft.enumerates_sortedChains d.chains
  have hmem : ∀ t ∈ (buildInOrder c o s).tokens, t.chainId ∈ d.chains := fun t ht => by
    rw [tokens_buildInOrder] at ht
    exact (hchains.mem_iff _).1 (Config.chainId_of_mem_tiersInOrder (mem_of_mem_firstPerKey ht))
  obtain ⟨rest, htokens, hrest⟩ := tokens_eq_native_append o s hchains.ascending
  refine ⟨hmem, fun l hl t ht => ?_, fun chain hchain => ?_, hchains, ?_,
    fun t ht => custom_iff_owned o s ht⟩
  · obtain ⟨e, he, rfl⟩ := List.mem_map.1 hl
    have hmerged := (mem_of_mem_lists_merge he).resolve_left List.not_mem_nil
    exact (hchains.mem_iff _).1
      (Config.chainId_of_mem_tiersInOrder (List.mem_flatMap.2 ⟨e, hmerged, ht⟩))
  · exact token?_zero o s hchains.ascending ((hchains.mem_iff _).2 hchain)
  -- Behind the native tokens every zero address is taken.
  · have hnone : rest.filter Token.isNative = [] := by
      refine List.filter_eq_nil_iff.2 fun t ht hnative => hrest t ht ?_
      have haddress : t.address = .zero := by
        simp only [Token.isNative, Bool.and_eq_true, decide_eq_true_eq] at hnative
        exact hnative.1
      have hchain := hmem t (htokens ▸ List.mem_append_right _ ht)
      refine List.mem_map.2 ⟨Chain.nativeToken t.chainId, ?_, ?_⟩
      · exact List.mem_map_of_mem ((hchains.mem_iff _).2 hchain)
      · show Key.encode t.chainId .zero = Key.encode t.chainId t.address
        rw [haddress]
    rw [htokens, List.filter_append, hnone, List.append_nil, List.filter_eq_self]
    intro t ht
    obtain ⟨chain, -, rfl⟩ := List.mem_map.1 ht
    exact Chain.isNative_nativeToken chain

/-! ### A hostile list -/

/-- A draft whose main list has a token of another symbol at the zero address, one that calls itself
    custom and one on a chain that is not configured. -/
def Draft.hostile : Draft :=
  { Draft.ofMainList "main"
      (Bytes.ofText (Json.object [("tokens", .array [
        .object [("chainId", .nat 1), ("symbol", .string "FAKE"),
          ("address", .string "0x0000000000000000000000000000000000000000")],
        .object [("chainId", .nat 1), ("symbol", .string "USDC"), ("customToken", .bool true),
          ("address", .string "0x00000000000000000000000000000000000000a1")],
        .object [("chainId", .nat 56), ("symbol", .string "FAR"),
          ("address", .string "0x00000000000000000000000000000000000000a1")]])]).toText)
      .standard with
    chains := [1], supplied := Collaborator.all }

/-- The configuration that it becomes. -/
def Config.hostile : Config where
  mainListId := "main"
  mainList := Draft.hostile.mainList
  initialLists := ∅
  formats := Draft.hostile.formats
  defaultFormat := .standard
  chains := [1]
  manifestUrl := none
  interval := .ofSeconds 1800
  checkInterval := .ofSeconds 60
  validator := .structural

theorem Draft.validate_hostile : Draft.hostile.validate = .ok Config.hostile := rfl

/-- A user has a token of a key that the main list has, too, and one of a key of its own. -/
def Sources.owning : Sources where
  contents := none
  custom := some [
    { chainId := 1, address := "0X00000000000000000000000000000000000000A1", name := "Mine",
      symbol := "MINE", decimals := 18 },
    { chainId := 1, address := "0x00000000000000000000000000000000000000b2", name := "My own",
      symbol := "OWN", decimals := 18 }]

/-- Of the snapshot's tokens one is the user's. -/
theorem hostile_facts : (buildInOrder .hostile .standing .owning).tokens.map
      (fun t => (t.symbol, t.custom)) = [("ETH", false), ("USDC", false), ("OWN", true)] := by
  decide +kernel

theorem tokens_are_trusted_hostile : Draft.hostile.validate = .ok Config.hostile ∧
    (buildInOrder .hostile .standing .owning).tokens.filter Token.isNative =
      [Chain.nativeToken 1] ∧
    ∃ t ∈ (buildInOrder .hostile .standing .owning).tokens, t.symbol = "OWN" ∧
      Config.hostile.Owned .standing .owning t := by
  obtain ⟨-, -, -, -, hnative, howned⟩ :=
    tokens_are_trusted Draft.validate_hostile .standing .owning
  have hmem : ("OWN", true) ∈ (buildInOrder .hostile .standing .owning).tokens.map
      (fun t => (t.symbol, t.custom)) := by
    rw [hostile_facts]
    simp
  obtain ⟨t, ht, heq⟩ := List.mem_map.1 hmem
  obtain ⟨hsymbol, hcustom⟩ := Prod.mk.inj heq
  exact ⟨Draft.validate_hostile, hnative, t, ht, hsymbol, (howned t ht).1 hcustom⟩

end TokenCatalog
