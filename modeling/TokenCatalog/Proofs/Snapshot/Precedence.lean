import TokenCatalog.Proofs.Snapshot.Build

namespace TokenCatalog

open ContentStore (manifestId nativeId customId)

/-!
# Precedence — which lists a snapshot is made of, and whose token wins

What a snapshot should hold is said here by ids and places only, without the way in which it is
built.  Reading a list goes through hash maps, so the order in which these come is part of what is
said of it; in which order contents and formats come is not.

* `Precedence` — the chains and the ids of the lists of a catalogue, each tier ascending;
* `Precedence.list?` — a list from its cached copy, else from the shipped one;
* `Precedence.tokens` — the tokens of every tier, one after the other;
* `Precedence.ComesFrom` — where a list was read from, and what it says about that;
* `build_eq_firstPerKey` — a snapshot has the first token of every key, and these lists.
-/

/-- The content that the store holds under an id. -/
def Sources.content? (s : Sources) (id : String) : Option Content :=
  ((s.contents.getD []).reverse.find? (·.1 = id)).map (·.2)

namespace Draft

/-- The format registered for a list, else that of lists without one. -/
def formatOf (d : Draft) (id : String) : ListFormat := (d.formats.get? id).getD d.defaultFormat

/-- The bytes that ship with the application under an id. -/
def shipped? (d : Draft) (id : String) : Option Bytes :=
  if id = d.mainListId then some d.mainList else d.initialLists.get? id

end Draft

/-- The chains and the lists of a catalogue.  Every tier ascends. -/
structure Precedence (d : Draft) (s : Sources) where
  chains : List ChainId
  /-- The ids of the shipped lists but the main one. -/
  initial : List String
  /-- The ids of the cached lists of no other tier. -/
  remote : List String
  enumerates_chains : Enumerates chains (· ∈ d.chains)
  enumerates_initial : Enumerates initial fun id => d.initialLists.contains id ∧ id ≠ d.mainListId
  enumerates_remote : Enumerates remote fun id =>
    (s.content? id).isSome ∧ id ∉ [manifestId, nativeId, customId] ∧ id ≠ d.mainListId ∧
      ¬ d.initialLists.contains id

namespace Precedence

variable {d : Draft} {s : Sources} {c : Config}

/-- Read the bytes of a list, hash maps coming in the orders given for its id. -/
def parse (p : Precedence d s) (o : String → ListFormat.Orders) (id : String) (raw : Bytes)
    (origin : ListFormat.Origin) : Except Json.Fault TokenList :=
  (d.formatOf id).parseInOrder (o id) raw origin p.chains

/-- A list from its cached copy, else from the shipped one. -/
def list? (p : Precedence d s) (o : String → ListFormat.Orders) (id : String) : Option TokenList :=
  ((s.content? id).bind fun content =>
    (p.parse o id content.body ⟨content.sourceUrl, some content.fetchedAt⟩).toOption).or
  ((d.shipped? id).bind fun raw => (p.parse o id raw ⟨localSource, none⟩).toOption)

/-- The ids of all lists that are read, in order. -/
def ids (p : Precedence d s) : List String := d.mainListId :: (p.initial ++ p.remote)

/-- The list that stands under an id which is not one of the catalogue's own. -/
def found? (p : Precedence d s) (o : String → ListFormat.Orders) (id : String) :
    Option TokenList :=
  if id ∈ p.ids then p.list? o id else none

/-- The tokens of every tier, one after the other. -/
def tokens (p : Precedence d s) (o : String → ListFormat.Orders) : List Token :=
  p.chains.map Chain.nativeToken ++
    p.ids.flatMap (fun id => ((p.list? o id).map (·.tokens)).getD []) ++
    (s.custom.getD []).filterMap fun t => (t.validate p.chains).toOption

/-- Where a list was read from, and what it says about that. -/
inductive ComesFrom (p : Precedence d s) (o : String → ListFormat.Orders) (id : String)
    (l : TokenList) : Prop
  | cached (content : Content) (held : s.content? id = some content)
      (parsed : p.parse o id content.body ⟨content.sourceUrl, some content.fetchedAt⟩ = .ok l)
      (source : l.source = content.sourceUrl)
      (time : l.fetchedTimestamp = content.fetchedAt.toText)
  | shipped (raw : Bytes) (held : d.shipped? id = some raw)
      (unreadable : ∀ content, s.content? id = some content → ∃ fault,
        p.parse o id content.body ⟨content.sourceUrl, some content.fetchedAt⟩ = .error fault)
      (parsed : p.parse o id raw ⟨localSource, none⟩ = .ok l)
      (source : l.source = localSource) (time : l.fetchedTimestamp = l.timestamp)

/-! ### Where lists come from -/

variable {o : String → ListFormat.Orders}

/-- A list that is there was read from one of its two copies. -/
theorem comesFrom_of_list? {p : Precedence d s} {id : String} {l : TokenList}
    (h : p.list? o id = some l) : p.ComesFrom o id l := by
  rcases Option.or_eq_some_iff.1 h with hcached | ⟨hnone, hshipped⟩
  · obtain ⟨content, hheld, hparsed⟩ := Option.bind_eq_some_iff.1 hcached
    have hok := toOption_eq_some_iff.1 hparsed
    have horigin := ListFormat.origin_of_parseInOrder hok
    exact .cached content hheld hok horigin.1 horigin.2
  · obtain ⟨raw, hheld, hparsed⟩ := Option.bind_eq_some_iff.1 hshipped
    have hok := toOption_eq_some_iff.1 hparsed
    have horigin := ListFormat.origin_of_parseInOrder hok
    refine .shipped raw hheld (fun content hc => ?_) hok horigin.1 horigin.2
    exact toOption_eq_none_iff.1 (Option.bind_eq_none_iff.1 hnone content hc)

/-! ### The precedence of a configuration -/

/-- Of several contents of one id the last one counts. -/
theorem get?_cache (s : Sources) (id : String) : s.cache.get? id = s.content? id :=
  SortedMap.get?_ofList _ id

/-- Whether a cached list has no other tier, as the draft says it. -/
theorem isRemote_iff (h : d.validate = .ok c) (id : String) :
    c.isRemote id ↔ id ∉ [manifestId, nativeId, customId] ∧ id ≠ d.mainListId ∧
      ¬ d.initialLists.contains id := by
  rw [Draft.eq_of_validate h]
  simp [Config.isRemote, and_assoc]

/-- The chains and lists of a configuration. -/
def ofConfig (h : d.validate = .ok c) (s : Sources) : Precedence d s where
  chains := c.chains
  initial := d.initialLists.keys.filter (· ≠ d.mainListId)
  remote := s.cache.keys.filter c.isRemote
  enumerates_chains := by
    rw [Draft.eq_of_validate h]
    exact Draft.enumerates_sortedChains d.chains
  enumerates_initial := by
    simpa using d.initialLists.enumerates_keys.filter (· ≠ d.mainListId)
  enumerates_remote := by
    simpa only [SortedMap.contains, get?_cache, isRemote_iff h] using
      s.cache.enumerates_keys.filter c.isRemote

/-- There is no other precedence. -/
theorem eq_ofConfig (h : d.validate = .ok c) (p : Precedence d s) : p = ofConfig h s := by
  have hchains := p.enumerates_chains.unique (ofConfig h s).enumerates_chains
  have hinitial := p.enumerates_initial.unique (ofConfig h s).enumerates_initial
  have hremote := p.enumerates_remote.unique (ofConfig h s).enumerates_remote
  cases p
  subst hchains hinitial hremote
  rfl

/-! ### The tiers of a configuration -/

/-- The list of an id under that id, if it can be read. -/
def entry (p : Precedence d s) (o : String → ListFormat.Orders) (id : String) :
    List (String × TokenList) :=
  ((p.list? o id).map (id, ·)).toList

/-- A configuration reads the ids of its precedence. -/
theorem readIds_eq (h : d.validate = .ok c) (s : Sources) :
    c.readIds s.cache = (ofConfig h s).ids := by
  have hlists : c.mainListId = d.mainListId ∧ c.initialLists = d.initialLists := by
    rw [Draft.eq_of_validate h]
    exact ⟨rfl, rfl⟩
  rw [Config.readIds, hlists.1, hlists.2]
  rfl

/-- It reads a list as its precedence does. -/
theorem foundInOrder?_eq_list? (h : d.validate = .ok c) (o : Snapshot.Orders) (s : Sources)
    (id : String) : c.foundInOrder? o s id = (ofConfig h s).list? o.lists id := by
  have hformat : c.formatOf id = d.formatOf id := by
    rw [Draft.eq_of_validate h]
    rfl
  have hshipped : c.shipped? id = d.shipped? id := by
    rw [Draft.eq_of_validate h]
    rfl
  rw [Config.foundInOrder?_eq_findSome?, Config.copies, list?, get?_cache, hformat, hshipped,
    List.findSome?_append]
  congr 1
  · cases s.content? id <;> simp [Content.toCopy, parse, ofConfig]
  · cases d.shipped? id <;> simp [Copy.ofShipped, parse, ofConfig]

/-- The lists that are read are the entries of the precedence. -/
theorem readTier_eq (h : d.validate = .ok c) (o : Snapshot.Orders) (s : Sources) :
    c.readTier o s = (ofConfig h s).ids.flatMap ((ofConfig h s).entry o.lists) := by
  rw [Config.readTier_eq, readIds_eq h]
  simp only [foundInOrder?_eq_list? h]
  rfl

/-- The tokens of all tiers are those of the precedence. -/
theorem tokens_eq (h : d.validate = .ok c) (o : Snapshot.Orders) (s : Sources) :
    (c.tiersInOrder o s).flatMap (·.2.tokens) = (ofConfig h s).tokens o.lists := by
  have hentry : ∀ id, ((ofConfig h s).entry o.lists id).flatMap (·.2.tokens) =
      (((ofConfig h s).list? o.lists id).map (·.tokens)).getD [] := fun id => by
    rw [entry]
    cases (ofConfig h s).list? o.lists id <;> simp
  rw [Config.tokens_tiersInOrder, readTier_eq h, List.flatMap_assoc,
    List.flatMap_congr fun id _ => hentry id]
  rfl

/-- The list under an id, as the precedence says. -/
theorem list?_eq_found? (h : d.validate = .ok c) (o : Snapshot.Orders) (s : Sources) (k : String) :
    (if k ∈ c.readIds s.cache then c.foundInOrder? o s k else none) =
      (ofConfig h s).found? o.lists k := by
  rw [readIds_eq h, foundInOrder?_eq_list? h, found?]

end Precedence

/-! ### The main result -/

open Precedence in
/-- **A snapshot follows precedence.**  Whatever the stores hold and whichever of them cannot be
    read, a draft has exactly one precedence.  In whatever order hash maps come, the snapshot has, in
    the order of the precedence, the first token of every key, and under every id the list of the
    precedence, which says where it was read from. -/
theorem build_eq_firstPerKey {d : Draft} {c : Config} (h : d.validate = .ok c)
    (o : Snapshot.Orders) (s : Sources) :
    Nonempty (Precedence d s) ∧ ∀ p : Precedence d s,
      (Snapshot.buildInOrder c o s).tokens = Snapshot.firstPerKey (p.tokens o.lists) ∧
      (∀ id, id ∉ [nativeId, customId] →
        (Snapshot.buildInOrder c o s).list? id = p.found? o.lists id) ∧
      ∀ id l, p.list? o.lists id = some l → p.ComesFrom o.lists id l := by
  refine ⟨⟨ofConfig h s⟩, fun p => ?_⟩
  rw [eq_ofConfig h p]
  refine ⟨?_, fun id hid => ?_, fun id l hl => comesFrom_of_list? hl⟩
  · rw [Snapshot.tokens_buildInOrder, tokens_eq h]
  · rw [Snapshot.list?_buildInOrder_of_not_mem c o s hid, list?_eq_found? h]

/-! ### A catalogue with lists in every tier -/

/-- A standard list of tokens, each with its chain, its address and its symbol. -/
def Bytes.ofSample (tokens : List (ChainId × String × String)) : Bytes :=
  .ofText (Json.object [("tokens", .array (tokens.map fun (chain, address, symbol) =>
    .object [("chainId", .nat chain), ("address", .string address),
      ("symbol", .string symbol)]))]).toText

/-- A draft with chains out of order, a main list and another one. -/
def Draft.sample : Draft :=
  { Draft.ofMainList "main"
      (.ofSample [(1, "0x00000000000000000000000000000000000000a1", "USDC")]) .standard with
    chains := [56, 1], supplied := Collaborator.all
  }.withInitialList "alpha" (.ofSample []) .standard

/-- The configuration that the sample draft becomes. -/
def Config.sample : Config where
  mainListId := "main"
  mainList := Draft.sample.mainList
  initialLists := Draft.sample.initialLists
  formats := Draft.sample.formats
  defaultFormat := .standard
  chains := [1, 56]
  manifestUrl := none
  interval := .ofSeconds 1800
  checkInterval := .ofSeconds 60
  validator := .structural

theorem Draft.validate_sample : Draft.sample.validate = .ok Config.sample := rfl

/-- Stores with a copy of the main list that cannot be read, one of the other list, which has a token
    of the main list's, too, and a list of no other tier, which has one of the other list's.  The user
    has a token of each of these lists, too, and one more.  The manifest is no list. -/
def Sources.sample : Sources where
  contents := some [
    ("zz", ⟨"https://lists.example/zz", "", .ofSample [
      (56, "0x00000000000000000000000000000000000000b2", "DAI2"),
      (1, "0x00000000000000000000000000000000000000c3", "LINK")], ⟨0, false⟩⟩),
    (manifestId, ⟨"https://lists.example/m", "", .ofSample [], ⟨0, false⟩⟩),
    ("main", ⟨"https://lists.example/main", "", [], ⟨0, false⟩⟩),
    ("alpha", ⟨"https://lists.example/alpha", "", .ofSample [
      (1, "0x00000000000000000000000000000000000000a1", "USDC2"),
      (56, "0x00000000000000000000000000000000000000b2", "DAI")], ⟨0, false⟩⟩)]
  custom := some [
    { chainId := 1, address := "0X00000000000000000000000000000000000000C3", name := "Mine",
      symbol := "LINK2", decimals := 18 },
    { chainId := 56, address := "0x00000000000000000000000000000000000000d4", name := "My own",
      symbol := "OWN", decimals := 18 }]

/-- All that the kernel has to find out: which tokens all tiers bring, one after the other, which of
    them the snapshot keeps, and where its lists come from. -/
theorem sample_facts :
    ((Precedence.ofConfig Draft.validate_sample .sample).tokens
        (Snapshot.Orders.turned 1).lists).map (·.symbol) =
      ["ETH", "BNB", "USDC", "USDC2", "DAI", "DAI2", "LINK", "LINK2", "OWN"] ∧
    (Snapshot.buildInOrder .sample (.turned 1) .sample).tokens.map (·.symbol) =
      ["ETH", "BNB", "USDC", "DAI", "LINK", "OWN"] ∧
    ["main", "alpha", "zz", manifestId].map (fun id =>
        ((Snapshot.buildInOrder .sample (.turned 1) .sample).list? id).map (·.source)) =
      [some localSource, some "https://lists.example/alpha", some "https://lists.example/zz",
        none] := by
  decide +kernel

/-- Of the sample's tokens with one key the first is left, and the main list is the shipped one. -/
theorem build_eq_firstPerKey_sample : Draft.sample.validate = .ok Config.sample ∧
    ∃ p : Precedence Draft.sample Sources.sample,
      (p.tokens (Snapshot.Orders.turned 1).lists).map (·.symbol) =
        ["ETH", "BNB", "USDC", "USDC2", "DAI", "DAI2", "LINK", "LINK2", "OWN"] ∧
      (Snapshot.firstPerKey (p.tokens (Snapshot.Orders.turned 1).lists)).map (·.symbol) =
        ["ETH", "BNB", "USDC", "DAI", "LINK", "OWN"] ∧
      ∃ l, p.found? (Snapshot.Orders.turned 1).lists "main" = some l ∧ l.source = localSource := by
  let p := Precedence.ofConfig Draft.validate_sample .sample
  obtain ⟨htokens, hlists, -⟩ :=
    (build_eq_firstPerKey Draft.validate_sample (.turned 1) .sample).2 p
  obtain ⟨hbrought, hkept, hsources⟩ := sample_facts
  have hmain : ((Snapshot.buildInOrder .sample (.turned 1) .sample).list? "main").map (·.source) =
      some localSource := (List.cons.inj hsources).1
  rw [hlists "main" (by decide)] at hmain
  exact ⟨Draft.validate_sample, p, hbrought, htokens ▸ hkept, Option.map_eq_some_iff.1 hmain⟩

end TokenCatalog
