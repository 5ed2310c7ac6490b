import TokenCatalog.Proofs.ListFormat.Documents
import TokenCatalog.Proofs.ListFormat.Enumeration
import TokenCatalog.Proofs.Text
import Mathlib.Data.List.Forall2

namespace TokenCatalog.ListFormat

open Json

/-!
# Contents — the tokens of every document

Every record of a document stands for some tokens, whatever other records say, and the list has
them in the order of the records.

* `Document`, `ListFormat.Decodes` — what bytes say in a format, before records become tokens;
* `Standard.Entry.Holds`, `Status.Entry.Holds`, `CoinGecko.Entry.Holds` — the tokens of a record;
* `Standard.Entry.Yields`, `Status.Entry.Yields`, `CoinGecko.Entry.Yields` — their order;
* `ListFormat.Lists` — the list of a document;
* `ListFormat.parse_decoded` — **main result**: of a document its list is read, of anything else
  none.
-/

/-! ### Documents -/

/-- What a document says, before records become tokens. -/
inductive Document where
  | standard (e : Envelope Standard.Entry)
  | status (e : Envelope Status.Entry)
  | dump (records : List CoinGecko.Entry)

/-- What a value says in a format. -/
def document? : ListFormat → Outline → Option Document
  | .standard, o => (Envelope.value? Standard.Entry.value? maxNesting o).map .standard
  | .status, o => (Envelope.value? Status.Entry.value? maxNesting o).map .status
  | .coinGecko _, o => (Outline.list? CoinGecko.Entry.value? maxNesting o).map .dump

/-- What bytes say in a format. -/
def Decodes (f : ListFormat) (raw : Bytes) (d : Document) : Prop :=
  ∃ o, Spells raw o ∧ f.document? o = some d

/-- A list that came from somewhere is dated by when it came. -/
theorem Origin.timestamp_of_some {o : Origin} {t : Moment} (h : o.fetchedAt = some t)
    (producer : String) : o.timestamp producer = t.toText := by
  rw [timestamp, h]

/-- A list that came from nowhere keeps its producer's date. -/
theorem Origin.timestamp_of_none {o : Origin} (h : o.fetchedAt = none) (producer : String) :
    o.timestamp producer = producer := by
  rw [timestamp, h]

/-- A list says what its envelope says, where its bytes came from, and when; without a time of its
    own it is as old as its producer says. -/
structure Envelope.Carried {α : Type} (e : Envelope α) (origin : Origin) (l : TokenList) :
    Prop where
  name : l.name = e.name
  timestamp : l.timestamp = e.timestamp
  version : l.version = e.version
  tags : l.tags = e.tags
  logoUri : l.logoUri = e.logoUri
  keywords : l.keywords = e.keywords
  source : l.source = origin.source
  fetched : ∀ t, origin.fetchedAt = some t → l.fetchedTimestamp = t.toText
  bundled : origin.fetchedAt = none → l.fetchedTimestamp = e.timestamp

/-- The list of an envelope carries over the envelope's name, version and tags. -/
theorem Envelope.carried_toList {α : Type} (e : Envelope α) (origin : Origin)
    (tokens : List Token) : e.Carried origin (e.toList origin tokens) where
  name := rfl
  timestamp := rfl
  version := rfl
  tags := rfl
  logoUri := rfl
  keywords := rfl
  source := rfl
  fetched _ h := Origin.timestamp_of_some h e.timestamp
  bundled h := Origin.timestamp_of_none h e.timestamp

/-- Decimals are kept exactly when they fit in a byte. -/
theorem decimals?_eq_some_iff {n : UInt32} {d : UInt8} :
    decimals? n = some d ↔ n.toNat ≤ 255 ∧ .ofNat n.toNat = d := by
  rw [decimals?]
  split
  · simp [show n.toNat ≤ 255 by omega]
  · simp [show ¬ n.toNat ≤ 255 by omega]

/-! ### Standard records -/

namespace Standard.Entry

/-- The token of a record: its chain is supported, its address is one, its decimals fit a byte. -/
inductive Holds (chains : List ChainId) (e : Entry) : Token → Prop
  | intro {a : Address} (supported : e.chainId ∈ chains) (address : a.SpelledBy e.address)
      (decimals : e.decimals.toNat ≤ 255) :
      Holds chains e {
        chainId := e.chainId, address := a, decimals := .ofNat e.decimals.toNat, name := e.name,
        symbol := e.symbol, logoUri := e.logoUri }

/-- A record has one token or none. -/
inductive Yields (chains : List ChainId) (e : Entry) : List Token → Prop
  | one {t : Token} (holds : e.Holds chains t) : Yields chains e [t]
  | none (drops : ¬ (e.chainId ∈ chains ∧ Address.isHexText e.address ∧ e.decimals.toNat ≤ 255)) :
      Yields chains e []

variable {chains : List ChainId} {e : Entry}

/-- What a record becomes, it holds. -/
theorem holds_of_token? {t : Token} (h : e.token? chains = some t) : e.Holds chains t := by
  rw [token?] at h
  split at h
  · rename_i hchain
    obtain ⟨a, ha, h⟩ := Option.bind_eq_some_iff.1 h
    obtain ⟨d, hd, h⟩ := Option.bind_eq_some_iff.1 h
    obtain ⟨hdecimals, rfl⟩ := decimals?_eq_some_iff.1 hd
    cases h
    exact .intro (List.contains_iff_mem.1 hchain) (Address.parse?_eq_some_iff.1 ha) hdecimals
  · cases h

/-- A record on a wanted chain, with an address and decimals that fit, becomes a token. -/
theorem token?_isSome (hchain : e.chainId ∈ chains) (haddress : Address.isHexText e.address)
    (hdecimals : e.decimals.toNat ≤ 255) : (e.token? chains).isSome := by
  obtain ⟨a, ha⟩ := Address.exists_parse?_of_isHexText haddress
  rw [token?, if_pos (List.contains_iff_mem.2 hchain), ha,
    decimals?_eq_some_iff.2 ⟨hdecimals, rfl⟩]
  rfl

/-- A record yields its one token, or none. -/
theorem yields_token? (chains : List ChainId) (e : Entry) :
    e.Yields chains (e.token? chains).toList := by
  cases h : e.token? chains with
  | some t => exact .one (holds_of_token? h)
  | none =>
    refine .none fun ⟨hchain, haddress, hdecimals⟩ => ?_
    have hsome := token?_isSome hchain haddress hdecimals
    rw [h] at hsome
    cases hsome

end Standard.Entry

/-! ### Status records -/

namespace Status.Entry

/-- A token of a record: one of its contracts is on a supported chain and has an address, and its
    decimals fit a byte. -/
inductive Holds (chains : List ChainId) (e : Entry) : Token → Prop
  | intro {key text : String} {chain : ChainId} {a : Address}
      (contract : e.contracts.get? key = some text) (number : Numeral.natural? key = some chain)
      (supported : chain ∈ chains) (address : a.SpelledBy text)
      (decimals : e.decimals.toNat ≤ 255) :
      Holds chains e {
        crossChainId := e.crossChainId, chainId := chain, address := a,
        decimals := .ofNat e.decimals.toNat, name := e.name, symbol := e.symbol,
        logoUri := e.logoUri }

/-- No two contracts of a record are on one chain. -/
def Distinct (e : Entry) : Prop :=
  ∀ {k l : String} {chain : ChainId}, k ∈ e.contracts.keys → l ∈ e.contracts.keys →
    Numeral.natural? k = some chain → Numeral.natural? l = some chain → k = l

/-- A record has tokens on ascending chains, all of them unless contracts share a chain. -/
structure Yields (chains : List ChainId) (e : Entry) (ts : List Token) : Prop where
  ascending : ts.Pairwise (·.chainId < ·.chainId)
  sound : ∀ t ∈ ts, e.Holds chains t
  complete : e.Distinct → ∀ t, e.Holds chains t → t ∈ ts

variable {chains : List ChainId} {e : Entry} {contracts : List (String × String)} {t : Token}

/-- In whatever order the contracts come, every token a record gives is one it holds. -/
theorem holds_of_mem (hperm : contracts.Perm e.contracts.entries)
    (h : t ∈ e.tokensInOrder chains contracts) : e.Holds chains t := by
  obtain ⟨d, hd, chain, text, hget, htoken⟩ := mem_tokensInOrder_iff.1 h
  obtain ⟨hchain, a, ha, rfl⟩ := token?_eq_some_iff.1 htoken
  obtain ⟨hdecimals, rfl⟩ := decimals?_eq_some_iff.1 hd
  rw [get?_addresses, Option.map_eq_some_iff] at hget
  obtain ⟨⟨key, _⟩, hfind, rfl⟩ := hget
  have hmem := hperm.mem_iff.1 (List.mem_reverse.1 (List.mem_of_find?_eq_some hfind))
  have hnumber : Numeral.natural? key = some chain := by simpa using List.find?_some hfind
  exact .intro (SortedMap.get?_of_mem hmem) hnumber hchain (Address.parse?_eq_some_iff.1 ha)
    hdecimals

/-- A contract that shares its chain with no other one is that of its chain. -/
theorem get?_addresses_of_distinct (hperm : contracts.Perm e.contracts.entries)
    (hdistinct : e.Distinct) {key text : String} {chain : ChainId}
    (hget : e.contracts.get? key = some text) (hnumber : Numeral.natural? key = some chain) :
    (addresses contracts).get? chain = some text := by
  have hmem := hperm.mem_iff.2 (SortedMap.mem_of_get? hget)
  obtain ⟨⟨key', text'⟩, hfind⟩ : ∃ x, contracts.reverse.find?
      (fun x => Numeral.natural? x.1 = some chain) = some x := by
    rw [← Option.isSome_iff_exists, List.find?_isSome]
    exact ⟨(key, text), List.mem_reverse.2 hmem, by simpa using hnumber⟩
  -- Of the contracts on the chain the last one counts, and there is only this one.
  have hmem' := hperm.mem_iff.1 (List.mem_reverse.1 (List.mem_of_find?_eq_some hfind))
  have hnumber' : Numeral.natural? key' = some chain := by simpa using List.find?_some hfind
  obtain rfl : key' = key := hdistinct (List.mem_map_of_mem hmem')
    (List.mem_map_of_mem (SortedMap.mem_of_get? hget)) hnumber' hnumber
  rw [get?_addresses, hfind, ← hget, SortedMap.get?_of_mem hmem']
  rfl

/-- When no two contracts name one chain, every token a record holds is given in every order. -/
theorem mem_of_holds (hperm : contracts.Perm e.contracts.entries) (hdistinct : e.Distinct)
    (h : e.Holds chains t) : t ∈ e.tokensInOrder chains contracts := by
  obtain ⟨hget, hnumber, hchain, ha, hdecimals⟩ := h
  refine mem_tokensInOrder_iff.2 ⟨_, decimals?_eq_some_iff.2 ⟨hdecimals, rfl⟩, _, _,
    get?_addresses_of_distinct hperm hdistinct hget hnumber, ?_⟩
  exact token?_eq_some_iff.2 ⟨hchain, _, Address.parse?_eq_some_iff.2 ha, rfl⟩

/-- In whatever order the contracts come, a record yields its tokens. -/
theorem yields_tokensInOrder (chains : List ChainId) (e : Entry)
    (hperm : contracts.Perm e.contracts.entries) :
    e.Yields chains (e.tokensInOrder chains contracts) where
  ascending := ascending_tokensInOrder e chains contracts
  sound _ := holds_of_mem hperm
  complete hdistinct _ := mem_of_holds hperm hdistinct

end Status.Entry

/-! ### Records of a dump -/

namespace CoinGecko.Entry

/-- The token of a record on a platform: the platform stands for a supported chain, and the record
    has an address there. -/
inductive Holds (platforms : Platforms) (chains : List ChainId) (e : Entry) :
    String → Token → Prop
  | intro {platform text : String} {chain : ChainId} {a : Address}
      (place : e.platforms.get? platform = some (some text))
      (known : platforms.get? platform = some chain) (supported : chain ∈ chains)
      (address : a.SpelledBy text) :
      Holds platforms chains e platform {
        crossChainId := e.id, chainId := chain, address := a, decimals := 0, name := e.name,
        symbol := Text.upper e.symbol }

/-- A record has a token for every such platform, names ascending by their bytes. -/
def Yields (platforms : Platforms) (chains : List ChainId) (e : Entry) (ts : List Token) : Prop :=
  ∃ rows : List (String × Token), rows.map (·.2) = ts ∧
    rows.Pairwise (fun x y => Bytes.ofText x.1 < Bytes.ofText y.1) ∧
    ∀ platform t, (platform, t) ∈ rows ↔ e.Holds platforms chains platform t

variable {platforms : Platforms} {chains : List ChainId} {e : Entry}

/-- A place becomes a token exactly when its platform is known and wanted and its address reads. -/
theorem token?_eq_some_iff {place : String × Option String} {t : Token} :
    e.token? platforms chains place = some t ↔
      ∃ chain text a, platforms.get? place.1 = some chain ∧ chain ∈ chains ∧
        place.2 = some text ∧ Address.parse? text = some a ∧
        t = { crossChainId := e.id, chainId := chain, address := a, decimals := 0,
              name := e.name, symbol := Text.upper e.symbol } := by
  constructor
  · intro h
    obtain ⟨chain, hknown, h⟩ := Option.bind_eq_some_iff.1 h
    split at h
    · rename_i hchain
      obtain ⟨a, ha, h⟩ := Option.bind_eq_some_iff.1 h
      obtain ⟨text, htext, ha⟩ := Option.bind_eq_some_iff.1 ha
      cases h
      exact ⟨chain, text, a, hknown, List.contains_iff_mem.1 hchain, htext, ha, rfl⟩
    · cases h
  · rintro ⟨chain, text, a, hknown, hchain, htext, ha, rfl⟩
    refine Option.bind_eq_some_iff.2 ⟨chain, hknown, ?_⟩
    rw [if_pos (List.contains_iff_mem.2 hchain), htext]
    exact Option.bind_eq_some_iff.2 ⟨a, ha, rfl⟩

/-- The places of a record that have a token, each with the name of its platform. -/
def rows (e : Entry) (platforms : Platforms) (chains : List ChainId) : List (String × Token) :=
  e.platforms.entries.filterMap fun place => (e.token? platforms chains place).map (place.1, ·)

/-- A row stands for a token exactly when the record holds it on the row's platform. -/
theorem mem_rows_iff {platform : String} {t : Token} :
    (platform, t) ∈ e.rows platforms chains ↔ e.Holds platforms chains platform t := by
  rw [rows, List.mem_filterMap]
  constructor
  · rintro ⟨place, hmem, hrow⟩
    obtain ⟨_, htoken, heq⟩ := Option.map_eq_some_iff.1 hrow
    cases heq
    obtain ⟨chain, text, a, hknown, hchain, htext, ha, rfl⟩ := token?_eq_some_iff.1 htoken
    refine .intro ?_ hknown hchain (Address.parse?_eq_some_iff.1 ha)
    rw [← htext]
    exact SortedMap.get?_of_mem hmem
  · rintro ⟨hplace, hknown, hchain, ha⟩
    refine ⟨_, SortedMap.mem_of_get? hplace, Option.map_eq_some_iff.2 ⟨_, ?_, rfl⟩⟩
    exact token?_eq_some_iff.2
      ⟨_, _, _, hknown, hchain, rfl, Address.parse?_eq_some_iff.2 ha, rfl⟩

/-- The rows of a record go up by platform, as a sorted map yields them. -/
theorem ascending_rows (e : Entry) (platforms : Platforms) (chains : List ChainId) :
    (e.rows platforms chains).Pairwise fun x y => Bytes.ofText x.1 < Bytes.ofText y.1 := by
  refine List.pairwise_filterMap.2 (e.platforms.ascending.imp ?_)
  intro x y hxy p hp q hq
  obtain ⟨_, -, rfl⟩ := Option.map_eq_some_iff.1 hp
  obtain ⟨_, -, rfl⟩ := Option.map_eq_some_iff.1 hq
  exact Bytes.ofText_lt_ofText (compareOfLessAndEq_eq_lt.1 hxy)

/-- A record of the dump yields its tokens. -/
theorem yields_tokens (platforms : Platforms) (chains : List ChainId) (e : Entry) :
    e.Yields platforms chains (e.tokens platforms chains) := by
  refine ⟨e.rows platforms chains, ?_, ascending_rows e platforms chains,
    fun _ _ => mem_rows_iff⟩
  rw [rows, List.map_filterMap, tokens]
  refine List.filterMap_congr fun place _ => ?_
  rw [Option.map_map]
  exact Option.map_id_apply

end CoinGecko.Entry

/-! ### Whole lists -/

/-- The list of a document: what its envelope says, and the tokens of its records in their order. -/
inductive Lists (origin : Origin) (chains : List ChainId) :
    ListFormat → Document → TokenList → Prop
  | standard {e : Envelope Standard.Entry} {tss : List (List Token)} {l : TokenList}
      (records : List.Forall₂ (Standard.Entry.Yields chains) e.records tss)
      (tokens : l.tokens = tss.flatten) (envelope : e.Carried origin l) :
      Lists origin chains .standard (.standard e) l
  | status {e : Envelope Status.Entry} {tss : List (List Token)} {l : TokenList}
      (records : List.Forall₂ (Status.Entry.Yields chains) e.records tss)
      (tokens : l.tokens = tss.flatten) (envelope : e.Carried origin l) :
      Lists origin chains .status (.status e) l
  | coinGecko {platforms : CoinGecko.Platforms} {records : List CoinGecko.Entry}
      {tss : List (List Token)} {time : String}
      (yields : List.Forall₂ (CoinGecko.Entry.Yields platforms chains) records tss)
      (fetched : ∀ t, origin.fetchedAt = some t → time = t.toText)
      (bundled : origin.fetchedAt = none → time = "") :
      Lists origin chains (.coinGecko platforms) (.dump records) {
        name := "CoinGecko All Tokens", timestamp := time, fetchedTimestamp := time,
        source := origin.source, tokens := tss.flatten }

/-- What is made of every record by itself is related to it. -/
theorem forall₂_map {α β : Type} {R : α → β → Prop} {xs : List α} {g : α → β}
    (h : ∀ x ∈ xs, R x (g x)) : List.Forall₂ R xs (xs.map g) := by
  rw [List.forall₂_map_right_iff, List.forall₂_same]
  exact h

variable {orders : Orders} {raw : Bytes} {origin : Origin} {chains : List ChainId}

/-- An envelope of the standard format that decodes becomes its list. -/
theorem Standard.exists_ok {e : Envelope Entry}
    (h : Envelope.decode Entry.record.read raw = .ok e) :
    ∃ l, ListFormat.standard.parseInOrder orders raw origin chains = .ok l ∧
      Lists origin chains .standard (.standard e) l := by
  refine ⟨e.toList origin (e.records.filterMap (Entry.token? chains)), ?_, ?_⟩
  · show Except.bind _ _ = _
    rw [h]
    rfl
  · refine .standard (forall₂_map fun r _ => Entry.yields_token? chains r) ?_
      (e.carried_toList origin _)
    rw [← List.flatMap_def, ← List.filterMap_eq_flatMap_toList]
    rfl

/-- The place of a record says in which order its contracts come, and nothing else. -/
theorem Status.yields_records (orders : Nat → Shuffle (String × String)) (chains : List ChainId)
    (records : List Entry) :
    List.Forall₂ (Entry.Yields chains) records (records.zipIdx.map fun p =>
      p.1.tokensInOrder chains ((orders p.2).order p.1.contracts.entries)) := by
  have hplaces : List.Forall₂ (fun p : Entry × Nat => p.1.Yields chains) records.zipIdx
      (records.zipIdx.map fun p =>
        p.1.tokensInOrder chains ((orders p.2).order p.1.contracts.entries)) :=
    forall₂_map fun p _ => p.1.yields_tokensInOrder chains ((orders p.2).perm _)
  have hrecords := List.forall₂_map_left_iff (f := Prod.fst).2 hplaces
  rwa [List.zipIdx_map_fst] at hrecords

/-- An envelope of the status format that decodes becomes its list, in every order of the
    contracts. -/
theorem Status.exists_ok {e : Envelope Entry}
    (h : Envelope.decode Entry.record.read raw = .ok e) :
    ∃ l, ListFormat.status.parseInOrder orders raw origin chains = .ok l ∧
      Lists origin chains .status (.status e) l := by
  refine ⟨_, ?_, .status (yields_records orders.contracts chains e.records) rfl
    (e.carried_toList origin _)⟩
  show Except.bind _ _ = _
  rw [h]
  rfl

/-- A dump that decodes becomes its list. -/
theorem CoinGecko.exists_ok {platforms : Platforms} {records : List Entry}
    (h : (Reader.list Entry.record.read maxNesting).decode raw = .ok records) :
    ∃ l, (ListFormat.coinGecko platforms).parseInOrder orders raw origin chains = .ok l ∧
      Lists origin chains (.coinGecko platforms) (.dump records) l := by
  refine ⟨_, ?_, .coinGecko (forall₂_map fun r _ => Entry.yields_tokens platforms chains r)
    (fun _ hfetched => Origin.timestamp_of_some hfetched "") (Origin.timestamp_of_none · "")⟩
  show CoinGecko.parse _ raw origin chains = _
  rw [SortedMap.gather_eq, CoinGecko.parse, h]
  rfl

/-- Bytes that are read say something in the format. -/
theorem decodes_of_ok {f : ListFormat} {l : TokenList}
    (h : f.parseInOrder orders raw origin chains = .ok l) : ∃ d, f.Decodes raw d := by
  cases f with
  | standard =>
    obtain ⟨e, he, -⟩ := exists_ok_of_bind h
    obtain ⟨o, ho, he⟩ := (Envelope.decode_eq_ok_iff Standard.Entry.means_read).1 he
    exact ⟨.standard e, o, ho, Option.map_eq_some_iff.2 ⟨e, he, rfl⟩⟩
  | status =>
    obtain ⟨e, he, -⟩ := exists_ok_of_bind h
    obtain ⟨o, ho, he⟩ := (Envelope.decode_eq_ok_iff Status.Entry.means_read).1 he
    exact ⟨.status e, o, ho, Option.map_eq_some_iff.2 ⟨e, he, rfl⟩⟩
  | coinGecko platforms =>
    obtain ⟨records, hrecords, -⟩ := exists_ok_of_bind h
    obtain ⟨o, ho, hrecords⟩ := CoinGecko.decode_eq_ok_iff.1 hrecords
    exact ⟨.dump records, o, ho, Option.map_eq_some_iff.2 ⟨records, hrecords, rfl⟩⟩

/-- What a document says makes a list. -/
theorem exists_ok_of_decodes {f : ListFormat} {d : Document} (h : f.Decodes raw d) :
    ∃ l, f.parseInOrder orders raw origin chains = .ok l ∧ Lists origin chains f d l := by
  obtain ⟨o, ho, hd⟩ := h
  cases f with
  | standard =>
    obtain ⟨e, he, rfl⟩ := Option.map_eq_some_iff.1 hd
    exact Standard.exists_ok ((Envelope.decode_eq_ok_iff Standard.Entry.means_read).2 ⟨o, ho, he⟩)
  | status =>
    obtain ⟨e, he, rfl⟩ := Option.map_eq_some_iff.1 hd
    exact Status.exists_ok ((Envelope.decode_eq_ok_iff Status.Entry.means_read).2 ⟨o, ho, he⟩)
  | coinGecko platforms =>
    obtain ⟨records, hrecords, rfl⟩ := Option.map_eq_some_iff.1 hd
    exact CoinGecko.exists_ok (CoinGecko.decode_eq_ok_iff.2 ⟨o, ho, hrecords⟩)

/-- **Reading a list loses nothing and invents nothing**: bytes that say something in the format
    give the list of it, in whatever order hash maps are gone through, and any others are an
    error. -/
theorem parse_decoded (f : ListFormat) (orders : Orders) (raw : Bytes) (origin : Origin)
    (chains : List ChainId) :
    (∀ d, f.Decodes raw d → ∃ l, f.parseInOrder orders raw origin chains = .ok l ∧
      Lists origin chains f d l) ∧
    ((¬ ∃ d, f.Decodes raw d) →
      ∃ fault, f.parseInOrder orders raw origin chains = .error fault) := by
  refine ⟨fun d hd => exists_ok_of_decodes hd, fun hnone => ?_⟩
  cases h : f.parseInOrder orders raw origin chains with
  | ok l => exact absurd (decodes_of_ok h) hnone
  | error fault => exact ⟨fault, rfl⟩

-- The contracts of a record are written in another order than its tokens come in, and one of them
-- is on no chain.
example : ((status.parse (Bytes.ofText ("\x7b\"tokens\":[\x7b\"contracts\":\x7b" ++
      "\"10\":\"0x1111111111111111111111111111111111111111\",\"x\":\"\"," ++
      "\"+1\":\"0X2222222222222222222222222222222222222222\"\x7d\x7d]\x7d"))
    { source := localSource } [1, 10]).toOption.map fun l => l.tokens.map (·.chainId)) =
      some [1, 10] := by
  decide +kernel

end TokenCatalog.ListFormat
