import TokenCatalog.Proofs.ListFormat.Enumeration

namespace TokenCatalog

/-!
# Chains — what the supported chains do to a list

Every format keeps a record only if its chain is supported, and looks at the other chains no further.

* `TokenList.on` — a list with its tokens on some chains only;
* `mem_of_parseInOrder` — the tokens of a list are on supported chains, and none is marked as custom;
* `parseInOrder_on` — with fewer chains the same document is the same list, on these chains.
-/

/-- A list with its tokens on some chains only. -/
def TokenList.on (l : TokenList) (chains : List ChainId) : TokenList :=
  { l with tokens := l.tokens.filter (chains.contains ·.chainId) }

namespace ListFormat

/-! ### One token -/

/-- A token that is kept is on a supported chain. -/
theorem mem_of_supported {chains : List ChainId} {chain : ChainId} {x : Option Token} {t : Token}
    (h : (if chains.contains chain then x else none) = some t) : chain ∈ chains ∧ x = some t := by
  by_cases hchain : chains.contains chain
  · rw [if_pos hchain] at h
    exact ⟨List.contains_iff_mem.1 hchain, h⟩
  · rw [if_neg hchain] at h
    cases h

/-- To support fewer chains is to leave out the tokens on the others. -/
theorem supported_on {a b : List ChainId} (hab : a ⊆ b) {chain : ChainId} {x : Option Token}
    (hx : ∀ t ∈ x, t.chainId = chain) :
    (if a.contains chain then x else none) =
      (if b.contains chain then x else none).filter (a.contains ·.chainId) := by
  by_cases ha : chain ∈ a
  · have hb : chain ∈ b := hab ha
    rw [if_pos (List.contains_iff_mem.2 ha), if_pos (List.contains_iff_mem.2 hb)]
    cases x with
    | none => rfl
    | some t =>
      have ht : a.contains t.chainId := by simpa [hx t rfl] using ha
      rw [Option.filter_some, if_pos ht]
  · rw [if_neg (mt List.contains_iff_mem.1 ha)]
    by_cases hb : chain ∈ b
    · rw [if_pos (List.contains_iff_mem.2 hb)]
      cases x with
      | none => rfl
      | some t =>
        have ht : ¬ a.contains t.chainId := by simpa [hx t rfl] using ha
        rw [Option.filter_some, if_neg ht]
    · rw [if_neg (mt List.contains_iff_mem.1 hb)]
      rfl

/-- What a format makes of a record depends on the supported chains only by leaving out tokens, and
    no token is marked as custom. -/
structure Selects (token? : List ChainId → α → Option Token) : Prop where
  mem : ∀ {chains x t}, token? chains x = some t → t.chainId ∈ chains ∧ t.custom = false
  on : ∀ {a b : List ChainId}, a ⊆ b → ∀ x,
    token? a x = (token? b x).filter (a.contains ·.chainId)

/-- A record of the standard format is kept for its chain alone. -/
theorem Standard.selects : Selects Standard.Entry.token? where
  mem {chains e t} h := by
    obtain ⟨hchain, hsome⟩ := mem_of_supported h
    simp only [Option.bind_eq_bind, Option.bind_eq_some_iff, pure, Option.some.injEq] at hsome
    obtain ⟨address, -, decimals, -, rfl⟩ := hsome
    exact ⟨hchain, rfl⟩
  on {a b} hab e := by
    refine supported_on hab fun t ht => ?_
    simp only [Option.bind_eq_bind, Option.mem_def, Option.bind_eq_some_iff, pure,
      Option.some.injEq] at ht
    obtain ⟨address, -, decimals, -, rfl⟩ := ht
    rfl

/-- A contract of the status format is kept for its chain alone. -/
theorem Status.selects (e : Status.Entry) (decimals : UInt8) :
    Selects fun chains => e.token? chains decimals where
  mem {chains x t} h := by
    obtain ⟨hchain, address, -, rfl⟩ := Status.Entry.token?_eq_some_iff.1 h
    exact ⟨hchain, rfl⟩
  on {a b} hab x := by
    refine supported_on hab fun t ht => ?_
    simp only [Option.bind_eq_bind, Option.mem_def, Option.bind_eq_some_iff, pure,
      Option.some.injEq] at ht
    obtain ⟨address, -, rfl⟩ := ht
    rfl

/-- A place of the dump is kept for the chain of its platform alone. -/
theorem CoinGecko.selects (e : CoinGecko.Entry) (platforms : CoinGecko.Platforms) :
    Selects fun chains => e.token? platforms chains where
  mem {chains place t} h := by
    obtain ⟨chain, -, hkept⟩ := Option.bind_eq_some_iff.1 h
    obtain ⟨hchain, hsome⟩ := mem_of_supported hkept
    obtain ⟨address, -, ht⟩ := Option.bind_eq_some_iff.1 hsome
    cases ht
    exact ⟨hchain, rfl⟩
  on {a b} hab place := by
    show Option.bind _ _ = Option.filter _ (Option.bind _ _)
    cases platforms.get? place.1 with
    | none => rfl
    | some chain =>
      refine supported_on hab fun t ht => ?_
      obtain ⟨address, -, hsome⟩ := Option.bind_eq_some_iff.1 ht
      cases hsome
      rfl

/-! ### Many tokens -/

/-- What a format makes of a document, as far as the supported chains matter. -/
structure SelectsAll (tokens : List ChainId → List Token) : Prop where
  mem : ∀ {chains t}, t ∈ tokens chains → t.chainId ∈ chains ∧ t.custom = false
  on : ∀ {a b : List ChainId}, a ⊆ b →
    tokens a = (tokens b).filter (a.contains ·.chainId)

/-- Keeping what each element selects is selecting as well. -/
theorem Selects.filterMap {token? : List ChainId → α → Option Token} (h : Selects token?)
    (xs : List α) : SelectsAll fun chains => xs.filterMap (token? chains) where
  mem ht := by
    obtain ⟨x, -, hx⟩ := List.mem_filterMap.1 ht
    exact h.mem hx
  on hab := by
    rw [List.filter_filterMap]
    exact List.filterMap_congr fun x _ => h.on hab x

/-- No tokens at all are selected by any chains. -/
theorem SelectsAll.nil : SelectsAll fun _ => [] where
  mem ht := nomatch ht
  on _ := rfl

/-- Lists that are selected one by one are selected when put together. -/
theorem SelectsAll.flatMap {tokens : α → List ChainId → List Token} (h : ∀ x, SelectsAll (tokens x))
    (xs : List α) : SelectsAll fun chains => xs.flatMap (tokens · chains) where
  mem ht := by
    obtain ⟨x, -, hx⟩ := List.mem_flatMap.1 ht
    exact (h x).mem hx
  on hab := by
    rw [List.filter_flatMap]
    exact List.flatMap_congr fun x _ => (h x).on hab

/-- In whatever order its contracts come, the tokens of a record are selected by chain. -/
theorem Status.selectsAll (e : Status.Entry) (contracts : List (String × String)) :
    SelectsAll fun chains => e.tokensInOrder chains contracts := by
  cases hdecimals : decimals? e.decimals with
  | none =>
    simp only [Status.Entry.tokensInOrder, hdecimals]
    exact .nil
  | some decimals =>
    simp only [Status.Entry.tokensInOrder, hdecimals]
    exact (Status.selects e decimals).filterMap _

/-! ### Documents -/

/-- A document is a list or not, whatever the supported chains; they select its tokens. -/
theorem exists_selectsAll (f : ListFormat) (o : Orders) (raw : Bytes) (origin : Origin) :
    (∃ fault, ∀ chains, f.parseInOrder o raw origin chains = .error fault) ∨
    ∃ (l : TokenList) (tokens : List ChainId → List Token), SelectsAll tokens ∧
      ∀ chains, f.parseInOrder o raw origin chains = .ok { l with tokens := tokens chains } := by
  -- Decoding looks at no chain, so that a fault is one for all chains; the supported ones only
  -- choose tokens.
  cases f with
  | standard =>
    cases he : Envelope.decode Standard.Entry.record.read raw with
    | error fault =>
      left
      refine ⟨fault, fun chains => ?_⟩
      rw [parseInOrder, Standard.parse, he]
      rfl
    | ok e =>
      right
      refine ⟨e.toList origin [], _, Standard.selects.filterMap e.records, fun chains => ?_⟩
      rw [parseInOrder, Standard.parse, he]
      rfl
  | status =>
    cases he : Envelope.decode Status.Entry.record.read raw with
    | error fault =>
      left
      refine ⟨fault, fun chains => ?_⟩
      rw [parseInOrder, Status.parseInOrder, he]
      rfl
    | ok e =>
      right
      refine ⟨e.toList origin [], _, .flatMap (fun p => Status.selectsAll p.1
        ((o.contracts p.2).order p.1.contracts.entries)) e.records.zipIdx, fun chains => ?_⟩
      rw [parseInOrder, Status.parseInOrder, he]
      rfl
  | coinGecko platforms =>
    cases he : (Json.Reader.list CoinGecko.Entry.record.read Json.maxNesting).decode raw with
    | error fault =>
      left
      refine ⟨fault, fun chains => ?_⟩
      rw [parseInOrder, CoinGecko.parse, he]
      rfl
    | ok entries =>
      right
      refine ⟨{
          name := "CoinGecko All Tokens", timestamp := origin.timestamp "",
          fetchedTimestamp := origin.timestamp "", source := origin.source }, _,
        .flatMap (fun e => (CoinGecko.selects e (platforms.gather o.platforms)).filterMap
          e.platforms.entries) entries, fun chains => ?_⟩
      rw [parseInOrder, CoinGecko.parse, he]
      rfl

/-- Tokens that were read are on supported chains, and none is marked as custom. -/
theorem mem_of_parseInOrder {f : ListFormat} {o : Orders} {raw : Bytes} {origin : Origin}
    {chains : List ChainId} {l : TokenList} (h : f.parseInOrder o raw origin chains = .ok l)
    {t : Token} (ht : t ∈ l.tokens) : t.chainId ∈ chains ∧ t.custom = false := by
  rcases exists_selectsAll f o raw origin with ⟨fault, hfault⟩ | ⟨list, tokens, hselects, hok⟩
  · rw [hfault] at h
    cases h
  · rw [hok] at h
    cases h
    exact hselects.mem ht

/-- With fewer chains the same document is the same list, on these chains. -/
theorem parseInOrder_on (f : ListFormat) (o : Orders) (raw : Bytes) (origin : Origin)
    {a b : List ChainId} (hab : a ⊆ b) :
    f.parseInOrder o raw origin a = (f.parseInOrder o raw origin b).map (·.on a) := by
  rcases exists_selectsAll f o raw origin with ⟨fault, hfault⟩ | ⟨list, tokens, hselects, hok⟩
  · rw [hfault, hfault]
    rfl
  · rw [hok, hok, hselects.on hab]
    rfl

end ListFormat

end TokenCatalog
