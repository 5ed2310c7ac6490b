import TokenCatalog.Proofs.Snapshot.Trust

namespace TokenCatalog

open ContentStore (manifestId nativeId customId)

/-!
# Restriction — what a further chain changes

A configuration may support more chains or fewer.  With fewer, every tier is as it was but for the
tokens on the other chains, and none of these has the key of a token that stays; so the tokens that
were the first of their keys are still.  All this is so as long as both configurations are gone through
in the same order; two builds meet two orders, and then ambiguous records are left.

* `Config.restrict` — a configuration with other chains;
* `foundInOrder?_restrict`, `tokens_tiersInOrder_restrict` — the lists that are read, and all tokens;
* `restriction_commutes` — the snapshot with fewer chains is that with more, on the fewer.
-/

/-- A configuration with other chains. -/
def Config.restrict (c : Config) (chains : List ChainId) : Config := { c with chains := chains }

/-- Whether a token is on one of some chains. -/
def Token.isOn (chains : List ChainId) (t : Token) : Bool := chains.contains t.chainId

theorem Token.isOn_of_key_eq {chains : List ChainId} {s t : Token} (h : s.key = t.key) :
    s.isOn chains = t.isOn chains := by
  rw [isOn, isOn, (eq_of_key_eq h).1]

namespace Config

variable {c : Config} {a : List ChainId}

/-- The fewer chains are some of those that were there. -/
theorem subset_of_eq_filter (hchains : a = c.chains.filter (a.contains ·)) : a ⊆ c.chains := by
  intro x hx
  rw [hchains] at hx
  exact (List.mem_filter.1 hx).1

/-! ### The tiers -/

/-- Of a list that is read the tokens on these chains are left. -/
theorem foundInOrder?_restrict (ha : a ⊆ c.chains) (o : Snapshot.Orders) (s : Sources)
    (id : String) :
    (c.restrict a).foundInOrder? o s id = (c.foundInOrder? o s id).map (·.on a) := by
  rw [foundInOrder?_eq, foundInOrder?_eq]
  -- The copies are the same, and so is the one that is read.
  show (c.copyOf? s id).bind _ = _
  cases c.copyOf? s id with
  | none => rfl
  | some copy =>
    show (ListFormat.parseInOrder _ _ _ _ a).toOption = _
    rw [ListFormat.parseInOrder_on _ _ _ _ ha]
    show (Except.map _ (ListFormat.parseInOrder (c.formatOf id) (o.lists id) _ _ _)).toOption =
      Option.map _ (ListFormat.parseInOrder _ _ _ _ _).toOption
    cases ListFormat.parseInOrder (c.formatOf id) (o.lists id) copy.1 copy.2 c.chains <;> rfl

theorem readTier_restrict (ha : a ⊆ c.chains) (o : Snapshot.Orders) (s : Sources) :
    (c.restrict a).readTier o s = (c.readTier o s).map fun e => (e.1, e.2.on a) := by
  rw [readTier_eq, readTier_eq, List.map_flatMap]
  refine List.flatMap_congr fun id _ => ?_
  rw [foundInOrder?_restrict ha]
  cases c.foundInOrder? o s id <;> rfl

theorem customTokens_restrict (ha : a ⊆ c.chains) (custom : List CustomToken) :
    (c.restrict a).customTokens custom = (c.customTokens custom).filter (Token.isOn a) := by
  rw [customTokens, customTokens, List.filter_filterMap]
  refine List.filterMap_congr fun r _ => Option.ext fun t => ?_
  rw [Option.filter_eq_some_iff, toOption_eq_some_iff, toOption_eq_some_iff,
    CustomToken.validate_eq_ok_iff, CustomToken.validate_eq_ok_iff]
  show r.chainId ∈ a ∧ _ ↔ _
  constructor
  · rintro ⟨hchain, hsymbol, hdecimals, hlogo, address, haddress, rfl⟩
    exact ⟨⟨ha hchain, hsymbol, hdecimals, hlogo, address, haddress, rfl⟩,
      List.contains_iff_mem.2 hchain⟩
  · rintro ⟨⟨-, hsymbol, hdecimals, hlogo, address, haddress, rfl⟩, hon⟩
    exact ⟨List.contains_iff_mem.1 hon, hsymbol, hdecimals, hlogo, address, haddress, rfl⟩

theorem nativeTokens_restrict (hchains : a = c.chains.filter (a.contains ·)) :
    a.map Chain.nativeToken = (c.chains.map Chain.nativeToken).filter (Token.isOn a) := by
  rw [List.filter_map]
  conv_lhs => rw [hchains]
  rfl

theorem nativeTier_restrict (hchains : a = c.chains.filter (a.contains ·)) :
    (c.restrict a).nativeTier = c.nativeTier.map fun e => (e.1, e.2.on a) := by
  show [(nativeId, _)] = [(nativeId, _)]
  congr 2
  show TokenList.mk _ _ _ _ _ _ _ _ (a.map Chain.nativeToken) = TokenList.mk _ _ _ _ _ _ _ _ _
  congr 1
  exact nativeTokens_restrict hchains

/-- Of the tokens of all tiers those on these chains are left. -/
theorem tokens_tiersInOrder_restrict (hchains : a = c.chains.filter (a.contains ·))
    (o : Snapshot.Orders) (s : Sources) :
    ((c.restrict a).tiersInOrder o s).flatMap (·.2.tokens) =
      ((c.tiersInOrder o s).flatMap (·.2.tokens)).filter (Token.isOn a) := by
  have ha := subset_of_eq_filter hchains
  have hread : ((c.restrict a).readTier o s).flatMap (·.2.tokens) =
      ((c.readTier o s).flatMap (·.2.tokens)).filter (Token.isOn a) := by
    rw [readTier_restrict ha, List.flatMap_map, List.filter_flatMap]
    rfl
  rw [tokens_tiersInOrder, tokens_tiersInOrder, hread, customTokens_restrict ha,
    List.filter_append, List.filter_append, ← nativeTokens_restrict hchains]
  rfl

end Config

/-! ### The snapshot -/

namespace Snapshot

variable {c : Config} {a : List ChainId} (o : Orders) (s : Sources)

theorem tokens_restrict (hchains : a = c.chains.filter (a.contains ·)) :
    (buildInOrder (c.restrict a) o s).tokens =
      (buildInOrder c o s).tokens.filter (Token.isOn a) := by
  rw [tokens_buildInOrder, tokens_buildInOrder, Config.tokens_tiersInOrder_restrict hchains]
  exact firstPerKey_filter (fun _ _ => Token.isOn_of_key_eq) _

theorem token?_restrict (hchains : a = c.chains.filter (a.contains ·)) {chain : ChainId}
    (hchain : chain ∈ a) (address : Address) :
    (buildInOrder (c.restrict a) o s).token? chain address =
      (buildInOrder c o s).token? chain address := by
  show (merge {} _).token? chain address = (merge {} _).token? chain address
  rw [token?_merge, token?_merge]
  show (buildInOrder (c.restrict a) o s).tokens.find? _ = (buildInOrder c o s).tokens.find? _
  rw [tokens_restrict o s hchains, List.find?_filter]
  congr 1
  funext t
  -- A token with this key is on the chain.
  by_cases hkey : t.key = Key.encode chain address
  · have hon : t.isOn a := by
      rw [Token.isOn, (Key.encode_inj hkey).1]
      exact List.contains_iff_mem.2 hchain
    simp [hkey, hon]
  · simp [hkey]

theorem list?_restrict (hchains : a = c.chains.filter (a.contains ·)) {id : String}
    (hid : id ≠ customId) :
    (buildInOrder (c.restrict a) o s).list? id =
      ((buildInOrder c o s).list? id).map (·.on a) := by
  have ha := Config.subset_of_eq_filter hchains
  have hcustom := Config.find?_customTier_of_ne hid
  have hnative : ((c.restrict a).nativeTier.reverse.find? (·.1 = id)).map (·.2) =
      ((c.nativeTier.reverse.find? (·.1 = id)).map (·.2)).map (·.on a) := by
    rw [Config.nativeTier_restrict hchains, ← List.map_reverse, List.find?_map, Option.map_map,
      Option.map_map]
    rfl
  have hread : (if id ∈ (c.restrict a).readIds s.cache then
        (c.restrict a).foundInOrder? o s id else none) =
      (if id ∈ c.readIds s.cache then c.foundInOrder? o s id else none).map (·.on a) := by
    show (if id ∈ c.readIds s.cache then _ else none) = _
    by_cases hmem : id ∈ c.readIds s.cache
    · rw [if_pos hmem, if_pos hmem, Config.foundInOrder?_restrict ha]
    · rw [if_neg hmem, if_neg hmem]
      rfl
  rw [list?_buildInOrder, list?_buildInOrder, hcustom, hcustom, hnative, hread, Option.map_none,
    Option.none_or, Option.none_or, Option.map_or]

end Snapshot

/-! ### The main result -/

open Snapshot

/-- **Restricting the chains commutes with merging but for ambiguous records.**  Let a draft be given
    fewer chains or more.  If hash maps come in the same orders in both builds, or no list that is
    read has a record that is ambiguous on the fewer chains, the tokens with the fewer chains are those
    with the more chains, in the same order, without those on other chains; a list other than the
    user's tokens is there in both cases or in none, and differs in no more than that; and whichever
    token is at an address of the fewer chains is so in both cases.  If a list has such a record, there
    are orders for the two builds under which it differs in more. -/
theorem restriction_commutes {d : Draft} {a b : List ChainId} {cA cB : Config}
    (hA : (d.withChains a).validate = .ok cA) (hB : (d.withChains b).validate = .ok cB)
    (hab : a ⊆ b) (s : Sources) :
    (∀ o o', (o' = o ∨ ∀ id ∈ cA.readIds s.cache, ¬ cA.Ambiguous s id) →
      (buildInOrder cA o s).tokens = (buildInOrder cB o' s).tokens.filter (·.chainId ∈ a) ∧
      (∀ id, id ≠ customId → (buildInOrder cA o s).list? id =
        ((buildInOrder cB o' s).list? id).map
          fun l => { l with tokens := l.tokens.filter (·.chainId ∈ a) }) ∧
      ∀ chain ∈ a, ∀ address,
        (buildInOrder cA o s).token? chain address =
          (buildInOrder cB o' s).token? chain address) ∧
    ∀ id ∈ cA.readIds s.cache, id ≠ customId → cA.Ambiguous s id →
      ∃ o o', (buildInOrder cA o s).list? id ≠
        ((buildInOrder cB o' s).list? id).map
          fun l => { l with tokens := l.tokens.filter (·.chainId ∈ a) } := by
  have hcA : Enumerates cA.chains (· ∈ a) := by
    rw [Draft.eq_of_validate hA]
    exact Draft.enumerates_sortedChains a
  have hcB : Enumerates cB.chains (· ∈ b) := by
    rw [Draft.eq_of_validate hB]
    exact Draft.enumerates_sortedChains b
  have hchains : cA.chains = cB.chains.filter (cA.chains.contains ·) := by
    refine hcA.unique ⟨hcB.ascending.filter _, fun x => ?_⟩
    rw [List.mem_filter, hcB.mem_iff, List.contains_iff_mem, hcA.mem_iff]
    exact and_iff_right_of_imp fun hx => hab hx
  have hon : ∀ t : Token, t.isOn cA.chains = decide (t.chainId ∈ a) := fun t => by
    rw [Bool.eq_iff_iff, Token.isOn, List.contains_iff_mem, hcA.mem_iff, decide_eq_true_eq]
  have hconfig : cA = cB.restrict cA.chains := Draft.eq_of_validate_withChains hA hB
  have htokens : ∀ o, (buildInOrder cA o s).tokens =
      (buildInOrder cB o s).tokens.filter (·.chainId ∈ a) := fun o => by
    rw [hconfig, tokens_restrict o s hchains, funext hon]
  have hlists : ∀ o id, id ≠ customId → (buildInOrder cA o s).list? id =
      ((buildInOrder cB o s).list? id).map
        fun l => { l with tokens := l.tokens.filter (·.chainId ∈ a) } := fun o id hid => by
    rw [hconfig, list?_restrict o s hchains hid]
    congr 1
    funext l
    rw [TokenList.on, ← funext hon]
    rfl
  have hfound : ∀ o, ∀ chain ∈ a, ∀ address, (buildInOrder cA o s).token? chain address =
      (buildInOrder cB o s).token? chain address := fun o chain hchain address => by
    rw [hconfig]
    exact token?_restrict o s hchains ((hcA.mem_iff _).2 hchain) address
  refine ⟨fun o o' ho => ?_, fun id hread hid hambiguous => ?_⟩
  · -- With fewer chains the snapshot is the same in the order of the other build.
    have horder : buildInOrder cA o s = buildInOrder cA o' s := by
      rcases ho with rfl | hnone
      · rfl
      · exact buildInOrder_congr hnone o o'
    rw [horder]
    exact ⟨htokens o', hlists o', hfound o'⟩
  · obtain ⟨o, o', hne⟩ := exists_list?_buildInOrder_ne hread hambiguous fun hmem =>
      hid (Config.mem_customTier_iff.1 hmem).1
    exact ⟨o, o', fun heq => hne (heq.trans (hlists o' id hid).symm)⟩

/-! ### The hostile list with a further chain -/

/-- The configuration that it becomes with a further chain. -/
def Config.wide : Config where
  mainListId := "main"
  mainList := Draft.hostile.mainList
  initialLists := ∅
  formats := Draft.hostile.formats
  defaultFormat := .standard
  chains := [1, 56]
  manifestUrl := none
  interval := .ofSeconds 1800
  checkInterval := .ofSeconds 60
  validator := .structural

/-- Rewriting with this leaves the bytes of a main list unopened. -/
theorem Draft.mainList_withChains (d : Draft) (chains : List ChainId) :
    (d.withChains chains).mainList = d.mainList := rfl

theorem Draft.validate_narrow : (Draft.hostile.withChains [1]).validate = .ok Config.hostile := by
  have h : (Draft.hostile.withChains [1]).validate =
      .ok { Config.hostile with mainList := (Draft.hostile.withChains [1]).mainList } := rfl
  rw [mainList_withChains] at h
  exact h

theorem Draft.validate_wide : (Draft.hostile.withChains [56, 1]).validate = .ok Config.wide := by
  have h : (Draft.hostile.withChains [56, 1]).validate =
      .ok { Config.wide with mainList := (Draft.hostile.withChains [56, 1]).mainList } := rfl
  rw [mainList_withChains] at h
  exact h

/-- With the further chain there are two more tokens, each among those that were there. -/
theorem wide_facts : (buildInOrder .wide .standing .bare).tokens.map
      (fun t => (t.chainId, t.symbol)) =
    [(1, "ETH"), (56, "BNB"), (1, "USDC"), (56, "FAR")] := by
  decide +kernel

theorem Draft.validate_forked_withChains :
    (Draft.forked.withChains [1]).validate = .ok Config.forked := by
  have h : (Draft.forked.withChains [1]).validate =
      .ok { Config.forked with mainList := (Draft.forked.withChains [1]).mainList } := rfl
  rw [mainList_withChains] at h
  exact h

/-- The snapshot with the one chain, by way of that with two; and a list that differs in two builds
    with one chain. -/
theorem restriction_commutes_hostile :
    (Draft.hostile.withChains [1]).validate = .ok Config.hostile ∧
    (Draft.hostile.withChains [56, 1]).validate = .ok Config.wide ∧
    (buildInOrder .hostile .standing .bare).tokens.map (fun t => (t.chainId, t.symbol)) =
      [(1, "ETH"), (1, "USDC")] ∧
    ∃ o o', (buildInOrder .forked o .bare).list? "main" ≠
      ((buildInOrder .forked o' .bare).list? "main").map
        fun l => { l with tokens := l.tokens.filter (·.chainId ∈ [1]) } := by
  have hab : [1] ⊆ ([56, 1] : List ChainId) := by simp
  refine ⟨Draft.validate_narrow, Draft.validate_wide, ?_, ?_⟩
  · have hcommutes := (restriction_commutes Draft.validate_narrow Draft.validate_wide hab .bare).1
    rw [(hcommutes .standing .standing (.inl rfl)).1]
    -- Whether a token stays can be seen from its chain.
    have hfilter : ∀ ts : List Token,
        (ts.filter (·.chainId ∈ [1])).map (fun t => (t.chainId, t.symbol)) =
          (ts.map fun t => (t.chainId, t.symbol)).filter (·.1 ∈ [1]) := fun ts => by
      rw [List.filter_map]
      rfl
    rw [hfilter, wide_facts]
    decide
  · have hdiffer := (restriction_commutes Draft.validate_forked_withChains
      Draft.validate_forked_withChains (List.Subset.refl _) .bare).2
    refine hdiffer "main" ?_ (by decide) Config.ambiguous_forked
    rw [Config.readIds_forked]
    exact List.mem_singleton_self _

/-- It may not commute, even with the same chains: two builds may enumerate the contracts of a record
    in different orders, and a record may name a chain twice. -/
theorem restriction_commutes_not_always :
    ¬ ∀ (d : Draft) (a b : List ChainId) (cA cB : Config) (s : Sources),
      (d.withChains a).validate = .ok cA → (d.withChains b).validate = .ok cB → a ⊆ b →
      ∀ o o', (buildInOrder cA o s).tokens =
        (buildInOrder cB o' s).tokens.filter (·.chainId ∈ a) := by
  intro hall
  have hsame := hall _ _ _ _ _ .bare Draft.validate_forked_withChains
    Draft.validate_forked_withChains (List.Subset.refl _)
  -- In one and the same order no token is left out.
  exact tokens_forked ((hsame .standing (.turned 1)).trans (hsame (.turned 1) (.turned 1)).symm)

end TokenCatalog
