import TokenCatalog.Proofs.Snapshot.Merge
import Mathlib.Data.List.Nodup

namespace TokenCatalog

/-!
# Queries — what a snapshot answers, whichever lists were added to it

Queries look tokens up by key, and their answers are about chains and addresses.

* `Snapshot.Sound` — every token stands under its own key, and no key comes twice; the empty snapshot
  is sound, and adding a list keeps it so (`Sound.add`, `sound_merge`);
* `Snapshot.token?_eq_some_iff`, `Snapshot.perm_flatMap_tokensOn` — the queries of a sound snapshot;
* `Snapshot.foldl_enter` — the tokens that a list brings, entered one by one;
* `Snapshot.Answers`, `Snapshot.queries_agree` — **main result**: all of it for every snapshot.
-/

/-- What identifies a token: its chain and its address there. -/
def Token.identity (t : Token) : ChainId × Address := (t.chainId, t.address)

theorem Token.key_eq_iff {s t : Token} : s.key = t.key ↔ s.identity = t.identity := by
  constructor
  · intro h
    obtain ⟨hchain, haddress⟩ := Token.eq_of_key_eq h
    rw [identity, identity, hchain, haddress]
  · intro h
    obtain ⟨hchain, haddress⟩ := Prod.mk.inj h
    rw [key, key, hchain, haddress]

namespace Snapshot

/-- Every token stands under its own key, and no key comes twice. -/
structure Sound (s : Snapshot) : Prop where
  keyed : ∀ e ∈ s.index, e.1 = e.2.key
  nodup : (s.index.map (·.1)).Nodup

variable {s : Snapshot}

/-! ### Adding lists keeps a snapshot sound -/

theorem sound_empty : Sound {} := ⟨by simp, by simp⟩

/-- What a list brings stands under its own key, and the index has not seen that key. -/
theorem Sound.add (h : s.Sound) (id : String) (l : TokenList) : (s.add id l).Sound where
  keyed e he := by
    rcases List.mem_append.1 he with hold | hnew
    · exact h.keyed e hold
    · exact key_of_mem_fresh hnew
  nodup := by
    show ((s.index ++ s.gain l).map (·.1)).Nodup
    rw [List.map_append, List.nodup_append]
    refine ⟨h.nodup, nodup_keys_fresh _ _, ?_⟩
    rintro k hold _ hnew rfl
    exact (mem_keys_fresh_iff.1 hnew).1 hold

theorem Sound.merge (h : s.Sound) (ls : List (String × TokenList)) : (s.merge ls).Sound := by
  induction ls generalizing s with
  | nil => exact h
  | cons e ls ih => exact ih (h.add e.1 e.2)

/-- Every snapshot that is made by adding lists is sound. -/
theorem sound_merge (ls : List (String × TokenList)) : (merge {} ls).Sound := sound_empty.merge ls

/-! ### What the index holds -/

theorem Sound.mem_index_iff (h : s.Sound) {e : String × Token} :
    e ∈ s.index ↔ e.2 ∈ s.tokens ∧ e.1 = e.2.key := by
  constructor
  · intro he
    exact ⟨List.mem_map_of_mem he, h.keyed e he⟩
  · rintro ⟨ht, hkey⟩
    obtain ⟨e', he', heq⟩ := List.mem_map.1 ht
    have hkey' : e'.1 = e.1 := by rw [hkey, h.keyed e' he', heq]
    rwa [← Prod.ext hkey' heq]

/-- No chain and address come twice. -/
theorem Sound.nodup_identity (h : s.Sound) : (s.tokens.map Token.identity).Nodup := by
  have hkeys : s.index.map (·.1) = s.tokens.map Token.key := by
    rw [tokens, List.map_map]
    exact List.map_congr_left h.keyed
  have hnodup := h.nodup
  rw [hkeys, List.Nodup, List.pairwise_map] at hnodup
  rw [List.Nodup, List.pairwise_map]
  exact hnodup.imp fun hne heq => hne (Token.key_eq_iff.2 heq)

theorem Sound.nodup_tokens (h : s.Sound) : s.tokens.Nodup := h.nodup_identity.of_map _

/-! ### Queries -/

variable {chain : ChainId} {a : Address} {t : Token} {x : String}

/-- A token is found by its chain and its address. -/
theorem Sound.token?_eq_some_iff (h : s.Sound) :
    s.token? chain a = some t ↔ t ∈ s.tokens ∧ t.chainId = chain ∧ t.address = a := by
  rw [token?, Option.map_eq_some_iff]
  constructor
  · rintro ⟨e, hfind, rfl⟩
    have hmem := List.mem_of_find?_eq_some hfind
    have hkey : e.1 = Key.encode chain a := by simpa using List.find?_some hfind
    rw [h.keyed e hmem] at hkey
    exact ⟨List.mem_map_of_mem hmem, Key.encode_inj hkey⟩
  · rintro ⟨ht, rfl, rfl⟩
    have hmem : (t.key, t) ∈ s.index := h.mem_index_iff.2 ⟨ht, rfl⟩
    -- The search stops at this entry, for no other one has its key.
    cases hfind : s.index.find? (·.1 = Key.encode t.chainId t.address) with
    | none => exact absurd (decide_eq_true rfl) (List.find?_eq_none.1 hfind _ hmem)
    | some e =>
      have hkey : e.1 = t.key := by simpa [Token.key] using List.find?_some hfind
      have he := List.inj_on_of_nodup_map h.nodup (List.mem_of_find?_eq_some hfind) hmem hkey
      exact ⟨e, rfl, by rw [he]⟩

theorem mem_tokensOn_iff : t ∈ s.tokensOn chain ↔ t ∈ s.tokens ∧ t.chainId = chain := by
  simp [tokensOn]

/-- Chain by chain the tokens are all there, each once. -/
theorem Sound.perm_flatMap_tokensOn (h : s.Sound) {chains : List ChainId} (hnodup : chains.Nodup)
    (hall : ∀ t ∈ s.tokens, t.chainId ∈ chains) :
    (chains.flatMap s.tokensOn).Perm s.tokens := by
  have honce : (chains.flatMap s.tokensOn).Nodup := by
    refine List.nodup_flatMap.2 ⟨fun c _ => h.nodup_tokens.filter _, hnodup.imp ?_⟩
    intro c d hne t hc hd
    exact hne ((mem_tokensOn_iff.1 hc).2.symm.trans (mem_tokensOn_iff.1 hd).2)
  refine (List.perm_ext_iff_of_nodup honce h.nodup_tokens).2 fun t => ?_
  simp only [List.mem_flatMap, mem_tokensOn_iff]
  constructor
  · rintro ⟨c, -, ht, -⟩
    exact ht
  · intro ht
    exact ⟨t.chainId, hall t ht, ht, rfl⟩

theorem mem_tokensOfAsset_iff (hx : x ≠ "") :
    t ∈ s.tokensOfAsset x ↔ t ∈ s.tokens ∧ t.crossChainId = x := by
  simp only [tokensOfAsset, List.mem_filter, Bool.and_eq_true, decide_eq_true_eq]
  refine and_congr_right fun _ => and_iff_right_of_imp ?_
  rintro rfl
  exact hx

/-- The empty id stands for no asset. -/
theorem tokensOfAsset_empty (s : Snapshot) : s.tokensOfAsset "" = [] := by
  simp [tokensOfAsset]

/-! ### Tokens entered one by one -/

/-- Entering the tokens of a list one by one brings what is fresh, and counts it. -/
theorem foldl_enter (index : List (String × Token)) (n : Nat) (ts : List Token) :
    ts.foldl enter (index, n) =
      (index ++ fresh (index.map (·.1)) ts, n + (fresh (index.map (·.1)) ts).length) := by
  induction ts generalizing index n with
  | nil => simp [fresh]
  | cons t ts ih =>
    rw [List.foldl_cons, fresh, enter]
    by_cases hseen : (index.map (·.1)).contains t.key
    · rw [if_pos hseen, if_pos hseen, ih]
    · -- The new key stands at the end of the index, and at the front of those that are seen.
      have hkeys : fresh ((index ++ [(t.key, t)]).map (·.1)) ts =
          fresh (t.key :: index.map (·.1)) ts :=
        fresh_congr (by simp [or_comm]) ts
      rw [if_neg hseen, if_neg hseen, ih, hkeys, List.append_assoc, List.length_cons,
        Nat.add_assoc, Nat.add_comm 1]
      rfl

theorem added_eq (s : Snapshot) (l : TokenList) : s.added l = (s.gain l).length := by
  rw [added, foldl_enter, Nat.zero_add, gain]

/-! ### The main result -/

/-- What a snapshot promises about its tokens. -/
structure Answers (s : Snapshot) : Prop where
  keyed : ∀ e ∈ s.index, e.1 = e.2.key
  distinct : (s.tokens.map Token.identity).Nodup
  token : ∀ chain a t, s.token? chain a = some t ↔
    t ∈ s.tokens ∧ t.chainId = chain ∧ t.address = a
  onChain : ∀ chain, (s.tokensOn chain).Sublist s.tokens ∧
    ∀ t, t ∈ s.tokensOn chain ↔ t ∈ s.tokens ∧ t.chainId = chain
  /-- Chains that are different and leave none out divide the tokens among them. -/
  partition : ∀ chains : List ChainId, chains.Nodup → (∀ t ∈ s.tokens, t.chainId ∈ chains) →
    (chains.flatMap s.tokensOn).Perm s.tokens
  ofAsset : ∀ x, x ≠ "" → (s.tokensOfAsset x).Sublist s.tokens ∧
    ∀ t, t ∈ s.tokensOfAsset x ↔ t ∈ s.tokens ∧ t.crossChainId = x
  ofNoAsset : s.tokensOfAsset "" = []
  /-- A further list leaves the index as it is and brings, behind it, the first token of every key
      that the index has not seen. -/
  growth : ∀ id l, ∃ new, (s.add id l).index = s.index ++ new ∧ new.length = s.added l ∧
    (∀ e ∈ new, e.1 = e.2.key) ∧
    new.map (·.2) = (firstPerKey l.tokens).filter fun t => t.key ∉ s.index.map (·.1)

theorem Sound.answers (h : s.Sound) : s.Answers where
  keyed := h.keyed
  distinct := h.nodup_identity
  token _ _ _ := h.token?_eq_some_iff
  onChain _ := ⟨List.filter_sublist, fun _ => mem_tokensOn_iff⟩
  partition _ hnodup hall := h.perm_flatMap_tokensOn hnodup hall
  ofAsset _ hx := ⟨List.filter_sublist, fun _ => mem_tokensOfAsset_iff hx⟩
  ofNoAsset := tokensOfAsset_empty s
  growth _ l :=
    ⟨s.gain l, rfl, (added_eq s l).symm, fun _ => key_of_mem_fresh, map_snd_fresh _ l.tokens⟩

/-- **Queries agree with the tokens.**  Whichever lists were added to the empty snapshot, every token
    stands under its own key, no chain and address come twice, every query answers with the tokens
    that it asks for, and a further list only adds to them. -/
theorem queries_agree (ls : List (String × TokenList)) : (merge {} ls).Answers :=
  (sound_merge ls).answers

end Snapshot

end TokenCatalog
