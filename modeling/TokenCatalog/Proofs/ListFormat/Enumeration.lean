import TokenCatalog.Proofs.ListFormat.Basic
import TokenCatalog.Proofs.SortedMap

namespace TokenCatalog

/-!
# Enumeration — when a list depends on the order of hash maps

The contracts of a Status record are put into order by chain, but two texts may be numerals of one
chain, and then the contract that happens to come last counts.

* `Shuffle.endingIn` — an order that ends in a given entry;
* `Entry.Ambiguous` — contracts of one supported chain with different addresses;
* `Entry.tokensInOrder_eq_iff` — exactly then the tokens of a record depend on the order;
* `Status.parseInOrder_eq_iff` — and exactly then those of a document do.
-/

/-- The order in which entries stand, but for one that comes last. -/
def Shuffle.endingIn {α : Type} [DecidableEq α] (x : α) : Shuffle α where
  order xs := if x ∈ xs then xs.erase x ++ [x] else xs
  perm xs := by
    split
    · rename_i h
      exact (List.perm_append_singleton _ _).trans (List.perm_cons_erase h).symm
    · exact .refl xs

/-- Putting an element last moves it behind all the others. -/
theorem Shuffle.order_endingIn {α : Type} [DecidableEq α] {x : α} {xs : List α} (h : x ∈ xs) :
    (Shuffle.endingIn x).order xs = xs.erase x ++ [x] := if_pos h

namespace ListFormat

namespace Status

/-! ### Records -/

/-- Two contracts of a record stand on one supported chain, and their addresses differ. -/
structure Entry.Ambiguous (e : Entry) (chains : List ChainId) : Prop where
  decimals : (decimals? e.decimals).isSome
  contracts : ∃ chain ∈ chains, ∃ x ∈ e.contracts.entries, ∃ y ∈ e.contracts.entries,
    Numeral.natural? x.1 = some chain ∧ Numeral.natural? y.1 = some chain ∧
      Address.parse? x.2 ≠ Address.parse? y.2

/-- Of the contracts on a chain the last one counts. -/
theorem get?_addresses (contracts : List (String × String)) (chain : ChainId) :
    (addresses contracts).get? chain =
      (contracts.reverse.find? fun x => Numeral.natural? x.1 = some chain).map (·.2) := by
  rw [addresses, SortedMap.get?_ofList, ← List.filterMap_reverse, List.find?_filterMap]
  have hp : (fun x : String × String =>
      ((Numeral.natural? x.1).map (·, x.2)).any fun e => e.1 = chain) =
      fun x => decide (Numeral.natural? x.1 = some chain) := by
    funext x
    cases Numeral.natural? x.1 <;> simp
  show Option.map _ (Option.bind (List.find? (fun x : String × String =>
      ((Numeral.natural? x.1).map (·, x.2)).any fun e => e.1 = chain) _) _) = _
  rw [hp]
  cases hfind : contracts.reverse.find? fun x => Numeral.natural? x.1 = some chain with
  | none => rfl
  | some x =>
    have hx : Numeral.natural? x.1 = some chain := by simpa using List.find?_some hfind
    simp [hx]

/-- The contract that comes last has its chain, whatever the others say. -/
theorem get?_addresses_endingIn {contracts : List (String × String)} {x : String × String}
    {chain : ChainId} (hmem : x ∈ contracts) (hx : Numeral.natural? x.1 = some chain) :
    (addresses ((Shuffle.endingIn x).order contracts)).get? chain = some x.2 := by
  rw [get?_addresses, Shuffle.order_endingIn hmem, List.reverse_append, List.reverse_singleton,
    List.singleton_append, List.find?_cons]
  simp [hx]

namespace Entry

variable {e : Entry} {chains : List ChainId}

/-- A contract becomes a token exactly when its chain is wanted and its address reads. -/
theorem token?_eq_some_iff {decimals : UInt8} {x : ChainId × String} {t : Token} :
    e.token? chains decimals x = some t ↔
      x.1 ∈ chains ∧ ∃ a, Address.parse? x.2 = some a ∧
        t = { crossChainId := e.crossChainId, chainId := x.1, address := a, decimals,
              name := e.name, symbol := e.symbol, logoUri := e.logoUri } := by
  rw [token?]
  by_cases h : x.1 ∈ chains
  · rw [if_pos (List.contains_iff_mem.2 h)]
    cases Address.parse? x.2 <;> simp [h, eq_comm]
  · rw [if_neg (mt List.contains_iff_mem.1 h)]
    simp [h]

/-- A record has a token on every supported chain whose last contract has an address. -/
theorem mem_tokensInOrder_iff {contracts : List (String × String)} {t : Token} :
    t ∈ e.tokensInOrder chains contracts ↔
      ∃ decimals, decimals? e.decimals = some decimals ∧
        ∃ chain a, (addresses contracts).get? chain = some a ∧
          e.token? chains decimals (chain, a) = some t := by
  rw [tokensInOrder]
  cases decimals? e.decimals with
  | none => simp
  | some decimals =>
    simp only [List.mem_filterMap, Option.some.injEq, exists_eq_left', Prod.exists]
    constructor
    · rintro ⟨chain, a, hmem, ht⟩
      exact ⟨chain, a, SortedMap.get?_of_mem hmem, ht⟩
    · rintro ⟨chain, a, hget, ht⟩
      exact ⟨chain, a, SortedMap.mem_of_get? hget, ht⟩

/-- The tokens of a record ascend by chain. -/
theorem ascending_tokensInOrder (e : Entry) (chains : List ChainId)
    (contracts : List (String × String)) :
    (e.tokensInOrder chains contracts).Pairwise (·.chainId < ·.chainId) := by
  rw [tokensInOrder]
  split
  · exact .nil
  · rename_i decimals _
    refine List.pairwise_filterMap.2 ((addresses contracts).ascending.imp ?_)
    intro x y hxy s hs t ht
    obtain ⟨-, a, -, rfl⟩ := token?_eq_some_iff.1 hs
    obtain ⟨-, b, -, rfl⟩ := token?_eq_some_iff.1 ht
    exact compareOfLessAndEq_eq_lt.1 hxy

/-- Unless a record is ambiguous, another order gives it no other tokens. -/
theorem tokensInOrder_subset (h : ¬ e.Ambiguous chains) {xs ys : List (String × String)}
    (hx : xs.Perm e.contracts.entries) (hy : ys.Perm e.contracts.entries) {t : Token}
    (ht : t ∈ e.tokensInOrder chains xs) : t ∈ e.tokensInOrder chains ys := by
  obtain ⟨decimals, hdecimals, chain, a, hget, htoken⟩ := mem_tokensInOrder_iff.1 ht
  obtain ⟨hchain, address, haddress, rfl⟩ := token?_eq_some_iff.1 htoken
  rw [get?_addresses, Option.map_eq_some_iff] at hget
  obtain ⟨x, hfind, rfl⟩ := hget
  have hxmem := hx.mem_iff.1 (List.mem_reverse.1 (List.mem_of_find?_eq_some hfind))
  have hxchain : Numeral.natural? x.1 = some chain := by simpa using List.find?_some hfind
  -- Some contract on the chain comes last in the other order, too.
  obtain ⟨y, hother⟩ : ∃ y, ys.reverse.find? (fun z => Numeral.natural? z.1 = some chain) =
      some y := by
    rw [← Option.isSome_iff_exists, List.find?_isSome]
    exact ⟨x, List.mem_reverse.2 (hy.mem_iff.2 hxmem), by simpa using hxchain⟩
  have hymem := hy.mem_iff.1 (List.mem_reverse.1 (List.mem_of_find?_eq_some hother))
  have hychain : Numeral.natural? y.1 = some chain := by simpa using List.find?_some hother
  have hsame : Address.parse? x.2 = Address.parse? y.2 := by
    by_contra hne
    exact h ⟨by rw [hdecimals]; rfl,
      chain, hchain, x, hxmem, y, hymem, hxchain, hychain, hne⟩
  refine mem_tokensInOrder_iff.2 ⟨decimals, hdecimals, chain, y.2, ?_, ?_⟩
  · rw [get?_addresses, hother]
    rfl
  · exact token?_eq_some_iff.2 ⟨hchain, address, hsame.symm.trans haddress, rfl⟩

/-- Unless a record is ambiguous, it gives the same tokens in every order of its contracts. -/
theorem tokensInOrder_eq (h : ¬ e.Ambiguous chains) {xs ys : List (String × String)}
    (hx : xs.Perm e.contracts.entries) (hy : ys.Perm e.contracts.entries) :
    e.tokensInOrder chains xs = e.tokensInOrder chains ys := by
  have hirrefl : Std.Irrefl (α := Token) (·.chainId < ·.chainId) :=
    ⟨fun t => UInt64.lt_irrefl t.chainId⟩
  have hantisymm : Std.Antisymm (α := Token) (·.chainId < ·.chainId) :=
    ⟨fun s t hst hts => absurd (UInt64.lt_trans hst hts) (UInt64.lt_irrefl _)⟩
  refine List.Pairwise.eq_of_mem_iff (ascending_tokensInOrder e chains xs)
    (ascending_tokensInOrder e chains ys) fun t => ?_
  exact ⟨tokensInOrder_subset h hx hy, tokensInOrder_subset h hy hx⟩

/-- If the order ends in a contract with an address, that is the address on its chain. -/
theorem not_subset_endingIn (hdecimals : (decimals? e.decimals).isSome) {chain : ChainId}
    (hchain : chain ∈ chains) {x y : String × String} (hx : x ∈ e.contracts.entries)
    (hy : y ∈ e.contracts.entries) (hxchain : Numeral.natural? x.1 = some chain)
    (hychain : Numeral.natural? y.1 = some chain) {a : Address}
    (ha : Address.parse? x.2 = some a) (hne : Address.parse? y.2 ≠ some a) :
    e.tokensInOrder chains ((Shuffle.endingIn x).order e.contracts.entries) ≠
      e.tokensInOrder chains ((Shuffle.endingIn y).order e.contracts.entries) := by
  intro heq
  obtain ⟨decimals, hd⟩ := Option.isSome_iff_exists.1 hdecimals
  have hmem := mem_tokensInOrder_iff.2 ⟨decimals, hd, chain, x.2,
    get?_addresses_endingIn hx hxchain, token?_eq_some_iff.2 ⟨hchain, a, ha, rfl⟩⟩
  rw [heq] at hmem
  obtain ⟨_, -, chain', b, hget, htoken⟩ := mem_tokensInOrder_iff.1 hmem
  obtain ⟨-, address, haddress, ht⟩ := token?_eq_some_iff.1 htoken
  -- The token names its chain, and the last contract there is the other one.
  obtain ⟨rfl, rfl⟩ : chain = chain' ∧ a = address := by
    cases ht
    exact ⟨rfl, rfl⟩
  rw [get?_addresses_endingIn hy hychain] at hget
  cases hget
  exact hne haddress

/-- The tokens of a record depend on the order of its contracts exactly if it is ambiguous. -/
theorem tokensInOrder_eq_iff (e : Entry) (chains : List ChainId) :
    (∀ o o' : Shuffle (String × String), e.tokensInOrder chains (o.order e.contracts.entries) =
      e.tokensInOrder chains (o'.order e.contracts.entries)) ↔ ¬ e.Ambiguous chains := by
  constructor
  -- Of two contracts with different addresses one at least has an address that parses.
  · rintro hall ⟨hdecimals, chain, hchain, x, hx, y, hy, hxchain, hychain, hne⟩
    cases hxa : Address.parse? x.2 with
    | some a =>
      rw [hxa] at hne
      exact not_subset_endingIn hdecimals hchain hx hy hxchain hychain hxa hne.symm (hall _ _)
    | none =>
      cases hya : Address.parse? y.2 with
      | some b =>
        refine not_subset_endingIn hdecimals hchain hy hx hychain hxchain hya ?_ (hall _ _)
        rw [hxa]
        exact (Option.some_ne_none b).symm
      | none => exact hne (hxa.trans hya.symm)
  · intro h o o'
    exact tokensInOrder_eq h (o.perm _) (o'.perm _)

end Entry

/-! ### Documents -/

/-- A document has a record that is ambiguous. -/
def Ambiguous (raw : Bytes) (chains : List ChainId) : Prop :=
  ∃ e, Envelope.decode Entry.record.read raw = .ok e ∧ ∃ r ∈ e.records, r.Ambiguous chains

/-- Where two sequences are put together from the same parts but one, that part makes the
    difference. -/
theorem flatMap_zipIdx_eq_iff {α β : Type} {xs : List α} {i : Nat} (hi : i < xs.length)
    {f g : α × Nat → List β} (h : ∀ p ∈ xs.zipIdx, p.2 ≠ i → f p = g p) :
    xs.zipIdx.flatMap f = xs.zipIdx.flatMap g ↔ f (xs[i], i) = g (xs[i], i) := by
  have hsplit : xs.zipIdx =
      (xs.take i).zipIdx ++ (xs[i], i) :: (xs.drop (i + 1)).zipIdx (i + 1) := by
    have hlength : (xs.take i).length = i := List.length_take_of_le (Nat.le_of_lt hi)
    conv_lhs => rw [← List.take_append_drop i xs, List.drop_eq_getElem_cons hi]
    rw [List.zipIdx_append, List.zipIdx_cons, hlength, Nat.zero_add]
  have hbefore : ((xs.take i).zipIdx).flatMap f = ((xs.take i).zipIdx).flatMap g := by
    refine List.flatMap_congr fun p hp => h p ?_ ?_
    · rw [hsplit]
      exact List.mem_append_left _ hp
    · have := List.snd_lt_of_mem_zipIdx hp
      rw [List.length_take] at this
      omega
  have hbehind : ((xs.drop (i + 1)).zipIdx (i + 1)).flatMap f =
      ((xs.drop (i + 1)).zipIdx (i + 1)).flatMap g := by
    refine List.flatMap_congr fun p hp => h p ?_ ?_
    · rw [hsplit]
      exact List.mem_append_right _ (List.mem_cons_of_mem _ hp)
    · have := List.le_snd_of_mem_zipIdx hp
      omega
  rw [hsplit, List.flatMap_append, List.flatMap_append, List.flatMap_cons, List.flatMap_cons,
    hbefore, hbehind, List.append_cancel_left_eq, List.append_cancel_right_eq]

/-- The orders for the records of a document that stand but for the record at one place. -/
def ordersAt (i : Nat) (o : Shuffle (String × String)) (j : Nat) : Shuffle (String × String) :=
  if j = i then o else .standing

/-- What is read from a document depends on the order of contracts exactly if it has a record that is
    ambiguous. -/
theorem parseInOrder_eq_iff (raw : Bytes) (origin : Origin) (chains : List ChainId) :
    (∀ o o', parseInOrder o raw origin chains = parseInOrder o' raw origin chains) ↔
      ¬ Ambiguous raw chains := by
  constructor
  · rintro hall ⟨e, he, r, hr, hambiguous⟩
    -- Turning the order of that one record shows in the whole document.
    refine (Entry.tokensInOrder_eq_iff r chains).1 (fun o o' => ?_) hambiguous
    obtain ⟨i, hi, rfl⟩ := List.getElem_of_mem hr
    have hsame := hall (ordersAt i o) (ordersAt i o')
    rw [parseInOrder, parseInOrder, he] at hsame
    have htokens := congrArg TokenList.tokens (Except.ok.inj hsame)
    have hplace := (flatMap_zipIdx_eq_iff hi fun p _ hp => ?_).1 htokens
    · simpa [ordersAt] using hplace
    · simp [ordersAt, hp]
  · intro h o o'
    unfold parseInOrder
    cases he : Envelope.decode Entry.record.read raw with
    | error fault => rfl
    | ok e =>
      have htokens : ∀ p ∈ e.records.zipIdx,
          p.1.tokensInOrder chains ((o p.2).order p.1.contracts.entries) =
          p.1.tokensInOrder chains ((o' p.2).order p.1.contracts.entries) := by
        intro p hp
        have hr : ¬ p.1.Ambiguous chains := fun hr =>
          h ⟨e, he, p.1, List.fst_mem_of_mem_zipIdx hp, hr⟩
        exact (Entry.tokensInOrder_eq_iff p.1 chains).2 hr _ _
      show Except.ok _ = Except.ok _
      rw [List.flatMap_congr htokens]

end Status

/-! ### Every format -/

/-- What is read depends on the order of hash maps exactly if it is a Status list with a record that
    is ambiguous. -/
theorem parseInOrder_eq_iff (f : ListFormat) (raw : Bytes) (origin : Origin)
    (chains : List ChainId) :
    (∀ o o', f.parseInOrder o raw origin chains = f.parseInOrder o' raw origin chains) ↔
      ¬ (f = .status ∧ Status.Ambiguous raw chains) := by
  cases f with
  | standard => simp [parseInOrder]
  | coinGecko platforms => simp [parseInOrder]
  | status =>
    rw [eq_self, true_and, ← Status.parseInOrder_eq_iff raw origin chains]
    constructor
    · intro hall o o'
      exact hall ⟨o, .standing⟩ ⟨o', .standing⟩
    · intro hall o o'
      exact hall o.contracts o'.contracts

end ListFormat

end TokenCatalog
