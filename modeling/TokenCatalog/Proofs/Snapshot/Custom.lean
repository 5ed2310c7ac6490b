import TokenCatalog.Proofs.CustomTokens
import TokenCatalog.Proofs.Snapshot.Precedence

namespace TokenCatalog

open ContentStore (nativeId customId)

/-!
# The user's tokens — what a snapshot makes of a collection that was edited

* `Config.forall₂_customTokens` — the records that are acceptable become the tokens of their tier, in
  order;
* `Snapshot.tokens_list?_customId` — under the id of the user's tokens stand these tokens, if no
  list that is shipped takes that id;
* `Snapshot.buildInOrder_without` — a record that is not acceptable makes no difference;
* `custom_tokens_are_exact` — **main result**: the snapshot after any sequence of edits.
-/

/-- The stores after a sequence of edits of the user's tokens. -/
def Sources.edited (contents : Option (List (String × Content))) (edits : List CustomTokens.Edit) :
    Sources where
  contents := contents
  custom := some (CustomTokens.after edits).all

namespace Config

variable {c : Config}

theorem customTokens_append (c : Config) (rs qs : List CustomToken) :
    c.customTokens (rs ++ qs) = c.customTokens rs ++ c.customTokens qs :=
  List.filterMap_append

/-- An acceptable record brings the token that it becomes. -/
theorem exists_customTokens_cons {r : CustomToken} (hr : r.Acceptable c.chains)
    (rs : List CustomToken) :
    ∃ t, r.Becomes t ∧ c.customTokens (r :: rs) = t :: c.customTokens rs := by
  have hchecked := CustomToken.isCheckedBy_validate r c.chains
  obtain ⟨t, ht⟩ := hchecked.exists_ok_iff.2 fun q hq => CustomToken.passes_iff.2 (hr q hq)
  refine ⟨t, (CustomToken.validate_eq_ok_iff_becomes.1 ht).2, ?_⟩
  exact List.filterMap_cons_some (toOption_eq_some_iff.2 ht)

/-- Any other record brings none. -/
theorem customTokens_cons_of_not {r : CustomToken} (hr : ¬ r.Acceptable c.chains)
    (rs : List CustomToken) : c.customTokens (r :: rs) = c.customTokens rs := by
  apply List.filterMap_cons_none
  rw [Option.eq_none_iff_forall_ne_some]
  intro t ht
  exact hr (CustomToken.validate_eq_ok_iff_becomes.1 (toOption_eq_some_iff.1 ht)).1

/-- Of a sequence of records, those that are acceptable become tokens. -/
theorem forall₂_customTokens (c : Config) (rs : List CustomToken) :
    List.Forall₂ CustomToken.Becomes (rs.filter (·.Acceptable c.chains)) (c.customTokens rs) := by
  induction rs with
  | nil => exact .nil
  | cons r rs ih =>
    by_cases hr : r.Acceptable c.chains
    · obtain ⟨t, hbecomes, htokens⟩ := exists_customTokens_cons hr rs
      rw [List.filter_cons_of_pos (by simpa using hr), htokens]
      exact .cons hbecomes ih
    · rw [List.filter_cons_of_neg (by simpa using hr), customTokens_cons_of_not hr]
      exact ih

theorem customTokens_eq_nil_iff {rs : List CustomToken} :
    c.customTokens rs = [] ↔ ∀ r ∈ rs, ¬ r.Acceptable c.chains := by
  rw [← List.length_eq_zero_iff, ← (c.forall₂_customTokens rs).length_eq, List.length_eq_zero_iff,
    List.filter_eq_nil_iff]
  simp only [decide_eq_true_eq]

/-- The id of the user's tokens is read for a list that is shipped under it only. -/
theorem customId_notMem_readIds (hfree : c.shipped? customId = none) (cache : ContentStore) :
    customId ∉ c.readIds cache := by
  unfold shipped? at hfree
  split at hfree
  · cases hfree
  rename_i hmain
  have hinitial : customId ∉ c.initialLists.keys := by
    rw [← SortedMap.contains_iff_mem_keys, SortedMap.contains, hfree]
    simp
  have hremote : c.isRemote customId = false := by
    simp [isRemote]
  simp [readIds, hmain, hinitial, hremote]

end Config

namespace Snapshot

variable {c : Config}

/-- Under the id of the user's tokens stand those that are acceptable, if there are any. -/
theorem tokens_list?_customId (hfree : c.shipped? customId = none) (o : Orders) (s : Sources) :
    ((buildInOrder c o s).list? customId).map (·.tokens) =
      if c.customTokens (s.custom.getD []) = [] then none
      else some (c.customTokens (s.custom.getD [])) := by
  have hnative : c.nativeTier.reverse.find? (·.1 = customId) = none := by
    have hne : nativeId ≠ customId := by decide
    simp [Config.nativeTier, hne]
  rw [list?_buildInOrder, if_neg (Config.customId_notMem_readIds hfree s.cache), hnative,
    Config.customTier]
  cases c.customTokens (s.custom.getD []) <;> simp

/-- Of the user's records only the tokens that they become count. -/
theorem buildInOrder_congr_custom {rs qs : List CustomToken}
    (h : c.customTokens rs = c.customTokens qs) (o : Orders)
    (contents : Option (List (String × Content))) :
    buildInOrder c o ⟨contents, some rs⟩ = buildInOrder c o ⟨contents, some qs⟩ := by
  have htier : c.customTier (some rs) = c.customTier (some qs) := by
    rw [Config.customTier, Config.customTier, Option.getD_some, Option.getD_some, h]
  rw [buildInOrder, buildInOrder, Config.tiersInOrder, Config.tiersInOrder, htier]
  rfl

/-- Without a record that is not acceptable the snapshot is the same. -/
theorem buildInOrder_without {r : CustomToken} (hr : ¬ r.Acceptable c.chains)
    (front back : List CustomToken) (o : Orders) (contents : Option (List (String × Content))) :
    buildInOrder c o ⟨contents, some (front ++ r :: back)⟩ =
      buildInOrder c o ⟨contents, some (front ++ back)⟩ := by
  apply buildInOrder_congr_custom
  rw [Config.customTokens_append, Config.customTokens_append, Config.customTokens_cons_of_not hr]

end Snapshot

/-! ### The main result -/

open Snapshot

/-- **The user's tokens are exact.**  After any sequence of edits the records that were added last and
    not taken out since are left, in order of place.  If no list ships under the id of the user's
    tokens, the snapshot has under it the tokens of those that are acceptable, in the same order, and
    no list if none is.  A record that is not acceptable is refused for the first thing that it
    lacks, and the snapshot is the same without it. -/
theorem custom_tokens_are_exact (c : Config) (hfree : c.shipped? customId = none) (o : Orders)
    (contents : Option (List (String × Content))) (edits : List CustomTokens.Edit) :
    CustomTokens.Holds edits (CustomTokens.after edits).all ∧
    ((buildInOrder c o (.edited contents edits)).list? customId = none ↔
      ∀ r ∈ (CustomTokens.after edits).all, ¬ r.Acceptable c.chains) ∧
    (∀ l, (buildInOrder c o (.edited contents edits)).list? customId = some l →
      List.Forall₂ CustomToken.Becomes
        ((CustomTokens.after edits).all.filter (·.Acceptable c.chains)) l.tokens) ∧
    (∀ (r : CustomToken) (e : CustomToken.Objection), r.validate c.chains = .error e ↔
      FirstFailure (r.Lacks c.chains) CustomToken.requirements e) ∧
    ∀ front r back, (CustomTokens.after edits).all = front ++ r :: back →
      ¬ r.Acceptable c.chains →
      buildInOrder c o (.edited contents edits) =
        buildInOrder c o ⟨contents, some (front ++ back)⟩ := by
  have htokens := tokens_list?_customId hfree o (.edited contents edits)
  refine ⟨CustomTokens.holds_after edits, ?_, fun l hl => ?_, fun r e => ?_,
    fun front r back hall hr => ?_⟩
  · rw [← Config.customTokens_eq_nil_iff, ← Option.map_eq_none_iff, htokens]
    split
    · rename_i hnone
      exact iff_of_true rfl hnone
    · rename_i hsome
      exact iff_of_false (Option.some_ne_none _) hsome
  · rw [hl, Option.map_some] at htokens
    split at htokens
    · cases htokens
    · rw [Option.some.inj htokens]
      exact c.forall₂_customTokens _
  · exact (CustomToken.isCheckedBy_validate r c.chains).error_iff
  · rw [Sources.edited, hall]
    exact buildInOrder_without hr front back o contents

/-- An acceptable record. -/
def CustomToken.sample : CustomToken where
  chainId := 1
  address := "0x00000000000000000000000000000000000000a1"
  name := "New"
  symbol := "NEW"
  decimals := 18

/-- Edits that leave two records: one that takes the place of another spelling of its address, and one
    with a blank symbol. -/
def CustomTokens.sample : List CustomTokens.Edit := [
  .add { CustomToken.sample with address := "0X00000000000000000000000000000000000000A1" },
  .add CustomToken.sample,
  .add { CustomToken.sample with chainId := 56, symbol := " " }]

/-- The snapshot has a list with the first of the two. -/
theorem custom_tokens_are_exact_sample : Config.sample.shipped? customId = none ∧
    ∃ l, (buildInOrder .sample .standing (.edited none CustomTokens.sample)).list? customId =
        some l ∧
      List.Forall₂ CustomToken.Becomes
        ((CustomTokens.after CustomTokens.sample).all.filter
          (·.Acceptable Config.sample.chains)) l.tokens := by
  have hfree : Config.sample.shipped? customId = none := rfl
  obtain ⟨hholds, habsent, hlist, -⟩ :=
    custom_tokens_are_exact .sample hfree .standing none CustomTokens.sample
  have hkept : CustomTokens.Kept CustomTokens.sample CustomToken.sample := by
    refine ⟨[_], [_], rfl, fun e he hplace => ?_⟩
    obtain rfl := List.mem_singleton.1 he
    exact absurd (congrArg CustomToken.Place.chainId hplace) (by decide)
  have hacceptable : CustomToken.sample.Acceptable Config.sample.chains := by decide +kernel
  obtain ⟨l, hl⟩ := Option.ne_none_iff_exists'.1 fun hnone =>
    habsent.1 hnone _ ((hholds.mem_iff _).2 hkept) hacceptable
  exact ⟨hfree, l, hl, hlist l hl⟩

end TokenCatalog
