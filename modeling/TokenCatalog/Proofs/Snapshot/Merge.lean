import TokenCatalog.Snapshot.Basic
import Mathlib.Data.List.Basic
import Mathlib.Data.List.Induction
import Mathlib.Tactic.Tauto

namespace TokenCatalog.Snapshot

/-!
# Merging lists — what a snapshot holds once they have been added

* `firstPerKey` — of the tokens with one key the first, said by places in the sequence;
* `firstPerKey_append`, `firstPerKey_filter` — which tokens are first in a part of a sequence;
* `tokens_merge` — merging lists keeps exactly these, in order;
* `list?_merge` — of the lists merged under one id the last one is found.
-/

/-- The tokens whose key no earlier one has. -/
def firstPerKey (ts : List Token) : List Token :=
  ts.zipIdx.filterMap fun (t, i) => if (ts.take i).any (·.key = t.key) then none else some t

/-- Add lists one after the other. -/
def merge (s : Snapshot) (ls : List (String × TokenList)) : Snapshot :=
  ls.foldl (fun s (id, l) => s.add id l) s

@[simp] theorem merge_nil (s : Snapshot) : s.merge [] = s := rfl

@[simp] theorem merge_cons (s : Snapshot) (id : String) (l : TokenList)
    (ls : List (String × TokenList)) : s.merge ((id, l) :: ls) = (s.add id l).merge ls := rfl

/-! ### The index -/

/-- Only which keys were seen counts, not in which order. -/
theorem fresh_congr {seen seen' : List String} (h : ∀ k, k ∈ seen ↔ k ∈ seen') (ts : List Token) :
    fresh seen ts = fresh seen' ts := by
  induction ts generalizing seen seen' with
  | nil => rfl
  | cons t ts ih =>
    have ht : seen.contains t.key = seen'.contains t.key := by
      rw [Bool.eq_iff_iff, List.contains_iff_mem, List.contains_iff_mem, h]
    have hcons : ∀ k, k ∈ t.key :: seen ↔ k ∈ t.key :: seen' := fun k => by
      rw [List.mem_cons, List.mem_cons, h]
    rw [fresh, fresh, ht, ih h, ih hcons]

/-- The second of two sequences adds what the first has not. -/
theorem fresh_append (seen : List String) (xs ys : List Token) :
    fresh seen (xs ++ ys) =
      fresh seen xs ++ fresh (seen ++ (fresh seen xs).map (·.1)) ys := by
  induction xs generalizing seen with
  | nil => simp [fresh]
  | cons x xs ih =>
    rw [List.cons_append, fresh, fresh]
    split
    · exact ih seen
    · -- The key of the first token has gone from the front of those seen to the back.
      rw [ih, List.cons_append]
      congr 2
      exact fresh_congr (by simp [or_left_comm]) ys

theorem index_merge (s : Snapshot) (ls : List (String × TokenList)) :
    (s.merge ls).index = s.index ++ fresh (s.index.map (·.1)) (ls.flatMap (·.2.tokens)) := by
  induction ls generalizing s with
  | nil => simp [fresh]
  | cons e ls ih =>
    obtain ⟨id, l⟩ := e
    have hadd : (s.add id l).index = s.index ++ fresh (s.index.map (·.1)) l.tokens := rfl
    rw [merge_cons, ih, hadd, List.flatMap_cons, fresh_append, List.map_append, List.append_assoc]

/-! ### First tokens -/

theorem firstPerKey_concat (ts : List Token) (t : Token) :
    firstPerKey (ts ++ [t]) =
      firstPerKey ts ++ if t.key ∈ ts.map Token.key then [] else [t] := by
  have hlast : [(t, ts.length)].filterMap (fun p : Token × Nat =>
      if ((ts ++ [t]).take p.2).any (·.key = p.1.key) then none else some p.1) =
      if t.key ∈ ts.map Token.key then [] else [t] := by
    have hany : ts.any (·.key = t.key) = decide (t.key ∈ ts.map Token.key) := by
      rw [Bool.eq_iff_iff, List.any_eq_true, decide_eq_true_eq, List.mem_map]
      simp only [decide_eq_true_eq]
    rw [List.filterMap_cons, List.take_left' rfl, hany]
    by_cases h : t.key ∈ ts.map Token.key
    · rw [if_pos (decide_eq_true h), if_pos h, List.filterMap_nil]
    · rw [if_neg (by simpa using h), if_neg h, List.filterMap_nil]
  -- Every place but the last has the same tokens before it as in the shorter sequence.
  unfold firstPerKey
  rw [List.zipIdx_append, List.filterMap_append, List.zipIdx_singleton, Nat.zero_add, hlast]
  congr 1
  refine List.filterMap_congr fun p hp => ?_
  obtain ⟨u, i⟩ := p
  have hi : i ≤ ts.length := Nat.le_of_lt (List.snd_lt_of_mem_zipIdx hp)
  simp only [List.take_append_of_le_length hi]

theorem fresh_concat (seen : List String) (ts : List Token) (t : Token) :
    fresh seen (ts ++ [t]) = fresh seen ts ++
      if t.key ∈ seen ∨ t.key ∈ ts.map Token.key then [] else [(t.key, t)] := by
  rw [fresh_append]
  congr 1
  by_cases h : t.key ∈ seen ∨ t.key ∈ ts.map Token.key
  · have hmem : t.key ∈ seen ++ (fresh seen ts).map (·.1) := by
      rw [List.mem_append, mem_keys_fresh_iff]
      tauto
    rw [if_pos h, fresh, if_pos (List.contains_iff_mem.2 hmem), fresh]
  · have hmem : t.key ∉ seen ++ (fresh seen ts).map (·.1) := by
      rw [List.mem_append, mem_keys_fresh_iff]
      tauto
    rw [if_neg h, fresh, if_neg (mt List.contains_iff_mem.1 hmem), fresh]

/-- What the index takes from a sequence are the first tokens of the keys that it has not seen. -/
theorem map_snd_fresh (seen : List String) (ts : List Token) :
    (fresh seen ts).map (·.2) = (firstPerKey ts).filter fun t => t.key ∉ seen := by
  -- From the end: whether a token is kept depends on those before it only.
  induction ts using List.reverseRec with
  | nil => rfl
  | append_singleton ts t ih =>
    rw [fresh_concat, firstPerKey_concat, List.map_append, List.filter_append, ih]
    congr 1
    by_cases hseen : t.key ∈ seen
    · by_cases h : t.key ∈ ts.map Token.key <;> simp [h, hseen]
    · by_cases h : t.key ∈ ts.map Token.key <;> simp [h, hseen]

theorem map_snd_fresh_nil (ts : List Token) : (fresh [] ts).map (·.2) = firstPerKey ts := by
  simp [map_snd_fresh]

/-- What the index takes stands under its own key. -/
theorem key_of_mem_fresh {seen : List String} {ts : List Token} {e : String × Token}
    (h : e ∈ fresh seen ts) : e.1 = e.2.key := by
  fun_induction fresh seen ts with
  | case1 => simp at h
  | case2 seen t ts hseen ih => exact ih h
  | case3 seen t ts hseen ih =>
    rcases List.mem_cons.1 h with rfl | h
    · rfl
    · exact ih h

/-- Where no key comes twice, every token is the first. -/
theorem firstPerKey_of_nodup {ts : List Token} (h : (ts.map Token.key).Nodup) :
    firstPerKey ts = ts := by
  induction ts using List.reverseRec with
  | nil => rfl
  | append_singleton ts t ih =>
    rw [List.map_append, List.map_singleton, List.nodup_append] at h
    obtain ⟨hts, -, hnew⟩ := h
    have ht : t.key ∉ ts.map Token.key := fun hmem =>
      hnew _ hmem _ (List.mem_singleton_self _) rfl
    rw [firstPerKey_concat, ih hts, if_neg ht]

/-- Behind other tokens, those with a key of theirs are left out. -/
theorem firstPerKey_append (xs ys : List Token) :
    firstPerKey (xs ++ ys) =
      firstPerKey xs ++ (firstPerKey ys).filter fun t => t.key ∉ xs.map Token.key := by
  induction ys using List.reverseRec with
  | nil => simp [firstPerKey]
  | append_singleton ys t ih =>
    rw [← List.append_assoc, firstPerKey_concat, firstPerKey_concat, ih, List.map_append,
      List.filter_append, List.append_assoc]
    congr 2
    by_cases hy : t.key ∈ ys.map Token.key
    · rw [if_pos (List.mem_append_right _ hy), if_pos hy, List.filter_nil]
    · by_cases hx : t.key ∈ xs.map Token.key
      · rw [if_pos (List.mem_append_left _ hx), if_neg hy,
          List.filter_cons_of_neg (by simpa using hx), List.filter_nil]
      · have hnot : t.key ∉ xs.map Token.key ++ ys.map Token.key := by
          rw [List.mem_append]
          exact not_or.2 ⟨hx, hy⟩
        rw [if_neg hnot, if_neg hy, List.filter_cons_of_pos (by simpa using hx), List.filter_nil]

/-- To leave out every token of some keys makes no other one the first. -/
theorem firstPerKey_filter {p : Token → Bool} (hp : ∀ s t : Token, s.key = t.key → p s = p t)
    (ts : List Token) : firstPerKey (ts.filter p) = (firstPerKey ts).filter p := by
  induction ts using List.reverseRec with
  | nil => rfl
  | append_singleton ts t ih =>
    rw [List.filter_append, firstPerKey_concat, List.filter_append, ← ih]
    -- The predicate sees keys only, and so what was there with this key was kept or left out with
    -- it.
    by_cases ht : p t
    · have hkey : t.key ∈ (ts.filter p).map Token.key ↔ t.key ∈ ts.map Token.key := by
        constructor
        · intro hmem
          exact ((List.filter_sublist).map _).subset hmem
        · intro hmem
          obtain ⟨s, hs, hst⟩ := List.mem_map.1 hmem
          exact List.mem_map.2 ⟨s, List.mem_filter.2 ⟨hs, (hp s t hst).trans ht⟩, hst⟩
      rw [List.filter_cons_of_pos ht, List.filter_nil, firstPerKey_concat]
      by_cases hmem : t.key ∈ ts.map Token.key
      · rw [if_pos hmem, if_pos (hkey.2 hmem), List.filter_nil]
      · rw [if_neg hmem, if_neg (mt hkey.1 hmem), List.filter_cons_of_pos ht, List.filter_nil]
    · rw [List.filter_cons_of_neg ht, List.filter_nil, List.append_nil]
      split <;> simp [ht]

/-- Merging keeps the first token of every key. -/
theorem tokens_merge (ls : List (String × TokenList)) :
    (merge {} ls).tokens = firstPerKey (ls.flatMap (·.2.tokens)) := by
  rw [← map_snd_fresh_nil, tokens, index_merge]
  rfl

/-- Every token stands in the index under its key. -/
theorem index_merge_eq (ls : List (String × TokenList)) :
    (merge {} ls).index = (merge {} ls).tokens.map fun t => (t.key, t) := by
  have hindex : (merge {} ls).index = fresh [] (ls.flatMap (·.2.tokens)) := index_merge {} ls
  have hself : ∀ e ∈ (merge {} ls).index, (e.2.key, e.2) = e := fun e he => by
    rw [← key_of_mem_fresh (hindex ▸ he)]
  rw [tokens, List.map_map]
  exact ((List.map_congr_left hself).trans (List.map_id' _)).symm

/-- A token is found by its chain and its address. -/
theorem token?_merge (ls : List (String × TokenList)) (chain : ChainId) (a : Address) :
    (merge {} ls).token? chain a =
      (merge {} ls).tokens.find? fun t => t.key = Key.encode chain a := by
  rw [token?, index_merge_eq, List.find?_map, Option.map_map]
  exact Option.map_id'

/-! ### Lists by id -/

theorem find?_putList (id k : String) (l : TokenList) (ls : List (String × TokenList)) :
    (putList id l ls).find? (·.1 = k) = if k = id then some (id, l) else ls.find? (·.1 = k) := by
  induction ls with
  | nil => by_cases h : k = id <;> simp [putList, h, eq_comm]
  | cons e rest ih =>
    obtain ⟨i, m⟩ := e
    rw [putList]
    split
    · rename_i hi
      subst hi
      by_cases h : k = i
      · simp [h]
      · simp [h, Ne.symm h]
    · rename_i hi
      by_cases h : k = id
      · subst h
        simp [hi, ih]
      · simp [List.find?_cons, ih, h]

/-- A list is found under its id, and every other id keeps its own. -/
theorem list?_add (s : Snapshot) (id k : String) (l : TokenList) :
    (s.add id l).list? k = if k = id then some l else s.list? k := by
  unfold list? add
  rw [find?_putList]
  by_cases h : k = id <;> simp [h]

/-- Of the lists merged under one id the last one is found. -/
theorem list?_merge (s : Snapshot) (ls : List (String × TokenList)) (k : String) :
    (s.merge ls).list? k = ((ls.reverse.find? (·.1 = k)).map (·.2)).or (s.list? k) := by
  induction ls generalizing s with
  | nil => simp
  | cons e ls ih =>
    obtain ⟨id, l⟩ := e
    rw [merge_cons, ih, list?_add, List.reverse_cons, List.find?_append]
    cases ls.reverse.find? (·.1 = k) with
    | some _ => simp
    | none =>
      by_cases h : k = id
      · simp [h]
      · simp [h, Ne.symm h]

/-- Of the lists that are given for some ids, that of an id is found under it. -/
theorem find?_given (given? : String → Option TokenList) (ids : List String) (k : String) :
    ((ids.flatMap fun id => ((given? id).map (id, ·)).toList).reverse.find? (·.1 = k)).map (·.2) =
      if k ∈ ids then given? k else none := by
  induction ids with
  | nil => rfl
  | cons id ids ih =>
    rw [List.flatMap_cons, List.reverse_append, List.find?_append, Option.map_or, ih]
    by_cases hk : k = id
    · -- Where an id comes twice, both entries are of the same list.
      subst hk
      cases hl : given? k with
      | none => simp
      | some l => by_cases hmem : k ∈ ids <;> simp [hmem]
    · have hentry : ((given? id).map (id, ·)).toList.reverse.find? (·.1 = k) = none := by
        cases hl : given? id <;> simp [Ne.symm hk]
      simp [hentry, hk]

end TokenCatalog.Snapshot
