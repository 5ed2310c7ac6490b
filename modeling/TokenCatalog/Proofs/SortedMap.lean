import TokenCatalog.Shuffle
import Mathlib.Data.List.Sort

namespace TokenCatalog

/-!
# Sorted maps — what they hold, and in which order

* `Enumerates` — a list has exactly the members of a set, ascending; there is at most one such list
  (`Enumerates.unique`);
* `SortedMap.enumerates_keys` — the keys of a map enumerate those that have a value;
* `SortedMap.get?_ofList` — of several entries for one key the last one counts;
* `SortedMap.gather_eq` — a map is made of its own entries, in whatever order they come.
-/

/-- A list has exactly the members of a set, in strictly ascending order. -/
structure Enumerates {α : Type} [LT α] (xs : List α) (p : α → Prop) : Prop where
  ascending : xs.Pairwise (· < ·)
  mem_iff : ∀ x, x ∈ xs ↔ p x

/-- A set is enumerated in one way only. -/
theorem Enumerates.unique {α : Type} [LT α] [Std.Irrefl (α := α) (· < ·)]
    [Std.Antisymm (α := α) (· < ·)] {p : α → Prop} {xs ys : List α} (hx : Enumerates xs p)
    (hy : Enumerates ys p) : xs = ys :=
  List.Pairwise.eq_of_mem_iff hx.ascending hy.ascending fun x =>
    (hx.mem_iff x).trans (hy.mem_iff x).symm

/-- A part of an enumerated set is enumerated by leaving out the rest. -/
theorem Enumerates.filter {α : Type} [LT α] {p : α → Prop} {xs : List α} (h : Enumerates xs p)
    (q : α → Bool) : Enumerates (xs.filter q) fun x => p x ∧ q x where
  ascending := h.ascending.filter q
  mem_iff x := by rw [List.mem_filter, h.mem_iff]

namespace SortedMap

variable {κ α : Type} [Ord κ] [Std.TransOrd κ] [Std.LawfulEqOrd κ]

/-! ### Looking up -/

omit [Std.TransOrd κ] in
theorem isSome_find?_iff {k : κ} {es : List (κ × α)} :
    (find? k es).isSome ↔ k ∈ es.map (·.1) := by
  induction es with
  | nil => simp [find?]
  | cons e rest ih =>
    obtain ⟨l, v⟩ := e
    rw [find?]
    split
    · rename_i h
      simp [Std.LawfulEqCmp.eq_of_compare h]
    · rename_i h
      have hne : k ≠ l := fun he => h (he ▸ Std.ReflCmp.compare_self)
      simp [ih, hne]

omit [Std.TransOrd κ] in
/-- The keys are those that have a value. -/
theorem contains_iff_mem_keys (m : SortedMap κ α) (k : κ) : m.contains k ↔ k ∈ m.keys :=
  isSome_find?_iff

/-- An entry is found under its key: the entries ascend, so no other one has it. -/
theorem find?_of_mem {k : κ} {v : α} {es : List (κ × α)}
    (hasc : es.Pairwise fun a b => compare a.1 b.1 = .lt) (h : (k, v) ∈ es) :
    find? k es = some v := by
  induction es with
  | nil => cases h
  | cons e rest ih =>
    obtain ⟨l, w⟩ := e
    rcases List.mem_cons.1 h with he | he
    · cases he
      rw [find?, if_pos Std.ReflCmp.compare_self]
    · have hlt : compare l k = .lt := List.rel_of_pairwise_cons hasc he
      have hne : compare k l ≠ .eq := fun hc => by
        rw [Std.OrientedCmp.eq_comm.1 hc] at hlt
        cases hlt
      rw [find?, if_neg hne]
      exact ih hasc.of_cons he

theorem get?_of_mem {m : SortedMap κ α} {k : κ} {v : α} (h : (k, v) ∈ m.entries) :
    m.get? k = some v :=
  find?_of_mem m.ascending h

omit [Std.TransOrd κ] in
theorem mem_of_find? {k : κ} {v : α} {es : List (κ × α)} (h : find? k es = some v) :
    (k, v) ∈ es := by
  induction es with
  | nil => cases h
  | cons e rest ih =>
    obtain ⟨l, w⟩ := e
    rw [find?] at h
    split at h
    · rename_i hkl
      cases h
      rw [Std.LawfulEqCmp.eq_of_compare hkl]
      exact List.mem_cons_self
    · exact List.mem_cons_of_mem _ (ih h)

omit [Std.TransOrd κ] in
/-- What is found under a key is an entry. -/
theorem mem_of_get? {m : SortedMap κ α} {k : κ} {v : α} (h : m.get? k = some v) :
    (k, v) ∈ m.entries :=
  mem_of_find? h

/-! ### Building from a list -/

theorem get?_foldl_insert [DecidableEq κ] (es : List (κ × α)) (m : SortedMap κ α) (k : κ) :
    (es.foldl (fun m e => m.insert e.1 e.2) m).get? k =
      ((es.reverse.find? (·.1 = k)).map (·.2)).or (m.get? k) := by
  induction es generalizing m with
  | nil => simp
  | cons e rest ih =>
    rw [List.foldl_cons, ih, get?_insert, List.reverse_cons, List.find?_append]
    cases rest.reverse.find? (·.1 = k) with
    | some _ => simp
    | none =>
      by_cases h : k = e.1
      · simp [h]
      · simp [h, Ne.symm h]

/-- Of several entries for one key the last one counts. -/
theorem get?_ofList [DecidableEq κ] (es : List (κ × α)) (k : κ) :
    (ofList es).get? k = (es.reverse.find? (·.1 = k)).map (·.2) := by
  rw [ofList, get?_foldl_insert, get?_empty, Option.or_none]

/-- A map's own entries have the values of the map, in whatever order they come. -/
theorem get?_ofList_of_perm [DecidableEq κ] {m : SortedMap κ α} {es : List (κ × α)}
    (h : es.Perm m.entries) (k : κ) : (ofList es).get? k = m.get? k := by
  rw [get?_ofList]
  cases hfind : es.reverse.find? (·.1 = k) with
  | none =>
    cases hget : m.get? k with
    | none => rfl
    | some v =>
      have hmem := List.mem_reverse.2 (h.mem_iff.2 (mem_of_get? hget))
      simpa using List.find?_eq_none.1 hfind _ hmem
  | some e =>
    obtain ⟨l, v⟩ := e
    obtain rfl : l = k := by simpa using List.find?_some hfind
    have hmem := List.mem_reverse.1 (List.mem_of_find?_eq_some hfind)
    exact (get?_of_mem (h.mem_iff.1 hmem)).symm

/-- Maps with the same values are the same: the entries of both ascend. -/
theorem ext_get? {m n : SortedMap κ α} (h : ∀ k, m.get? k = n.get? k) : m = n := by
  have hmem : ∀ e, e ∈ m.entries ↔ e ∈ n.entries := by
    rintro ⟨k, v⟩
    constructor
    · intro he
      exact mem_of_get? ((h k).symm.trans (get?_of_mem he))
    · intro he
      exact mem_of_get? ((h k).trans (get?_of_mem he))
  -- No entry comes before itself, and no two come before each other.
  have hirrefl : Std.Irrefl (α := κ × α) fun a b => compare a.1 b.1 = .lt :=
    ⟨fun a ha => by
      rw [Std.ReflOrd.compare_self (a := a.1)] at ha
      cases ha⟩
  have hantisymm : Std.Antisymm (α := κ × α) fun a b => compare a.1 b.1 = .lt :=
    ⟨fun a b hab hba => absurd (Std.TransCmp.lt_trans hab hba) (hirrefl.irrefl a)⟩
  apply SortedMap.ext
  exact List.Pairwise.eq_of_mem_iff m.ascending n.ascending hmem

/-- A map is made of its own entries, in whatever order they come. -/
@[simp] theorem gather_eq [DecidableEq κ] (m : SortedMap κ α) (o : Shuffle (κ × α)) :
    m.gather o = m :=
  ext_get? fun k => get?_ofList_of_perm (o.perm m.entries) k

omit [Std.TransOrd κ] [Std.LawfulEqOrd κ] in
theorem keys_ascending (m : SortedMap κ α) : m.keys.Pairwise (compare · · = .lt) :=
  List.pairwise_map.2 m.ascending

/-- The keys of a map enumerate those that have a value. -/
theorem enumerates_keys (m : SortedMap String α) : Enumerates m.keys (m.contains ·) where
  ascending := m.keys_ascending.imp compareOfLessAndEq_eq_lt.1
  mem_iff k := (m.contains_iff_mem_keys k).symm

end SortedMap

end TokenCatalog
