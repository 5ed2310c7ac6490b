namespace TokenCatalog

/-!
# Sorted maps — one value a key, keys ascending

The entries stand in a list that strictly ascends by key, so equal maps are equal lists and
iteration needs no order of its own.

* `get?`, `contains`, `keys`, `values` — looking;
* `insert`, `erase`, `ofList` — building; of several entries with one key the last one counts.

`get?_insert` and `get?_erase` say what the two writes do to every key.
-/

/-- Entries in strictly ascending order of their keys. -/
structure SortedMap (κ : Type) (α : Type) [Ord κ] where
  entries : List (κ × α)
  ascending : entries.Pairwise fun a b => compare a.1 b.1 = .lt

namespace SortedMap

variable {κ α : Type} [Ord κ]

/-- No entries. -/
def empty : SortedMap κ α := ⟨[], .nil⟩

instance : EmptyCollection (SortedMap κ α) := ⟨empty⟩

instance : Inhabited (SortedMap κ α) := ⟨empty⟩

/-- Maps with the same entries are the same: that these ascend is a proof. -/
theorem ext {m n : SortedMap κ α} (h : m.entries = n.entries) : m = n := by
  cases m; cases n; cases h; rfl

/-- The first value under a key in a list of entries. -/
def find? (k : κ) : List (κ × α) → Option α
  | [] => none
  | (l, v) :: rest => if compare k l = .eq then some v else find? k rest

/-- The value under a key. -/
def get? (m : SortedMap κ α) (k : κ) : Option α := find? k m.entries

/-- Whether a key has a value. -/
def contains (m : SortedMap κ α) (k : κ) : Bool := (m.get? k).isSome

/-- The keys, ascending. -/
def keys (m : SortedMap κ α) : List κ := m.entries.map (·.1)

/-- The values, in the order of their keys. -/
def values (m : SortedMap κ α) : List α := m.entries.map (·.2)

/-- How many entries there are. -/
def size (m : SortedMap κ α) : Nat := m.entries.length

/-- Put an entry where its key belongs, in place of one with that key. -/
def insertEntry (k : κ) (v : α) : List (κ × α) → List (κ × α)
  | [] => [(k, v)]
  | (l, w) :: rest =>
    match compare k l with
    | .lt => (k, v) :: (l, w) :: rest
    | .eq => (k, v) :: rest
    | .gt => (l, w) :: insertEntry k v rest

/-- Take out the entry of a key. -/
def eraseEntry (k : κ) (es : List (κ × α)) : List (κ × α) :=
  es.filter fun e => compare k e.1 != .eq

section Lawful

variable [Std.TransOrd κ] [Std.LawfulEqOrd κ]

omit [Std.TransOrd κ] [Std.LawfulEqOrd κ] in
/-- Inserting brings no other entry than the new one. -/
theorem mem_insertEntry {k : κ} {v : α} {es : List (κ × α)} {e : κ × α}
    (h : e ∈ insertEntry k v es) : e = (k, v) ∨ e ∈ es := by
  fun_induction insertEntry k v es with
  | case1 => exact .inl (List.mem_singleton.1 h)
  | case2 => simpa using h
  | case3 l w rest hc =>
    rcases List.mem_cons.1 h with h | h
    · exact .inl h
    · exact .inr (List.mem_cons_of_mem _ h)
  | case4 l w rest hc ih =>
    rcases List.mem_cons.1 h with h | h
    · exact .inr (h ▸ List.mem_cons_self)
    · exact (ih h).imp_right (List.mem_cons_of_mem _)

/-- An entry is inserted where its key belongs. -/
theorem ascending_insertEntry (k : κ) (v : α) {es : List (κ × α)}
    (h : es.Pairwise fun a b => compare a.1 b.1 = .lt) :
    (insertEntry k v es).Pairwise fun a b => compare a.1 b.1 = .lt := by
  fun_induction insertEntry k v es with
  | case1 => exact List.pairwise_singleton _ _
  | case2 l w rest hc =>
    refine List.pairwise_cons.2 ⟨fun e he => ?_, h⟩
    rcases List.mem_cons.1 he with rfl | he
    · exact hc
    · exact Std.TransCmp.lt_trans hc (List.rel_of_pairwise_cons h he)
  | case3 l w rest hc =>
    have := Std.LawfulEqCmp.eq_of_compare hc
    subst this
    exact List.pairwise_cons.2 ⟨fun e he => List.rel_of_pairwise_cons h he, h.of_cons⟩
  | case4 l w rest hc ih =>
    refine List.pairwise_cons.2 ⟨fun e he => ?_, ih h.of_cons⟩
    rcases mem_insertEntry he with rfl | he
    · exact Std.OrientedCmp.gt_iff_lt.1 hc
    · exact List.rel_of_pairwise_cons h he

/-- Put a value under a key, in place of the one it had. -/
def insert (m : SortedMap κ α) (k : κ) (v : α) : SortedMap κ α :=
  ⟨insertEntry k v m.entries, ascending_insertEntry k v m.ascending⟩

/-- Take a key out. -/
def erase (m : SortedMap κ α) (k : κ) : SortedMap κ α :=
  ⟨eraseEntry k m.entries, m.ascending.filter _⟩

/-- The map of a list of entries; of several with one key the last one counts. -/
def ofList (es : List (κ × α)) : SortedMap κ α :=
  es.foldl (fun m e => m.insert e.1 e.2) ∅

omit [Std.TransOrd κ] in
/-- An inserted value is found under its key, and every other key keeps its own. -/
theorem find?_insertEntry [DecidableEq κ] (k l : κ) (v : α) {es : List (κ × α)} :
    find? l (insertEntry k v es) = if l = k then some v else find? l es := by
  fun_induction insertEntry k v es with
  | case1 =>
    by_cases h : l = k
    · simp [find?, h, Std.ReflCmp.compare_self]
    · simp [find?, h, Std.LawfulEqCmp.compare_eq_iff_eq]
  | case2 j w rest hc =>
    by_cases h : l = k
    · simp [find?, h, Std.ReflCmp.compare_self]
    · simp [find?, h, Std.LawfulEqCmp.compare_eq_iff_eq]
  | case3 j w rest hc =>
    have := Std.LawfulEqCmp.eq_of_compare hc
    subst this
    by_cases h : l = k
    · simp [find?, h, Std.ReflCmp.compare_self]
    · simp [find?, h, Std.LawfulEqCmp.compare_eq_iff_eq]
  | case4 j w rest hc ih =>
    by_cases h : l = k
    · subst h
      simp [find?, hc, ih]
    · simp [find?, h, ih]

/-- A write is seen under its key and nowhere else. -/
theorem get?_insert [DecidableEq κ] (m : SortedMap κ α) (k l : κ) (v : α) :
    (m.insert k v).get? l = if l = k then some v else m.get? l :=
  find?_insertEntry k l v

omit [Std.TransOrd κ] in
/-- An erased key has no value, and every other key keeps its own. -/
theorem get?_erase [DecidableEq κ] (m : SortedMap κ α) (k l : κ) :
    (m.erase k).get? l = if l = k then none else m.get? l := by
  unfold get? erase eraseEntry
  dsimp only
  induction m.entries with
  | nil => simp [find?]
  | cons e rest ih =>
    obtain ⟨j, w⟩ := e
    by_cases hk : k = j
    · subst hk
      by_cases h : l = k
      · subst h
        simpa [find?, Std.ReflCmp.compare_self] using ih
      · simp [find?, ih, h, Std.ReflCmp.compare_self, Std.LawfulEqCmp.compare_eq_iff_eq]
    · have hne : compare k j ≠ .eq := fun hc => hk (Std.LawfulEqCmp.eq_of_compare hc)
      by_cases h : l = k
      · subst h
        simp_all [find?]
      · by_cases hj : compare l j = .eq <;> simp [find?, ih, h, hne, hj]

end Lawful

@[simp] theorem get?_empty (k : κ) : (∅ : SortedMap κ α).get? k = none := rfl

end SortedMap

end TokenCatalog
