import TokenCatalog.Json.Basic

namespace TokenCatalog.Json

/-!
# Canonical values — what documents denote

A document may repeat a key and name its keys in any order; the value that it denotes does neither.

* `IsCanonical` — in every object the fields ascend by key;
* `isCanonical_canonical`, `canonical_eq_self` — documents denote such values, and such a value
  denotes itself;
* `lookup_canonicalFields` — the last of several equal keys counts;
* `same_iff` — values are the same if they are equal up to the sign of zeros.
-/

/-- The fields of every object in a value ascend by key, so no key is there twice. -/
inductive IsCanonical : Json → Prop
  | null : IsCanonical .null
  | bool (b : Bool) : IsCanonical (.bool b)
  | number (n : Number) : IsCanonical (.number n)
  | string (s : String) : IsCanonical (.string s)
  | array {items : List Json} (elements : ∀ j ∈ items, IsCanonical j) : IsCanonical (.array items)
  | object {fields : List (String × Json)} (ascending : fields.Pairwise fun e f => e.1 < f.1)
      (values : ∀ e ∈ fields, IsCanonical e.2) : IsCanonical (.object fields)

variable {key : String} {v : Json} {fields done : List (String × Json)}

/-- The values of an object in order are in order, too. -/
theorem isCanonical_object_iff :
    (object fields).IsCanonical ↔
      (fields.Pairwise fun e f => e.1 < f.1) ∧ ∀ e ∈ fields, e.2.IsCanonical := by
  constructor
  · intro h
    cases h with
    | object hasc hvalues => exact ⟨hasc, hvalues⟩
  · rintro ⟨hasc, hvalues⟩
    exact .object hasc hvalues

/-! ### Looking up -/

/-- Of several fields of one key the last one counts. -/
theorem lookup_cons (e : String × Json) (fields : List (String × Json)) (key : String) :
    lookup (e :: fields) key = (lookup fields key).or (if e.1 = key then some e.2 else none) := by
  obtain ⟨k, w⟩ := e
  simp only [lookup]
  cases lookup fields key <;> rfl

/-- What stands behind is looked at first. -/
theorem lookup_append (fields more : List (String × Json)) (key : String) :
    lookup (fields ++ more) key = (lookup more key).or (lookup fields key) := by
  induction fields with
  | nil => simp [lookup]
  | cons e fields ih => rw [List.cons_append, lookup_cons, lookup_cons, ih, Option.or_assoc]

/-- A value that is found is one of the fields'. -/
theorem mem_of_lookup (h : lookup fields key = some v) : (key, v) ∈ fields := by
  induction fields with
  | nil => cases h
  | cons e fields ih =>
    rw [lookup_cons] at h
    -- The last field of a name counts, so those behind are looked at first.
    cases hrest : lookup fields key with
    | some w =>
      rw [hrest] at h
      cases h
      exact List.mem_cons_of_mem _ (ih hrest)
    | none =>
      rw [hrest, Option.none_or] at h
      split at h
      · rename_i hkey
        cases h
        rw [← hkey]
        exact List.mem_cons_self
      · cases h

/-- The fields of a canonical value are canonical. -/
theorem isCanonical_of_lookup (hfields : (object fields).IsCanonical)
    (h : lookup fields key = some v) : v.IsCanonical :=
  (isCanonical_object_iff.1 hfields).2 _ (mem_of_lookup h)

/-- Nothing is found under a key that no field has. -/
theorem lookup_eq_none_iff : lookup fields key = none ↔ ∀ e ∈ fields, e.1 ≠ key := by
  induction fields with
  | nil => simp [lookup]
  | cons e fields ih => rw [lookup_cons]; simp [ih, and_comm]

/-- Where keys ascend, a field is found under its key: no other one has it. -/
theorem lookup_of_mem (hasc : fields.Pairwise fun e f => e.1 < f.1) (h : (key, v) ∈ fields) :
    lookup fields key = some v := by
  induction fields with
  | nil => cases h
  | cons e fields ih =>
    rw [lookup_cons]
    rcases List.mem_cons.1 h with rfl | h
    · have hnone : lookup fields key = none := lookup_eq_none_iff.2 fun f hf hkey =>
        String.lt_irrefl key (hkey ▸ List.rel_of_pairwise_cons hasc hf)
      rw [hnone, if_pos rfl]
      rfl
    · rw [ih hasc.of_cons h]
      rfl

/-! ### Putting a field where it belongs -/

/-- Inserting brings no other field than the new one. -/
theorem mem_insertField {e : String × Json} (h : e ∈ insertField key v fields) :
    e = (key, v) ∨ e ∈ fields := by
  fun_induction insertField key v fields with
  | case1 => exact .inl (List.mem_singleton.1 h)
  | case2 => simpa using h
  | case3 =>
    rcases List.mem_cons.1 h with h | h
    · exact .inl h
    · exact .inr (List.mem_cons_of_mem _ h)
  | case4 k w rest _ _ ih =>
    rcases List.mem_cons.1 h with h | h
    · exact .inr (h ▸ List.mem_cons_self)
    · exact (ih h).imp_right (List.mem_cons_of_mem _)

/-- A field is inserted where its key belongs. -/
theorem ascending_insertField (h : fields.Pairwise fun e f => e.1 < f.1) :
    (insertField key v fields).Pairwise fun e f => e.1 < f.1 := by
  fun_induction insertField key v fields with
  | case1 => exact List.pairwise_singleton _ _
  | case2 k w rest hlt =>
    refine List.pairwise_cons.2 ⟨fun e he => ?_, h⟩
    rcases List.mem_cons.1 he with rfl | he
    · exact hlt
    · exact String.lt_trans hlt (List.rel_of_pairwise_cons h he)
  | case3 => exact List.pairwise_cons.2 ⟨fun e he => List.rel_of_pairwise_cons h he, h.of_cons⟩
  | case4 k w rest hlt hne ih =>
    refine List.pairwise_cons.2 ⟨fun e he => ?_, ih h.of_cons⟩
    rcases mem_insertField he with rfl | he
    · exact Decidable.not_not.1 fun hgt => hne (String.le_antisymm hgt hlt)
    · exact List.rel_of_pairwise_cons h he

/-- A field that is put where it belongs is found under its key, and every other one under its
    own. -/
theorem lookup_insertField (h : fields.Pairwise fun e f => e.1 < f.1) (k : String) :
    lookup (insertField key v fields) k = if key = k then some v else lookup fields k := by
  fun_induction insertField key v fields with
  | case1 => simp [lookup]
  | case2 l w rest hlt =>
    rw [lookup_cons]
    by_cases hk : key = k
    · -- All the fields behind have greater keys.
      subst hk
      have hnone : lookup ((l, w) :: rest) key = none := by
        refine lookup_eq_none_iff.2 fun e he hkey => ?_
        rcases List.mem_cons.1 he with rfl | he
        · exact String.lt_irrefl key (hkey ▸ hlt)
        · have hgt : l < e.1 := List.rel_of_pairwise_cons h he
          rw [hkey] at hgt
          exact String.lt_irrefl key (String.lt_trans hlt hgt)
      rw [hnone]
      rfl
    · simp [hk]
  | case3 w rest =>
    rw [lookup_cons, lookup_cons]
    by_cases hk : key = k
    · subst hk
      have hnone : lookup rest key = none := lookup_eq_none_iff.2 fun e he hkey =>
        String.lt_irrefl key (hkey ▸ List.rel_of_pairwise_cons h he)
      simp [hnone]
    · simp [hk]
  | case4 l w rest _ hne ih =>
    rw [lookup_cons, ih h.of_cons, lookup_cons]
    by_cases hk : key = k
    · simp [hk]
    · simp [hk]

/-! ### Canonical values -/

/-- Putting one field after the other in order leaves all of them in order. -/
theorem ascending_canonicalFields (hdone : done.Pairwise fun e f => e.1 < f.1) :
    (canonicalFields fields done).Pairwise fun e f => e.1 < f.1 := by
  induction fields generalizing done with
  | nil => exact hdone
  | cons e fields ih => exact ih (ascending_insertField hdone)

/-- Of the fields with one key the last one counts, and one that was there before if there is
    none. -/
theorem lookup_canonicalFields_append (fields : List (String × Json))
    (hdone : done.Pairwise fun e f => e.1 < f.1) (k : String) :
    lookup (canonicalFields fields done) k =
      ((lookup fields k).map canonical).or (lookup done k) := by
  induction fields generalizing done with
  | nil => simp [canonicalFields, lookup]
  | cons e fields ih =>
    obtain ⟨l, w⟩ := e
    rw [canonicalFields, ih (ascending_insertField hdone), lookup_insertField hdone, lookup_cons]
    by_cases hk : l = k
    · cases lookup fields k <;> simp [hk]
    · cases lookup fields k <;> simp [hk]

/-- Under a key stands the value that did, put in order. -/
theorem lookup_canonicalFields (fields : List (String × Json)) (k : String) :
    lookup (canonicalFields fields []) k = (lookup fields k).map canonical := by
  simpa [lookup] using lookup_canonicalFields_append fields .nil k

/-- Every field was there before or is one that was put in order. -/
theorem mem_canonicalFields {e : String × Json} (h : e ∈ canonicalFields fields done) :
    e ∈ done ∨ ∃ f ∈ fields, e.2 = f.2.canonical := by
  induction fields generalizing done with
  | nil => exact .inl h
  | cons f fields ih =>
    rcases ih h with h | ⟨g, hg, he⟩
    · rcases mem_insertField h with rfl | h
      · exact .inr ⟨f, List.mem_cons_self, rfl⟩
      · exact .inl h
    · exact .inr ⟨g, List.mem_cons_of_mem _ hg, he⟩

theorem canonicalItems_eq_map (items : List Json) : canonicalItems items = items.map canonical := by
  induction items with
  | nil => rfl
  | cons j items ih => rw [canonicalItems, ih, List.map_cons]

@[simp] theorem canonical_array (items : List Json) :
    (array items).canonical = .array (items.map canonical) := by
  rw [canonical, canonicalItems_eq_map]

/-- **A document denotes a canonical value.** -/
theorem isCanonical_canonical (j : Json) : j.canonical.IsCanonical := by
  cases j with
  | null => exact .null
  | bool b => exact .bool b
  | number n => exact .number n
  | string s => exact .string s
  | array items =>
    rw [canonical_array]
    refine .array fun j hj => ?_
    obtain ⟨i, hi, rfl⟩ := List.mem_map.1 hj
    have := List.sizeOf_lt_of_mem hi
    exact isCanonical_canonical i
  | object fields =>
    -- Ordering the fields does not make their values any larger.
    refine .object (ascending_canonicalFields .nil) fun e he => ?_
    rcases mem_canonicalFields he with he | ⟨f, hf, heq⟩
    · cases he
    · have := List.sizeOf_lt_of_mem hf
      rw [heq]
      exact isCanonical_canonical f.2
termination_by sizeOf j
decreasing_by
  · simp only [array.sizeOf_spec]
    omega
  · obtain ⟨k, w⟩ := f
    simp only [object.sizeOf_spec, Prod.mk.sizeOf_spec] at *
    omega

/-- A field whose key is greater than all others belongs behind them. -/
theorem insertField_of_forall_lt (h : ∀ e ∈ fields, e.1 < key) :
    insertField key v fields = fields ++ [(key, v)] := by
  induction fields with
  | nil => rfl
  | cons e fields ih =>
    obtain ⟨k, w⟩ := e
    obtain ⟨hk, hrest⟩ := List.forall_mem_cons.1 h
    have hne : key ≠ k := fun heq => String.lt_irrefl k (heq ▸ hk)
    rw [insertField, if_neg (String.lt_asymm hk), if_neg hne, ih hrest, List.cons_append]

/-- Fields that ascend already are left as they stand. -/
theorem canonicalFields_of_ascending (hasc : (done ++ fields).Pairwise fun e f => e.1 < f.1)
    (hvalues : ∀ e ∈ fields, e.2.canonical = e.2) : canonicalFields fields done = done ++ fields := by
  induction fields generalizing done with
  | nil => rw [canonicalFields, List.append_nil]
  | cons e fields ih =>
    obtain ⟨k, w⟩ := e
    obtain ⟨hw, hrest⟩ := List.forall_mem_cons.1 hvalues
    -- The next field belongs behind those that are done.
    have hlast : ∀ f ∈ done, f.1 < k := fun f hf =>
      (List.pairwise_append.1 hasc).2.2 f hf _ List.mem_cons_self
    rw [canonicalFields, show w.canonical = w from hw, insertField_of_forall_lt hlast, ih ?_ hrest,
      List.append_assoc]
    · rfl
    · rwa [List.append_assoc]

/-- A canonical value denotes itself. -/
theorem canonical_eq_self {j : Json} (h : j.IsCanonical) : j.canonical = j := by
  induction h with
  | null | bool | number | string => rfl
  | array _ ih =>
    rw [canonical_array, List.map_congr_left ih, List.map_id']
  | @object fields hasc _ ih =>
    rw [canonical]
    congr 1
    exact canonicalFields_of_ascending (by simpa using hasc) ih

/-! ### Equality -/

mutual

/-- A value whose zeros have no sign. -/
def withoutZeroSigns : Json → Json
  | .number (.float x) => .number (.float x.withoutZeroSign)
  | .array items => .array (itemsWithoutZeroSigns items)
  | .object fields => .object (fieldsWithoutZeroSigns fields)
  | other => other

/-- Elements whose zeros have no sign. -/
def itemsWithoutZeroSigns : List Json → List Json
  | [] => []
  | j :: rest => withoutZeroSigns j :: itemsWithoutZeroSigns rest

/-- Fields whose zeros have no sign. -/
def fieldsWithoutZeroSigns : List (String × Json) → List (String × Json)
  | [] => []
  | (k, v) :: rest => (k, withoutZeroSigns v) :: fieldsWithoutZeroSigns rest

end

/-- Numbers count as the same if they differ in the sign of a zero, at most. -/
theorem Number.same_iff {m n : Number} :
    m.same n = true ↔ (number m).withoutZeroSigns = (number n).withoutZeroSigns := by
  cases m <;> cases n <;> simp [Number.same, withoutZeroSigns]

mutual

/-- **Values are the same if they are equal**, zeros with either sign being one. -/
theorem same_iff (x y : Json) : x.same y = true ↔ x.withoutZeroSigns = y.withoutZeroSigns := by
  -- Numbers are compared as numbers, and nothing else is like a number.
  cases x with
  | number m =>
    cases y with
    | number n => exact Number.same_iff
    | null | bool | string | array | object => cases m <;> simp [same, withoutZeroSigns]
  | array xs =>
    cases y with
    | array ys => simp only [same, withoutZeroSigns, array.injEq, sameItems_iff xs ys]
    | number n => cases n <;> simp [same, withoutZeroSigns]
    | null | bool | string | object => simp [same, withoutZeroSigns]
  | object xs =>
    cases y with
    | object ys => simp only [same, withoutZeroSigns, object.injEq, sameFields_iff xs ys]
    | number n => cases n <;> simp [same, withoutZeroSigns]
    | null | bool | string | array => simp [same, withoutZeroSigns]
  | null | bool | string =>
    cases y with
    | number n => cases n <;> simp [same, withoutZeroSigns]
    | null | bool | string | array | object => simp [same, withoutZeroSigns]

/-- So do sequences, item by item. -/
theorem sameItems_iff (xs ys : List Json) :
    sameItems xs ys = true ↔ itemsWithoutZeroSigns xs = itemsWithoutZeroSigns ys := by
  cases xs with
  | nil => cases ys <;> simp [sameItems, itemsWithoutZeroSigns]
  | cons x xs =>
    cases ys with
    | nil => simp [sameItems, itemsWithoutZeroSigns]
    | cons y ys =>
      simp only [sameItems, itemsWithoutZeroSigns, Bool.and_eq_true, List.cons.injEq,
        same_iff x y, sameItems_iff xs ys]

/-- And objects, field by field. -/
theorem sameFields_iff (xs ys : List (String × Json)) :
    sameFields xs ys = true ↔ fieldsWithoutZeroSigns xs = fieldsWithoutZeroSigns ys := by
  match xs, ys with
  | [], [] => simp [sameFields, fieldsWithoutZeroSigns]
  | [], (l, y) :: ys => simp [sameFields, fieldsWithoutZeroSigns]
  | (k, x) :: xs, [] => simp [sameFields, fieldsWithoutZeroSigns]
  | (k, x) :: xs, (l, y) :: ys =>
    simp only [sameFields, fieldsWithoutZeroSigns, Bool.and_eq_true, List.cons.injEq,
      Prod.mk.injEq, beq_iff_eq, same_iff x y, sameFields_iff xs ys]

end

end TokenCatalog.Json
