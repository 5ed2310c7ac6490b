import TokenCatalog.Manifest

namespace TokenCatalog.Manifest

/-!
# Distinct ids — which entries of a manifest are kept

* `firsts`, `distinct_eq_firsts` — those are kept whose id no earlier one has;
* `find?_distinct` — under every id the first entry is found, as it is among all;
* `nodup_distinct` — the ids of what is kept are distinct;
* `distinct_eq_self` — where they are distinct already, all entries are kept.
-/

/-- An entry at an index has an id that no earlier one of some entries has. -/
def IsFirst (es : List Entry) (p : Entry × Nat) : Prop := ∀ f ∈ es.take p.2, f.id ≠ p.1.id

instance (es : List Entry) (p : Entry × Nat) : Decidable (IsFirst es p) :=
  inferInstanceAs (Decidable (∀ f ∈ es.take p.2, f.id ≠ p.1.id))

/-- The entries whose id no earlier one has. -/
def firsts (es : List Entry) : List Entry :=
  (es.zipIdx.filter fun p => IsFirst es p).map (·.1)

/-- Those are kept whose id was not seen, when what was seen are the ids in front. -/
theorem distinct_eq_filter {seen : List String} (before es : List Entry)
    (hseen : ∀ id, id ∈ seen ↔ ∃ f ∈ before, f.id = id) :
    distinct seen es =
      ((es.zipIdx before.length).filter fun p => IsFirst (before ++ es) p).map (·.1) := by
  -- On the entries that are left; each one goes over to those in front.
  induction es generalizing seen before with
  | nil => rfl
  | cons e es ih =>
    have hfront : IsFirst (before ++ e :: es) (e, before.length) ↔ ∀ f ∈ before, f.id ≠ e.id := by
      simp [IsFirst]
    have hsplit : before ++ e :: es = (before ++ [e]) ++ es := by simp
    have hlength : (before ++ [e]).length = before.length + 1 := by simp
    simp only [List.zipIdx_cons, List.filter_cons, hfront, distinct, decide_eq_true_eq]
    by_cases hold : e.id ∈ seen
    · have hrepeated : ¬ ∀ f ∈ before, f.id ≠ e.id := by
        obtain ⟨f, hf, hid⟩ := (hseen e.id).1 hold
        intro hnew
        exact hnew f hf hid
      rw [if_pos (List.contains_iff_mem.2 hold), if_neg hrepeated, ih (before ++ [e]) ?_, hlength,
        ← hsplit]
      intro id
      rw [hseen]
      constructor
      · rintro ⟨f, hf, hid⟩
        exact ⟨f, List.mem_append_left _ hf, hid⟩
      · rintro ⟨f, hf, hid⟩
        rcases List.mem_append.1 hf with hf | hf
        · exact ⟨f, hf, hid⟩
        · rw [List.mem_singleton.1 hf] at hid
          exact (hseen id).1 (hid ▸ hold)
    · have hnew : ∀ f ∈ before, f.id ≠ e.id := fun f hf hid => hold ((hseen e.id).2 ⟨f, hf, hid⟩)
      rw [if_neg (by simpa using hold), if_pos hnew, List.map_cons, ih (before ++ [e]) ?_, hlength,
        ← hsplit]
      intro id
      rw [List.mem_cons, hseen]
      simp [eq_comm, or_comm, or_and_right, exists_or]

/-- **Those entries are kept whose id no earlier one has.** -/
theorem distinct_eq_firsts (es : List Entry) : distinct [] es = firsts es :=
  distinct_eq_filter [] es (by simp)

/-- Under an id that was not seen, the first entry is found. -/
theorem find?_distinct {seen : List String} {id : String} (hid : id ∉ seen) (es : List Entry) :
    (distinct seen es).find? (·.id = id) = es.find? (·.id = id) := by
  induction es generalizing seen with
  | nil => rfl
  | cons e es ih =>
    rw [distinct]
    by_cases he : e.id = id
    · have hnew : ¬ seen.contains e.id := by
        rw [he]
        simpa using hid
      rw [if_neg hnew, List.find?_cons_of_pos (by simpa using he),
        List.find?_cons_of_pos (by simpa using he)]
    · rw [List.find?_cons_of_neg (by simpa using he)]
      by_cases hold : seen.contains e.id
      · rw [if_pos hold, ih hid]
      · rw [if_neg hold, List.find?_cons_of_neg (by simpa using he), ih]
        simp [hid, Ne.symm he]

theorem nodup_distinct (seen : List String) (es : List Entry) :
    ((distinct seen es).map (·.id)).Nodup ∧ ∀ id ∈ (distinct seen es).map (·.id), id ∉ seen := by
  induction es generalizing seen with
  | nil => exact ⟨List.nodup_nil, fun _ hid => absurd hid List.not_mem_nil⟩
  | cons e rest ih =>
    unfold distinct
    split
    · exact ih seen
    · rename_i hnew
      obtain ⟨hnodup, hfresh⟩ := ih (e.id :: seen)
      refine ⟨List.nodup_cons.2 ⟨fun he => hfresh _ he List.mem_cons_self, hnodup⟩, ?_⟩
      intro id hid hseen
      rcases List.mem_cons.1 hid with rfl | hid
      · exact hnew (List.contains_iff_mem.2 hseen)
      · exact hfresh id hid (List.mem_cons_of_mem _ hseen)

/-- Entries with distinct ids, none of them seen, are all kept. -/
theorem distinct_eq_self {seen : List String} {es : List Entry} (hn : (es.map (·.id)).Nodup)
    (hfresh : ∀ e ∈ es, e.id ∉ seen) : distinct seen es = es := by
  induction es generalizing seen with
  | nil => rfl
  | cons e es ih =>
    obtain ⟨hnot, hes⟩ := List.nodup_cons.1 hn
    obtain ⟨he, hrest⟩ := List.forall_mem_cons.1 hfresh
    rw [distinct, if_neg (by simpa using he), ih hes]
    intro f hf hseen
    rcases List.mem_cons.1 hseen with heq | hseen
    · exact hnot (List.mem_map.2 ⟨f, hf, heq⟩)
    · exact hrest f hf hseen

end TokenCatalog.Manifest
