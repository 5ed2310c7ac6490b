namespace TokenCatalog

/-!
# Checklists — the first item that fails decides

A check that stops at its first failure is described by a list of items and by what it means for an
item to fail, and with which error.

* `Passes`, `passes_iff_of_reports` — which items pass;
* `FirstFailure` — the error of the first item that fails; there is at most one (`unique`);
* `FirstFailure.append_left`, `FirstFailure.append`, `FirstFailure.of_find?` — along lists of items;
* `IsCheckedBy` — a result is that of checking a list of items: it is there exactly if all of them
  pass (`exists_ok_iff`), and else the error of the first one that does not (`error_iff`).
-/

variable {ι ε α : Type} {fails : ι → ε → Prop} {i : ι} {items others : List ι} {e e' : ε}

/-- An item passes if it does not fail with any error. -/
def Passes (fails : ι → ε → Prop) (i : ι) : Prop := ∀ e, ¬ fails i e

/-- What fails exactly if it is missed, and then with some error, passes if it is met. -/
theorem passes_iff_of_reports {meets : ι → Prop} {reports : ι → ε → Prop}
    (h : ¬ meets i → ∃ e, reports i e) :
    Passes (fun i e => ¬ meets i ∧ reports i e) i ↔ meets i := by
  constructor
  · intro hpass
    by_cases hmeets : meets i
    · exact hmeets
    · obtain ⟨e, he⟩ := h hmeets
      exact absurd ⟨hmeets, he⟩ (hpass e)
  · intro hmeets e hfails
    exact hfails.1 hmeets

/-- The first item that fails does so with this error. -/
inductive FirstFailure (fails : ι → ε → Prop) : List ι → ε → Prop
  | here {i rest e} (failure : fails i e) : FirstFailure fails (i :: rest) e
  | later {i rest e} (passes : Passes fails i) (first : FirstFailure fails rest e) :
      FirstFailure fails (i :: rest) e

namespace FirstFailure

theorem exists_mem (h : FirstFailure fails items e) : ∃ i ∈ items, fails i e := by
  induction h with
  | here failure => exact ⟨_, List.mem_cons_self, failure⟩
  | later _ _ ih =>
    obtain ⟨i, hi, hfails⟩ := ih
    exact ⟨i, List.mem_cons_of_mem _ hi, hfails⟩

/-- If an item fails with one error only, so does the whole list. -/
theorem unique (hone : ∀ i e e', fails i e → fails i e' → e = e')
    (h : FirstFailure fails items e) (h' : FirstFailure fails items e') : e = e' := by
  induction h with
  | here failure =>
    cases h' with
    | here failure' => exact hone _ _ _ failure failure'
    | later passes _ => exact absurd failure (passes _)
  | later passes _ ih =>
    cases h' with
    | here failure' => exact absurd failure' (passes _)
    | later _ first' => exact ih first'

theorem append_left (h : FirstFailure fails items e) (others : List ι) :
    FirstFailure fails (items ++ others) e := by
  induction h with
  | here failure => exact .here failure
  | later passes _ ih => exact .later passes ih

theorem append (hpass : ∀ i ∈ items, Passes fails i) (h : FirstFailure fails others e) :
    FirstFailure fails (items ++ others) e := by
  induction items with
  | nil => exact h
  | cons i items ih =>
    apply FirstFailure.later (hpass i List.mem_cons_self)
    exact ih fun j hj => hpass j (List.mem_cons_of_mem _ hj)

/-- What a search finds first is the first failure, if the search looks for failures. -/
theorem of_find? {p : α → Bool} {f : α → ι} {xs : List α} {x : α} (h : xs.find? p = some x)
    (hpass : ∀ y, p y = false → Passes fails (f y)) (hfails : p x = true → fails (f x) e) :
    FirstFailure fails (xs.map f) e := by
  induction xs with
  | nil => simp at h
  | cons y ys ih =>
    rw [List.find?_cons] at h
    cases hy : p y with
    | true =>
      simp only [hy, Option.some.injEq] at h
      subst h
      exact .here (hfails hy)
    | false =>
      simp only [hy] at h
      exact .later (hpass y hy) (ih h)

end FirstFailure

/-- A result is there if all items pass, and else it is the error of the first one that fails. -/
structure IsCheckedBy (result : Except ε α) (fails : ι → ε → Prop) (items : List ι) : Prop where
  passes : ∀ {x}, result = .ok x → ∀ i ∈ items, Passes fails i
  first : ∀ {e}, result = .error e → FirstFailure fails items e
  /-- An item fails with one error only. -/
  one : ∀ i e e', fails i e → fails i e' → e = e'

namespace IsCheckedBy

variable {result : Except ε α}

theorem exists_ok_iff (h : IsCheckedBy result fails items) :
    (∃ x, result = .ok x) ↔ ∀ i ∈ items, Passes fails i := by
  constructor
  · rintro ⟨x, hx⟩
    exact h.passes hx
  · intro hall
    cases hresult : result with
    | ok x => exact ⟨x, rfl⟩
    | error e =>
      obtain ⟨i, hi, hfails⟩ := (h.first hresult).exists_mem
      exact absurd hfails (hall i hi e)

theorem error_iff (h : IsCheckedBy result fails items) :
    result = .error e ↔ FirstFailure fails items e := by
  constructor
  · exact h.first
  · intro hfirst
    cases hresult : result with
    | ok x =>
      obtain ⟨i, hi, hfails⟩ := hfirst.exists_mem
      exact absurd hfails (h.passes hresult i hi e)
    | error e' => rw [FirstFailure.unique h.one (h.first hresult) hfirst]

end IsCheckedBy

end TokenCatalog
