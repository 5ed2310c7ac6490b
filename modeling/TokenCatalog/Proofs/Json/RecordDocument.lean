import TokenCatalog.Proofs.Json.Canonical
import TokenCatalog.Proofs.Json.Denoting
import TokenCatalog.Proofs.Json.Record

namespace TokenCatalog.Json

/-!
# Records of documents — reading a type against the value that is denoted

A reader of a type and a reader of any shape take the same bytes; here what the first finds is said
of what the second finds.

* `Outline.text?_eq_some_iff`, `Outline.uint32?_eq_some_iff`, `Outline.list?_eq_some_iff` — strings,
  numbers and sequences;
* `Unrepeated` — no field of some names is written twice;
* `Keyed`, `Slot.ofMembers?_of_lookup` — a field of a record is the last one of its name, and there
  is no other.
-/

variable {α : Type} {d : Nat} {o : Outline} {j : Json} {fields : List (String × Json)}

/-! ### Scalars and sequences -/

namespace Outline

/-- An outline is read as text exactly when the document it denotes is that string. -/
theorem text?_eq_some_iff (h : o.Denotes j) {s : String} : o.text? = some s ↔ j = .string s := by
  cases h with
  | string t => simp [text?]
  | null | bool | number | sequence | map => simp [text?]

/-- Where a string stands, an optional one is there. -/
theorem optional?_text?_eq_some_iff {s : String} (h : o.Denotes (.string s)) {u : Option String} :
    optional? text? o = some u ↔ u = some s := by
  cases h with
  | string => simp [optional?, text?, eq_comm]

/-- An outline is read as a number below a limit exactly when the document it denotes is such a
    natural. -/
theorem unsigned?_eq_some_iff {limit : Nat} (h : o.Denotes j) {k : Nat} :
    o.unsigned? limit = some k ↔ ∃ n : UInt64, j = .nat n ∧ n.toNat = k ∧ k < limit := by
  cases h with
  | number n =>
    cases n with
    -- Only naturals are read, and only those below the limit.
    | natural n =>
      simp only [unsigned?, Json.nat, Json.number.injEq, Number.natural.injEq]
      constructor
      · intro h
        split at h
        · rename_i hlt
          cases h
          exact ⟨n, rfl, rfl, hlt⟩
        · cases h
      · rintro ⟨_, rfl, rfl, hlt⟩
        exact if_pos hlt
    | negSucc | float => simp [unsigned?, Json.nat]
  | null | bool | string | sequence | map => simp [unsigned?, Json.nat]

/-- An outline is read as 32 bits exactly when the document it denotes is a natural of 32 bits. -/
theorem uint32?_eq_some_iff (h : o.Denotes j) {x : UInt32} :
    o.uint32? = some x ↔ j = .nat x.toUInt64 := by
  simp only [uint32?, Option.map_eq_some_iff, unsigned?_eq_some_iff h]
  constructor
  · rintro ⟨k, ⟨n, rfl, rfl, hlt⟩, rfl⟩
    congr 2
    apply UInt64.toNat_inj.1
    rw [UInt32.toNat_toUInt64, UInt32.toNat_ofNat_of_lt' hlt]
  · rintro rfl
    refine ⟨x.toNat, ⟨x.toUInt64, rfl, UInt32.toNat_toUInt64 x, x.toNat_lt⟩, UInt32.ofNat_toNat⟩

/-- The elements are read one by one. -/
theorem list?_eq_some_iff {f : Nat → Outline → Option α} {P : Json → α → Prop}
    {items : List Json} {as : List α} (hin : o.within d = true) (h : o.Denotes (.array items))
    (hitem : ∀ d o j, j ∈ items → o.within d = true → o.Denotes j → ∀ a, f d o = some a ↔ P j a) :
    list? f d o = some as ↔ List.Forall₂ P items as := by
  cases h with
  | @sequence os _ values =>
    cases d with
    | zero => cases hin
    | succ d =>
      rw [list?, mapM_eq_some_iff]
      have hall : ∀ o ∈ os, o.within d = true := List.all_eq_true.1 hin
      clear hin
      -- By induction on the items and their outlines together.
      induction values generalizing as with
      | nil => simp
      | @cons o j os items hdenotes _ ih =>
        obtain ⟨ho, hos⟩ := List.forall_mem_cons.1 hall
        have hlater : ∀ as, List.Forall₂ (fun o a => f d o = some a) os as ↔
            List.Forall₂ P items as := fun as =>
          ih (fun d o j hj => hitem d o j (List.mem_cons_of_mem _ hj)) hos
        cases as with
        | nil => simp
        | cons a as =>
          rw [List.forall₂_cons, List.forall₂_cons, hlater,
            hitem d o j List.mem_cons_self ho hdenotes]

end Outline

/-! ### Fields -/

/-- In an object, no field of some names is written twice. -/
def Unrepeated (names : List String) (j : Json) : Prop :=
  ∀ fields, j = .object fields → ∀ name ∈ names, (fields.map (·.1)).count name ≤ 1

/-- An object repeats none of the names exactly when each is there at most once. -/
theorem unrepeated_object_iff {names : List String} :
    (object fields).Unrepeated names ↔ ∀ name ∈ names, (fields.map (·.1)).count name ≤ 1 := by
  constructor
  · intro h
    exact h fields rfl
  · rintro h _ ⟨⟩
    exact h

/-- The members of a map are those of an object. -/
def Keyed (d : Nat) (ms : List (String × Outline)) (fields : List (String × Json)) : Prop :=
  List.Forall₂ (fun m e => m.1 = e.1 ∧ m.2.within d = true ∧ m.2.Denotes e.2) ms fields

/-- A record is read of the members of an object. -/
theorem exists_keyed (hin : o.within d = true) (h : o.Denotes (.object fields)) :
    ∃ c ms, Keyed c ms fields ∧ ∀ {αs : List Type} (slots : Slots αs),
      slots.of? d o = slots.ofMembers? c ms := by
  cases h with
  | @map ms _ members =>
    cases d with
    | zero => cases hin
    | succ d =>
      have hall : ∀ m ∈ ms, m.2.within d = true := List.all_eq_true.1 hin
      -- In an outline that denotes an object every key is text.
      have hkeyed : ∃ kms, ms.mapM Slots.keyed? = some kms ∧ Keyed d kms fields := by
        clear hin
        induction members with
        | nil => exact ⟨[], rfl, .nil⟩
        | cons hmember _ ih =>
          obtain ⟨hm, hms⟩ := List.forall_mem_cons.1 hall
          obtain ⟨kms, hmap, hkeyed⟩ := ih hms
          cases hmember with
          | intro hvalue =>
            exact ⟨_, Reader.mapM_cons_eq_some_iff.2 ⟨_, _, rfl, hmap, rfl⟩,
              .cons ⟨rfl, hm, hvalue⟩ hkeyed⟩
      obtain ⟨kms, hmap, hkeyed⟩ := hkeyed
      refine ⟨d, kms, hkeyed, fun slots => ?_⟩
      rw [Slots.of?, hmap]
      rfl

/-- Members and fields that agree key by key still agree after picking those of one name. -/
theorem Keyed.filter {ms : List (String × Outline)} (h : Keyed d ms fields) (name : String) :
    Keyed d (ms.filter (·.1 = name)) (fields.filter (·.1 = name)) := by
  induction h with
  | nil => exact .nil
  | @cons m e ms fields hme _ ih =>
    have hkey : m.1 = e.1 := hme.1
    by_cases hm : e.1 = name
    · rw [List.filter_cons_of_pos (by simpa [hkey] using hm),
        List.filter_cons_of_pos (by simpa using hm)]
      exact .cons hme ih
    · rw [List.filter_cons_of_neg (by simpa [hkey] using hm),
        List.filter_cons_of_neg (by simpa using hm)]
      exact ih

/-- Looking a name up among the fields of that name is looking it up among all. -/
theorem lookup_filter (fields : List (String × Json)) (name : String) :
    lookup (fields.filter (·.1 = name)) name = lookup fields name := by
  induction fields with
  | nil => rfl
  | cons e fields ih =>
    by_cases he : e.1 = name
    · rw [List.filter_cons_of_pos (by simpa using he), lookup_cons, lookup_cons, ih]
    · rw [List.filter_cons_of_neg (by simpa using he), lookup_cons, ih, if_neg he, Option.or_none]

/-- A name is counted by its own fields. -/
theorem count_eq_length_filter (fields : List (String × Json)) (name : String) :
    (fields.map (·.1)).count name = (fields.filter (·.1 = name)).length := by
  rw [List.count_eq_countP, List.countP_map, List.countP_eq_length_filter]
  rfl

/-- A name that is not found is not counted. -/
theorem count_of_absent {name : String} (h : lookup fields name = none) :
    (fields.map (·.1)).count name = 0 := by
  apply List.count_eq_zero.2
  intro hmem
  obtain ⟨e, he, hname⟩ := List.mem_map.1 hmem
  exact lookup_eq_none_iff.1 h e he hname

/-- **A field that is there** is read if it is there once. -/
theorem Slot.ofMembers?_of_lookup {slot : Slot α} {ms : List (String × Outline)} {v : α} {p : Prop}
    (hkeyed : Keyed d ms fields) (hlookup : lookup fields slot.name = some j)
    (hvalue : ∀ o, o.within d = true → o.Denotes j → (slot.value? d o = some v ↔ p)) :
    slot.ofMembers? d ms = some v ↔ (fields.map (·.1)).count slot.name ≤ 1 ∧ p := by
  -- Only the members of this name count, and they are those of the fields of this name.
  have hfilter := hkeyed.filter slot.name
  rw [← lookup_filter] at hlookup
  rw [count_eq_length_filter, ofMembers?]
  generalize ms.filter (·.1 = slot.name) = ms' at hfilter ⊢
  generalize fields.filter (·.1 = slot.name) = fields' at hfilter hlookup ⊢
  cases hfilter with
  | nil => cases hlookup
  | @cons m e ms' fields' hme hlater =>
    cases hlater with
    | nil =>
      rw [lookup_cons] at hlookup
      have hj : e.1 = slot.name ∧ e.2 = j := by simpa [lookup] using hlookup
      rw [← hj.2] at hvalue
      simp [hvalue m.2 hme.2.1 hme.2.2]
    | cons _ _ => simp

/-- What is made of other values is other, so it says what it is made of. -/
theorem Slots.map_of?_eq_some_iff {αs : List Type} {β : Type} {slots : Slots αs}
    {make : Values αs → β} {vs : Values αs} {b : β}
    (hmake : ∀ vs ws, make vs = make ws → vs = ws) (hb : make vs = b) :
    (slots.of? d o).map make = some b ↔ slots.of? d o = some vs := by
  rw [Option.map_eq_some_iff]
  constructor
  · rintro ⟨ws, hws, heq⟩
    rw [hws, hmake ws vs (heq.trans hb.symm)]
  · intro h
    exact ⟨vs, h, hb⟩

/-- Fields are read one by one. -/
theorem Slots.ofMembers?_cons {αs : List Type} {slot : Slot α} {rest : Slots αs}
    {ms : List (String × Outline)} {v : α} {vs : Values αs} {p q : Prop}
    (hslot : slot.ofMembers? d ms = some v ↔ p) (hrest : rest.ofMembers? d ms = some vs ↔ q) :
    (cons slot rest).ofMembers? d ms = some (v, vs) ↔ p ∧ q :=
  pair_eq_some_iff.trans (and_congr hslot hrest)

/-- A record without slots is read from any members. -/
theorem Slots.ofMembers?_nil {ms : List (String × Outline)} {vs : Values []} :
    nil.ofMembers? d ms = some vs ↔ True := by
  constructor
  · intro _
    trivial
  · intro _
    rfl

/-- A field that is absent has what stands for it. -/
theorem Slot.ofMembers?_of_absent {slot : Slot α} {ms : List (String × Outline)}
    (hkeyed : Keyed d ms fields) (habsent : lookup fields slot.name = none) :
    slot.ofMembers? d ms = slot.fallback := by
  have hfilter := hkeyed.filter slot.name
  have hnone : fields.filter (·.1 = slot.name) = [] := by
    apply List.filter_eq_nil_iff.2
    intro e he
    simpa using lookup_eq_none_iff.1 habsent e he
  rw [hnone] at hfilter
  rw [ofMembers?, List.forall₂_nil_right_iff.1 hfilter]

end TokenCatalog.Json
