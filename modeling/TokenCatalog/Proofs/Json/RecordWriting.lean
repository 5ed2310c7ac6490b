import TokenCatalog.Proofs.Json.Record
import TokenCatalog.Proofs.Json.Writing
import TokenCatalog.Proofs.SortedMap

namespace TokenCatalog.Json

/-!
# Records that are written — what is read of them

A record is written with its fields in the order of their declaration, and is then read as if its
values stood in a sequence.

* `Slots.of?_outline` — an object with the fields of a record in their order, the last ones possibly
  absent;
* `Outline.uint64?_outline`, `Outline.list?_outline`, `Outline.dictionary?_outline`, … — the values
  of fields;
* `Outline.within_array_iff`, `Outline.within_object_iff`, `Outline.within_mono` — how deep values
  nest;
* `Reader.Means.decode_toText` — a reader takes the text of a value for what its outline means.
-/

variable {α : Type} {αs : List Type} {d : Nat}

/-! ### Fields in their order -/

/-- The value of a field does not depend on the members of other names. -/
theorem Slot.ofMembers?_cons_of_ne {slot : Slot α} {m : String × Outline}
    (h : m.1 ≠ slot.name) (ms : List (String × Outline)) :
    slot.ofMembers? d (m :: ms) = slot.ofMembers? d ms := by
  rw [ofMembers?, ofMembers?, List.filter_cons_of_neg (by simpa using h)]

/-- A member that is no field of the record is passed. -/
theorem Slots.ofMembers?_cons_of_notMem {slots : Slots αs} {m : String × Outline}
    (h : m.1 ∉ slots.names) (ms : List (String × Outline)) :
    slots.ofMembers? d (m :: ms) = slots.ofMembers? d ms := by
  induction slots with
  | nil => rfl
  | cons slot rest ih =>
    obtain ⟨hslot, hrest⟩ := not_or.1 (mt List.mem_cons.2 h)
    rw [ofMembers?, ofMembers?, Slot.ofMembers?_cons_of_ne hslot, ih hrest]

/-- Without members every field falls back. -/
theorem Slots.ofMembers?_nil_eq (slots : Slots αs) :
    slots.ofMembers? d [] = slots.ofItems? d [] := by
  induction slots with
  | nil => rfl
  | cons slot rest ih =>
    rw [ofMembers?, ofItems?, ih]
    rfl

/-- Members with the names of the fields, in their order, are read like a sequence. -/
theorem Slots.ofMembers?_zip {slots : Slots αs} (hn : slots.names.Nodup) {os : List Outline}
    (hlength : os.length ≤ slots.names.length) :
    slots.ofMembers? d (slots.names.zip os) = slots.ofItems? d os := by
  induction slots generalizing os with
  | nil =>
    cases os with
    | nil => rfl
    | cons o os => simp [names] at hlength
  | cons slot rest ih =>
    obtain ⟨hnot, hrest⟩ := List.nodup_cons.1 hn
    cases os with
    | nil =>
      rw [List.zip_nil_right, ofMembers?_nil_eq]
    | cons o os =>
      -- No other member has the name of the first field.
      have hfirst : slot.ofMembers? d ((slot.name, o) :: rest.names.zip os) = slot.value? d o := by
        have hnone : (rest.names.zip os).filter (·.1 = slot.name) = [] := by
          apply List.filter_eq_nil_iff.2
          intro m hm hname
          have hmem := (List.of_mem_zip hm).1
          rw [of_decide_eq_true hname] at hmem
          exact hnot hmem
        rw [Slot.ofMembers?, List.filter_cons_of_pos (by simp), hnone]
      rw [names, List.zip_cons_cons, ofMembers?, ofItems?, hfirst, ofMembers?_cons_of_notMem hnot,
        ih hrest (Nat.le_of_succ_le_succ hlength)]

/-- The members of an object are all keyed. -/
theorem mapM_keyed?_outlineFields (fields : List (String × Json)) :
    (outlineFields fields).mapM Slots.keyed? = some (fields.map fun e => (e.1, e.2.outline)) := by
  induction fields with
  | nil => rfl
  | cons e fields ih =>
    obtain ⟨k, v⟩ := e
    rw [outlineFields]
    exact Reader.mapM_cons_eq_some_iff.2 ⟨_, _, rfl, ih, rfl⟩

/-- **A record is read of its fields** as they are written, in the order of their declaration. -/
theorem Slots.of?_outline {slots : Slots αs} {fields : List (String × Json)}
    (hn : slots.names.Nodup) (hfields : fields.map (·.1) <+: slots.names) :
    slots.of? (d + 1) (outline (.object fields)) =
      slots.ofItems? d (fields.map fun e => e.2.outline) := by
  have hlength : (fields.map fun e => e.2.outline).length ≤ slots.names.length := by
    simpa using hfields.length_le
  -- Only the last fields may be absent, so the others pair up with the names in front.
  have hzip : (fields.map fun e => (e.1, e.2.outline)) =
      slots.names.zip (fields.map fun e => e.2.outline) := by
    obtain ⟨more, hmore⟩ := hfields
    rw [← hmore]
    clear hmore hlength
    induction fields with
    | nil => simp
    | cons e fields ih => simp [ih]
  rw [outline, of?, mapM_keyed?_outlineFields, ← ofMembers?_zip hn hlength, ← hzip]
  rfl

/-- Items in order fill the fields in order. -/
theorem Slots.ofItems?_cons {slot : Slot α} {rest : Slots αs} {o : Outline} {os : List Outline}
    {v : α} {vs : Values αs} (hv : slot.value? d o = some v)
    (hvs : rest.ofItems? d os = some vs) : (cons slot rest).ofItems? d (o :: os) = some (v, vs) :=
  ofItems?_cons_eq_some_iff.2 ⟨hv, hvs⟩

/-- A field without an item falls back. -/
theorem Slots.ofItems?_absent {slot : Slot α} {rest : Slots αs} {v : α} {vs : Values αs}
    (hv : slot.fallback = some v) (hvs : rest.ofItems? d [] = some vs) :
    (cons slot rest).ofItems? d [] = some (v, vs) :=
  ofItems?_nil_eq_some_iff.2 ⟨hv, hvs⟩

/-- What is made of the values that are written is made of those that are read. -/
theorem Slots.map_of?_outline {β : Type} {slots : Slots αs} {fields : List (String × Json)}
    {make : Values αs → β} {vs : Values αs} {b : β} (hn : slots.names.Nodup)
    (hfields : fields.map (·.1) <+: slots.names)
    (hitems : slots.ofItems? d (fields.map fun e => e.2.outline) = some vs) (hmake : make vs = b) :
    (slots.of? (d + 1) (outline (.object fields))).map make = some b := by
  rw [of?_outline hn hfields, hitems, Option.map_some, hmake]

/-! ### Values -/

namespace Outline

@[simp] theorem text?_outline (s : String) : (Json.string s).outline.text? = some s := rfl

@[simp] theorem bool?_outline (b : Bool) : (Json.bool b).outline.bool? = some b := rfl

@[simp] theorem optional?_text?_outline (s : String) :
    optional? text? (Json.string s).outline = some (some s) := rfl

/-- An unsigned integer is read as it was written, if it is below the limit. -/
theorem unsigned?_outline {limit : Nat} {n : UInt64} (h : n.toNat < limit) :
    (Json.nat n).outline.unsigned? limit = some n.toNat :=
  if_pos h

@[simp] theorem uint64?_outline (n : UInt64) : (Json.nat n).outline.uint64? = some n := by
  rw [uint64?, unsigned?_outline n.toNat_lt, Option.map_some, UInt64.ofNat_toNat]

@[simp] theorem uint32?_outline (n : UInt32) : (Json.nat n.toUInt64).outline.uint32? = some n := by
  have hlt : n.toUInt64.toNat < UInt32.size := by
    rw [UInt32.toNat_toUInt64]
    exact n.toNat_lt
  rw [uint32?, unsigned?_outline hlt, Option.map_some, UInt32.toNat_toUInt64, UInt32.ofNat_toNat]

@[simp] theorem uint8?_outline (n : UInt8) : (Json.nat n.toUInt64).outline.uint8? = some n := by
  have hlt : n.toUInt64.toNat < UInt8.size := by
    rw [UInt8.toNat_toUInt64]
    exact n.toNat_lt
  rw [uint8?, unsigned?_outline hlt, Option.map_some, UInt8.toNat_toUInt64, UInt8.ofNat_toNat]

/-- The elements of a sequence are read as they were written. -/
theorem list?_outline {f : Nat → Outline → Option α} {write : α → Json} {as : List α}
    (h : ∀ a ∈ as, f d (write a).outline = some a) :
    list? f (d + 1) (outline (.array (as.map write))) = some as := by
  rw [outline, list?, outlines_eq_map]
  induction as with
  | nil => rfl
  | cons a as ih =>
    obtain ⟨ha, has⟩ := List.forall_mem_cons.1 h
    exact Reader.mapM_cons_eq_some_iff.2 ⟨a, as, ha, ih has, rfl⟩

/-- So are the values of a map, whose keys ascend. -/
theorem dictionary?_outline {f : Nat → Outline → Option Json} {m : SortedMap String Json}
    (h : ∀ e ∈ m.entries, f d e.2.outline = some e.2) :
    dictionary? f (d + 1) (outline (.object m.entries)) = some m := by
  have hentries : (outlineFields m.entries).mapM (pair? (f d)) = some m.entries := by
    generalize m.entries = es at h
    induction es with
    | nil => rfl
    | cons e es ih =>
      obtain ⟨k, v⟩ := e
      obtain ⟨he, hes⟩ := List.forall_mem_cons.1 h
      exact Reader.mapM_cons_eq_some_iff.2
        ⟨_, _, pair?_eq_some_iff.2 ⟨rfl, he⟩, ih hes, rfl⟩
  rw [outline, dictionary?, hentries]
  exact congrArg some (SortedMap.gather_eq m ⟨id, fun _ => .refl _⟩)

@[simp] theorem within_string (s : String) : (Json.string s).outline.within d = true :=
  within_of_scalar rfl

/-- The items of a sequence may nest one level less. -/
@[simp] theorem within_array_iff {items : List Json} :
    (outline (.array items)).within (d + 1) = true ↔
      ∀ j ∈ items, j.outline.within d = true := by
  rw [outline, within, outlines_eq_map, List.all_map, List.all_eq_true]
  rfl

/-- So may the values of a map. -/
@[simp] theorem within_object_iff {fields : List (String × Json)} :
    (outline (.object fields)).within (d + 1) = true ↔
      ∀ e ∈ fields, e.2.outline.within d = true := by
  rw [outline, within, outlineFields_eq_map, List.all_map, List.all_eq_true]
  rfl

/-- What nests less deep than it may. -/
theorem within_mono {c d : Nat} {o : Outline} (hle : c ≤ d) (h : o.within c = true) :
    o.within d = true := by
  induction c generalizing d o with
  | zero =>
    cases o with
    | sequence | map => cases h
    | null | bool | number | string => exact within_of_scalar rfl
  | succ c ih =>
    obtain ⟨d, rfl⟩ : ∃ k, d = k + 1 := ⟨d - 1, by omega⟩
    cases o with
    | sequence os =>
      exact List.all_eq_true.2 fun o ho => ih (by omega) (List.all_eq_true.1 h o ho)
    | map ms =>
      exact List.all_eq_true.2 fun m hm => ih (by omega) (List.all_eq_true.1 h m hm)
    | null | bool | number | string => exact within_of_scalar rfl

end Outline

/-! ### Whole documents -/

/-- What the outline of a value means to a reader is what it reads of the value's text. -/
theorem Reader.Means.decode_toText {x : Reader α} {f : Outline → Option α} (h : x.Means f)
    {j : Json} (hj : j.FloatFree) {a : α} (ha : f j.outline = some a) :
    x.decode (Bytes.ofText j.toText) = .ok a :=
  h.decode_eq_ok_iff.2 ⟨j.outline, spells_toText hj, ha⟩

end TokenCatalog.Json
