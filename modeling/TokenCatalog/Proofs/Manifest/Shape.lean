import TokenCatalog.Manifest
import TokenCatalog.Proofs.Json.Writing
import TokenCatalog.Proofs.Schema.Validation

namespace TokenCatalog.Manifest

open Json Schema

/-!
# The schema of manifests — what it asks of a document

* `sat_typeSchema_iff`, `sat_objectSchema_iff`, `sat_arraySchema_iff` — schemas of one type, of
  objects and of sequences;
* `Shaped`, `sat_schema_iff` — **main result**: what satisfies the schema of manifests;
* `parse_schemaBytes`, `validate_eq_ok_iff` — and so does what is found valid.
-/

variable {v : Json}

/-! ### Schemas -/

/-- Only an object has an object for its canonical form, its fields put in order. -/
theorem exists_of_canonical_object {fields : List (String × Json)}
    (h : v.canonical = .object fields) :
    ∃ written, v = .object written ∧ fields = canonicalFields written [] := by
  cases v with
  | object written =>
    cases h
    exact ⟨written, rfl, rfl⟩
  | array items =>
    rw [canonical_array] at h
    cases h
  | null | bool | number | string => cases h

/-- Only an array has an array for its canonical form, item by item. -/
theorem exists_of_canonical_array {items : List Json} (h : v.canonical = .array items) :
    ∃ written, v = .array written ∧ items = written.map canonical := by
  cases v with
  | array written =>
    rw [canonical_array] at h
    cases h
    exact ⟨written, rfl, rfl⟩
  | null | bool | number | string | object => cases h

/-- A string is its own canonical form, and of nothing else. -/
theorem eq_string_of_canonical {s : String} (h : v.canonical = .string s) : v = .string s := by
  cases v with
  | array items =>
    rw [canonical_array] at h
    cases h
  | null | bool | number | string | object => cases h <;> rfl

/-- A number is its own canonical form, and of nothing else. -/
theorem eq_number_of_canonical {n : Number} (h : v.canonical = .number n) : v = .number n := by
  cases v with
  | array items =>
    rw [canonical_array] at h
    cases h
  | null | bool | number | string | object => cases h <;> rfl

/-- The schema of a type asks for that type. -/
theorem sat_typeSchema_iff {t : String} : Sat (typeSchema t).canonical v ↔ IsOfType t v := by
  have hrules : (typeSchema t).canonical = .object [("type", .string t)] := rfl
  rw [hrules]
  constructor
  · intro h
    cases h with
    | exotic free => exact absurd rfl (free _)
    | object type => exact type t rfl
  · intro h
    refine .object ?_ ?_ ?_ ?_ ?_ ?_ ?_
    · intro t' ht
      cases ht
      exact h
    -- There is no other keyword.
    all_goals simp [lookup]

/-- A list of names is canonical as it stands. -/
theorem canonical_strings (names : List String) :
    (Json.array (names.map .string)).canonical = .array (names.map .string) := by
  rw [canonical_array, List.map_map]
  rfl

/-- A schema of objects asks for an object, for the fields that it requires, and of every field that
    it names and that is there, to satisfy the schema of that field; its notes ask for nothing. -/
theorem sat_objectSchema_iff {names : List String} {props notes : List (String × Json)}
    (hnotes : ∀ key ∈ ["enum", "minItems", "items"], lookup notes key = none) :
    Sat (objectSchema names props notes).canonical v.canonical ↔
      (∃ fields, v = .object fields) ∧ (∀ name ∈ names, ∃ w, v.field? name = some w) ∧
        ∀ name sub w, lookup props name = some sub → v.field? name = some w →
          Sat sub.canonical w.canonical := by
  -- What the fields are, and not in which order they stand, is all that counts.
  obtain ⟨rules, hrules, hlookup⟩ : ∃ rules,
      (objectSchema names props notes).canonical = .object rules ∧ ∀ key, lookup rules key =
        ((lookup [("type", .string "object"), ("required", .array (names.map .string)),
          ("properties", .object props)] key).or (lookup notes key)).map canonical :=
    ⟨_, rfl, fun key => by rw [lookup_canonicalFields, lookup_append]⟩
  have htype : lookup rules "type" = some (.string "object") := by
    rw [hlookup]
    rfl
  have hrequired : lookup rules "required" = some (.array (names.map .string)) := by
    rw [hlookup]
    exact congrArg some (canonical_strings names)
  have hproperties : lookup rules "properties" = some (.object (canonicalFields props [])) := by
    rw [hlookup]
    rfl
  have hother : lookup rules "enum" = none ∧ lookup rules "minItems" = none ∧
      lookup rules "items" = none := by
    simp [hlookup, lookup, hnotes]
  rw [hrules]
  constructor
  · intro h
    cases h with
    | exotic free => exact absurd rfl (free _)
    | object type _ _ required properties =>
      obtain ⟨fields, hfields⟩ := (type _ htype).object rfl
      obtain ⟨written, rfl, rfl⟩ := exists_of_canonical_object hfields
      refine ⟨⟨written, rfl⟩, ?_, ?_⟩
      · intro name hname
        obtain ⟨w, hw⟩ := required _ _ hrequired hfields name (List.mem_map_of_mem hname)
        rw [lookup_canonicalFields] at hw
        obtain ⟨u, hu, -⟩ := Option.map_eq_some_iff.1 hw
        exact ⟨u, hu⟩
      · intro name sub w hsub hw
        refine properties _ _ hproperties hfields name _ _ ?_ ?_
        · rw [lookup_canonicalFields, hsub]
          rfl
        · rw [lookup_canonicalFields, show lookup written name = some w from hw]
          rfl
  · rintro ⟨⟨written, rfl⟩, hpresent, hfits⟩
    refine .object ?_ ?_ ?_ ?_ ?_ ?_ ?_
    · intro t ht
      cases htype.symm.trans ht
      rw [isOfType_iff]
      simp [canonical]
    · intro ts hts
      cases htype.symm.trans hts
    · intro allowed hallowed
      cases hother.1.symm.trans hallowed
    · intro required fields hrule hfields name hname
      cases hrequired.symm.trans hrule
      cases hfields
      obtain ⟨_, hname, heq⟩ := List.mem_map.1 hname
      cases heq
      obtain ⟨w, hw⟩ := hpresent name hname
      refine ⟨w.canonical, ?_⟩
      rw [lookup_canonicalFields, show lookup written name = some w from hw]
      rfl
    · intro properties fields hrule hfields name sub w hsub hw
      cases hproperties.symm.trans hrule
      cases hfields
      rw [lookup_canonicalFields] at hsub hw
      obtain ⟨sub', hsub', rfl⟩ := Option.map_eq_some_iff.1 hsub
      obtain ⟨w', hw', rfl⟩ := Option.map_eq_some_iff.1 hw
      exact hfits name sub' w' hsub' hw'
    · intro least items hrule
      cases hother.2.1.symm.trans hrule
    · intro sub items hrule
      cases hother.2.2.symm.trans hrule

/-- A schema of sequences asks for a sequence whose elements satisfy a schema. -/
theorem sat_arraySchema_iff {sub : Json} :
    Sat (Json.object [("type", .string "array"), ("items", sub)]).canonical v.canonical ↔
      ∃ items, v = .array items ∧ ∀ w ∈ items, Sat sub.canonical w.canonical := by
  have hrules : (Json.object [("type", .string "array"), ("items", sub)]).canonical =
      .object [("items", sub.canonical), ("type", .string "array")] := rfl
  rw [hrules]
  constructor
  · intro h
    cases h with
    | exotic free => exact absurd rfl (free _)
    -- Only an array has items, and its canonical form has theirs.
    | object type _ _ _ _ _ items =>
      obtain ⟨elements, helements⟩ := (type "array" rfl).array rfl
      obtain ⟨written, rfl, rfl⟩ := exists_of_canonical_array helements
      refine ⟨written, rfl, fun w hw => ?_⟩
      exact items sub.canonical _ rfl helements _ (List.mem_map_of_mem hw)
  · rintro ⟨written, rfl, helements⟩
    rw [canonical_array]
    -- The other rules are absent.
    refine .object ?_ ?_ ?_ ?_ ?_ ?_ ?_
    · intro t ht
      cases ht
      rw [isOfType_iff]
      simp
    · simp [lookup]
    · simp [lookup]
    · simp [lookup]
    · simp [lookup]
    · simp [lookup]
    · intro sub' items hsub hitems w hw
      cases hsub
      cases hitems
      obtain ⟨u, hu, rfl⟩ := List.mem_map.1 hw
      exact helements u hu

/-! ### The schema of manifests -/

/-- What the schema asks of an entry. -/
structure Entry.Shaped (e : Json) : Prop where
  object : ∃ fields, e = .object fields
  id : ∃ s, e.field? "id" = some (.string s)
  sourceUrl : ∃ s, e.field? "sourceUrl" = some (.string s)
  schema : ∀ w, e.field? "schema" = some w → ∃ s, w = .string s

/-- What the schema asks of a version. -/
structure VersionShaped (v : Json) : Prop where
  object : ∃ fields, v = .object fields
  parts : ∀ part ∈ ["major", "minor", "patch"],
    ∃ n, v.field? part = some (.number n) ∧ ∀ x, n ≠ .float x

/-- What the schema asks of a manifest. -/
structure Shaped (d : Json) : Prop where
  object : ∃ fields, d = .object fields
  timestamp : ∃ s, d.field? "timestamp" = some (.string s)
  version : ∃ v, d.field? "version" = some v ∧ VersionShaped v
  entries : ∃ items, d.field? "tokenLists" = some (.array items) ∧ ∀ e ∈ items, Entry.Shaped e

/-- The rule for a string admits the strings. -/
theorem sat_stringSchema_iff :
    Sat (typeSchema "string").canonical v.canonical ↔ ∃ s, v = .string s := by
  rw [sat_typeSchema_iff]
  constructor
  · intro h
    obtain ⟨s, hs⟩ := h.string rfl
    exact ⟨s, eq_string_of_canonical hs⟩
  · rintro ⟨s, rfl⟩
    rw [isOfType_iff]
    simp [canonical]

/-- The rule for an integer admits the numbers that are no fractions. -/
theorem sat_integerSchema_iff :
    Sat (typeSchema "integer").canonical v.canonical ↔
      ∃ n, v = .number n ∧ ∀ x, n ≠ .float x := by
  rw [sat_typeSchema_iff]
  constructor
  · intro h
    rcases h.integer rfl with ⟨n, hn⟩ | ⟨k, hk⟩
    · exact ⟨_, eq_number_of_canonical hn, by simp⟩
    · exact ⟨_, eq_number_of_canonical hk, by simp⟩
  · rintro ⟨n, rfl, hn⟩
    rw [isOfType_iff]
    cases n with
    | float x => exact absurd rfl (hn x)
    | natural | negSucc => simp [canonical]

/-- The rule for an entry admits the values of an entry's shape. -/
theorem sat_entrySchema_iff :
    Sat (objectSchema ["id", "sourceUrl"] [
      ("id", typeSchema "string"), ("sourceUrl", typeSchema "string"),
      ("schema", typeSchema "string")]).canonical v.canonical ↔ Entry.Shaped v := by
  rw [sat_objectSchema_iff (by simp [lookup])]
  constructor
  -- Each property is there, and each is checked by its own rule.
  · rintro ⟨hobject, hpresent, hfits⟩
    obtain ⟨w, hid⟩ := hpresent "id" (by simp)
    obtain ⟨id, rfl⟩ := sat_stringSchema_iff.1 (hfits "id" _ w rfl hid)
    obtain ⟨w, hurl⟩ := hpresent "sourceUrl" (by simp)
    obtain ⟨url, rfl⟩ := sat_stringSchema_iff.1 (hfits "sourceUrl" _ w rfl hurl)
    exact ⟨hobject, ⟨id, hid⟩, ⟨url, hurl⟩,
      fun w hw => sat_stringSchema_iff.1 (hfits "schema" _ w rfl hw)⟩
  · rintro ⟨hobject, ⟨id, hid⟩, ⟨url, hurl⟩, hschema⟩
    refine ⟨hobject, by simp [hid, hurl], ?_⟩
    intro name sub w hsub hw
    have hname := mem_of_lookup hsub
    simp only [List.mem_cons, Prod.mk.injEq, List.not_mem_nil, or_false] at hname
    rcases hname with ⟨rfl, rfl⟩ | ⟨rfl, rfl⟩ | ⟨rfl, rfl⟩
    · cases hid.symm.trans hw
      exact sat_stringSchema_iff.2 ⟨id, rfl⟩
    · cases hurl.symm.trans hw
      exact sat_stringSchema_iff.2 ⟨url, rfl⟩
    · exact sat_stringSchema_iff.2 (hschema w hw)

/-- The rule for a version admits the values of a version's shape. -/
theorem sat_versionSchema_iff :
    Sat (objectSchema ["major", "minor", "patch"] [
      ("major", typeSchema "integer"), ("minor", typeSchema "integer"),
      ("patch", typeSchema "integer")]).canonical v.canonical ↔ VersionShaped v := by
  rw [sat_objectSchema_iff (by simp [lookup])]
  constructor
  · rintro ⟨hobject, hpresent, hfits⟩
    refine ⟨hobject, fun part hpart => ?_⟩
    obtain ⟨w, hw⟩ := hpresent part hpart
    -- The three parts are checked by the same rule.
    have hinteger : Sat (typeSchema "integer").canonical w.canonical := by
      simp only [List.mem_cons, List.not_mem_nil, or_false] at hpart
      rcases hpart with rfl | rfl | rfl <;> exact hfits _ _ w rfl hw
    obtain ⟨n, rfl, hn⟩ := sat_integerSchema_iff.1 hinteger
    exact ⟨n, hw, hn⟩
  · rintro ⟨hobject, hparts⟩
    refine ⟨hobject, fun part hpart => ?_, ?_⟩
    · obtain ⟨n, hw, -⟩ := hparts part hpart
      exact ⟨_, hw⟩
    · intro part sub w hsub hw
      have hname := mem_of_lookup hsub
      simp only [List.mem_cons, Prod.mk.injEq, List.not_mem_nil, or_false] at hname
      have hpart : part ∈ ["major", "minor", "patch"] ∧ sub = typeSchema "integer" := by
        rcases hname with ⟨rfl, rfl⟩ | ⟨rfl, rfl⟩ | ⟨rfl, rfl⟩ <;> simp
      obtain ⟨n, hn, hinteger⟩ := hparts part hpart.1
      cases hn.symm.trans hw
      rw [hpart.2]
      exact sat_integerSchema_iff.2 ⟨n, rfl, hinteger⟩

/-- **What satisfies the schema of manifests.** -/
theorem sat_schema_iff {d : Json} : Sat schema.canonical d.canonical ↔ Shaped d := by
  rw [schema, sat_objectSchema_iff (by simp [lookup])]
  constructor
  -- Each property is there, and each is checked by its own rule.
  · rintro ⟨hobject, hpresent, hfits⟩
    obtain ⟨w, htimestamp⟩ := hpresent "timestamp" (by simp)
    obtain ⟨timestamp, rfl⟩ := sat_stringSchema_iff.1 (hfits "timestamp" _ w rfl htimestamp)
    obtain ⟨version, hversion⟩ := hpresent "version" (by simp)
    obtain ⟨w, hlists⟩ := hpresent "tokenLists" (by simp)
    obtain ⟨items, rfl, hitems⟩ := sat_arraySchema_iff.1 (hfits "tokenLists" _ w rfl hlists)
    exact ⟨hobject, ⟨timestamp, htimestamp⟩,
      ⟨version, hversion, sat_versionSchema_iff.1 (hfits "version" _ version rfl hversion)⟩,
      ⟨items, hlists, fun e he => sat_entrySchema_iff.1 (hitems e he)⟩⟩
  · rintro ⟨hobject, ⟨timestamp, htimestamp⟩, ⟨version, hversion, hparts⟩, items, hlists, hitems⟩
    refine ⟨hobject, by simp [htimestamp, hversion, hlists], ?_⟩
    intro name sub w hsub hw
    have hname := mem_of_lookup hsub
    simp only [List.mem_cons, Prod.mk.injEq, List.not_mem_nil, or_false] at hname
    rcases hname with ⟨rfl, rfl⟩ | ⟨rfl, rfl⟩ | ⟨rfl, rfl⟩
    · cases htimestamp.symm.trans hw
      exact sat_stringSchema_iff.2 ⟨timestamp, rfl⟩
    · cases hversion.symm.trans hw
      exact sat_versionSchema_iff.2 hparts
    · cases hlists.symm.trans hw
      exact sat_arraySchema_iff.2 ⟨items, rfl, fun e he => sat_entrySchema_iff.2 (hitems e he)⟩

/-! ### Validity -/

/-- A rule that asks for a type holds no fraction. -/
theorem floatFree_typeSchema (t : String) : FloatFree (typeSchema t) :=
  .object (by simp [FloatFree.string])

/-- A rule about properties holds no fraction when none of the properties' rules does. -/
theorem floatFree_objectSchema {names : List String} {props notes : List (String × Json)}
    (h : ∀ e ∈ props, FloatFree e.2) (hnotes : ∀ e ∈ notes, FloatFree e.2) :
    FloatFree (objectSchema names props notes) := by
  have hnames := FloatFree.array_map FloatFree.string names
  have hrules : ∀ e ∈ [("type", Json.string "object"), ("required", .array (names.map .string)),
      ("properties", .object props)], FloatFree e.2 := by
    simp [FloatFree.string, hnames, FloatFree.object h]
  exact .object (List.forall_mem_append.2 ⟨hnotes, hrules⟩)

/-- The manifest's own rules hold no fraction. -/
theorem floatFree_schema : FloatFree schema := by
  have hversion : FloatFree (objectSchema ["major", "minor", "patch"] [
      ("major", typeSchema "integer"), ("minor", typeSchema "integer"),
      ("patch", typeSchema "integer")]) :=
    floatFree_objectSchema (by simp [floatFree_typeSchema]) (by simp)
  have hentry : FloatFree (objectSchema ["id", "sourceUrl"] [
      ("id", typeSchema "string"), ("sourceUrl", typeSchema "string"),
      ("schema", typeSchema "string")]) :=
    floatFree_objectSchema (by simp [floatFree_typeSchema]) (by simp)
  have hentries : FloatFree (.object [("type", .string "array"), ("items",
      objectSchema ["id", "sourceUrl"] [
        ("id", typeSchema "string"), ("sourceUrl", typeSchema "string"),
        ("schema", typeSchema "string")])]) :=
    .object (by simp [FloatFree.string, hentry])
  apply floatFree_objectSchema
  · simp [floatFree_typeSchema, hversion, hentries]
  · simp [FloatFree.string]

/-- The bytes of the schema are read as the schema. -/
theorem parse_schemaBytes : Json.parse schemaBytes = .ok schema :=
  parse_toText floatFree_schema (by decide +kernel)

/-- **A document is valid** if it can be read and has the shape of a manifest. -/
theorem validate_eq_ok_iff {raw : Bytes} :
    Validator.structural.validate raw schemaBytes = .ok () ↔
      ∃ d, Json.parse raw = .ok d ∧ Shaped d := by
  simp only [← sat_schema_iff]
  exact Schema.validate_eq_ok_iff parse_schemaBytes

end TokenCatalog.Manifest
