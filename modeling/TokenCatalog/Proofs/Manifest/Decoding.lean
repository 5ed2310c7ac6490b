import TokenCatalog.Proofs.Json.RecordDocument
import TokenCatalog.Proofs.Json.Writing
import TokenCatalog.Proofs.ListFormat.Documents
import TokenCatalog.Proofs.Manifest.Distinct
import TokenCatalog.Proofs.Manifest.Shape

namespace TokenCatalog

open Json

/-!
# Decoding manifests — which bytes are a manifest, and which one

A manifest is read twice, as a value of any shape that the schema must accept and as the type
itself; what the second reader can still refuse are repeated fields and versions out of range.

* `Manifest.Entry.value?`, `Manifest.value?` — what entries and manifests are read of;
* `Manifest.WrittenOnce`, `Manifest.Accepted` — what a document must be;
* `Version.Reads`, `Manifest.Reads`, `Manifest.Keeps` — what is read of it, and which entries stay;
* `Manifest.value?_eq_some_iff` — the second reader, where the first one and the schema agree;
* `Manifest.decode_language` — **main result**: the language of manifests.
-/

variable {d : Nat} {o : Outline} {j : Json}

/-! ### Slots -/

namespace Manifest

/-- The fields of an entry. -/
def Entry.slots : Slots [String, String, Option String] :=
  .cons (.required "id" fun _ => Outline.text?) <|
  .cons (.required "sourceUrl" fun _ => Outline.text?) <|
  .cons (.withDefault "schema" (fun _ => Outline.optional? Outline.text?) none) .nil

/-- What an entry is read of. -/
def Entry.value? (depth : Nat) (o : Outline) : Option Entry :=
  (slots.of? depth o).map fun (id, sourceUrl, schemaUrl, ()) => { id, sourceUrl, schemaUrl }

/-- The reader of an entry does what the outline says. -/
theorem Entry.means_read (depth : Nat) : (record.read depth).Means (value? depth) :=
  Record.means_read
    (.cons rfl rfl (fun _ => Reader.means_string) <|
      .cons rfl rfl (fun _ => Reader.means_string) <|
      .cons rfl rfl (fun _ => Reader.means_optional Reader.means_string) .nil)
    (by decide) depth

/-- The fields of a manifest. -/
def slots : Slots [String, Version, List Entry] :=
  .cons (.required "timestamp" fun _ => Outline.text?) <|
  .cons (.required "version" Version.value?) <|
  .cons (.required "tokenLists" (Outline.list? Entry.value?)) .nil

/-- What a manifest is read of. -/
def value? (depth : Nat) (o : Outline) : Option Manifest :=
  (slots.of? depth o).map fun (timestamp, version, entries, ()) => { timestamp, version, entries }

/-- The reader of a manifest does what the outline says. -/
theorem means_read (depth : Nat) : (record.read depth).Means (value? depth) :=
  Record.means_read
    (.cons rfl rfl (fun _ => Reader.means_string) <|
      .cons rfl rfl Version.means_read <|
      .cons rfl rfl (Reader.means_list Entry.means_read) .nil)
    (by decide) depth

end Manifest

/-! ### What is read -/

/-- A version has the parts of a document. -/
structure Version.Reads (j : Json) (v : Version) : Prop where
  major : j.field? "major" = some (.nat v.major.toUInt64)
  minor : j.field? "minor" = some (.nat v.minor.toUInt64)
  patch : j.field? "patch" = some (.nat v.patch.toUInt64)

/-- A document whose parts are all there is read as a version if no part is there twice and each of
    them is an integer of 32 bits. -/
theorem Version.value?_eq_some_iff (hin : o.within d = true) (ho : o.Denotes j)
    (hj : Manifest.VersionShaped j) {v : Version} :
    value? d o = some v ↔ j.Unrepeated ["major", "minor", "patch"] ∧ Reads j v := by
  obtain ⟨⟨fields, rfl⟩, hparts⟩ := hj
  obtain ⟨c, ms, hkeyed, hof⟩ := exists_keyed hin ho
  obtain ⟨major, hmajor, -⟩ := hparts "major" (by simp)
  obtain ⟨minor, hminor, -⟩ := hparts "minor" (by simp)
  obtain ⟨patch, hpatch, -⟩ := hparts "patch" (by simp)
  obtain ⟨x, y, z⟩ := v
  have hmake : value? d o = some ⟨x, y, z⟩ ↔ slots.of? d o = some (x, y, z, ()) := by
    refine Slots.map_of?_eq_some_iff ?_ rfl
    rintro ⟨_, _, _, ⟨⟩⟩ ⟨_, _, _, ⟨⟩⟩ ⟨⟩
    rfl
  -- Each part is there, so it is read if it is there once and is an integer of 32 bits.
  have hread : slots.ofMembers? c ms = some (x, y, z, ()) ↔
      ((fields.map (·.1)).count "major" ≤ 1 ∧ Json.number major = .nat x.toUInt64) ∧
      ((fields.map (·.1)).count "minor" ≤ 1 ∧ Json.number minor = .nat y.toUInt64) ∧
      ((fields.map (·.1)).count "patch" ≤ 1 ∧ Json.number patch = .nat z.toUInt64) ∧ True :=
    Slots.ofMembers?_cons
        (Slot.ofMembers?_of_lookup hkeyed hmajor fun _ _ ho => Outline.uint32?_eq_some_iff ho) <|
      Slots.ofMembers?_cons
        (Slot.ofMembers?_of_lookup hkeyed hminor fun _ _ ho => Outline.uint32?_eq_some_iff ho) <|
      Slots.ofMembers?_cons
        (Slot.ofMembers?_of_lookup hkeyed hpatch fun _ _ ho => Outline.uint32?_eq_some_iff ho)
      Slots.ofMembers?_nil
  rw [hmake, hof, hread, unrepeated_object_iff]
  constructor
  · rintro ⟨⟨h1, hx⟩, ⟨h2, hy⟩, ⟨h3, hz⟩, -⟩
    refine ⟨?_, by rw [hmajor, hx], by rw [hminor, hy], by rw [hpatch, hz]⟩
    simpa using ⟨h1, h2, h3⟩
  · rintro ⟨honce, hx, hy, hz⟩
    have hcounts : (fields.map (·.1)).count "major" ≤ 1 ∧ (fields.map (·.1)).count "minor" ≤ 1 ∧
        (fields.map (·.1)).count "patch" ≤ 1 := by simpa using honce
    obtain ⟨h1, h2, h3⟩ := hcounts
    exact ⟨⟨h1, Option.some.inj (hmajor.symm.trans hx)⟩,
      ⟨h2, Option.some.inj (hminor.symm.trans hy)⟩,
      ⟨h3, Option.some.inj (hpatch.symm.trans hz)⟩, trivial⟩

namespace Manifest

/-- An entry has the fields of a document; without a schema there is none. -/
structure Entry.Reads (j : Json) (e : Entry) : Prop where
  id : j.field? "id" = some (.string e.id)
  sourceUrl : j.field? "sourceUrl" = some (.string e.sourceUrl)
  schema : j.field? "schema" = e.schemaUrl.map .string

/-- A document that has the shape of an entry is read as one if no field is there twice. -/
theorem Entry.value?_eq_some_iff (hin : o.within d = true) (ho : o.Denotes j) (hj : Entry.Shaped j)
    {e : Entry} :
    value? d o = some e ↔ j.Unrepeated ["id", "sourceUrl", "schema"] ∧ Reads j e := by
  obtain ⟨⟨fields, rfl⟩, ⟨s, hid⟩, ⟨t, hurl⟩, hstring⟩ := hj
  obtain ⟨c, ms, hkeyed, hof⟩ := exists_keyed hin ho
  obtain ⟨x, y, z⟩ := e
  have hmake : value? d o = some ⟨x, y, z⟩ ↔ slots.of? d o = some (x, y, z, ()) := by
    refine Slots.map_of?_eq_some_iff ?_ rfl
    rintro ⟨_, _, _, ⟨⟩⟩ ⟨_, _, _, ⟨⟩⟩ ⟨⟩
    rfl
  -- The schema alone may be absent.
  have hschema : (Slot.withDefault "schema" (fun _ => Outline.optional? Outline.text?)
        none).ofMembers? c ms = some z ↔
      (fields.map (·.1)).count "schema" ≤ 1 ∧ lookup fields "schema" = z.map .string := by
    cases hlookup : lookup fields "schema" with
    | none =>
      rw [Slot.ofMembers?_of_absent hkeyed hlookup, count_of_absent hlookup]
      cases z <;> simp [Slot.withDefault]
    | some w =>
      obtain ⟨u, rfl⟩ := hstring w hlookup
      rw [Slot.ofMembers?_of_lookup hkeyed hlookup
        fun _ _ ho => Outline.optional?_text?_eq_some_iff ho]
      cases z <;> simp [Slot.withDefault, eq_comm]
  have hread : slots.ofMembers? c ms = some (x, y, z, ()) ↔
      ((fields.map (·.1)).count "id" ≤ 1 ∧ Json.string s = .string x) ∧
      ((fields.map (·.1)).count "sourceUrl" ≤ 1 ∧ Json.string t = .string y) ∧
      ((fields.map (·.1)).count "schema" ≤ 1 ∧ lookup fields "schema" = z.map .string) ∧ True :=
    Slots.ofMembers?_cons
        (Slot.ofMembers?_of_lookup hkeyed hid fun _ _ ho => Outline.text?_eq_some_iff ho) <|
      Slots.ofMembers?_cons
        (Slot.ofMembers?_of_lookup hkeyed hurl fun _ _ ho => Outline.text?_eq_some_iff ho) <|
      Slots.ofMembers?_cons hschema Slots.ofMembers?_nil
  rw [hmake, hof, hread, unrepeated_object_iff]
  constructor
  · rintro ⟨⟨h1, hx⟩, ⟨h2, hy⟩, ⟨h3, hz⟩, -⟩
    refine ⟨?_, by rw [hid, hx], by rw [hurl, hy], hz⟩
    simpa using ⟨h1, h2, h3⟩
  · rintro ⟨honce, hx, hy, hz⟩
    have hcounts : (fields.map (·.1)).count "id" ≤ 1 ∧ (fields.map (·.1)).count "sourceUrl" ≤ 1 ∧
        (fields.map (·.1)).count "schema" ≤ 1 := by simpa using honce
    obtain ⟨h1, h2, h3⟩ := hcounts
    exact ⟨⟨h1, Option.some.inj (hid.symm.trans hx)⟩, ⟨h2, Option.some.inj (hurl.symm.trans hy)⟩,
      ⟨h3, hz⟩, trivial⟩

/-- In a document, no field of a manifest, of its version or of its entries is there twice. -/
structure WrittenOnce (j : Json) : Prop where
  root : j.Unrepeated ["timestamp", "version", "tokenLists"]
  version : ∀ v, j.field? "version" = some v → v.Unrepeated ["major", "minor", "patch"]
  entries : ∀ items, j.field? "tokenLists" = some (.array items) →
    ∀ e ∈ items, e.Unrepeated ["id", "sourceUrl", "schema"]

/-- A manifest has the fields of a document, and its entries in the same order. -/
structure Reads (j : Json) (m : Manifest) : Prop where
  timestamp : j.field? "timestamp" = some (.string m.timestamp)
  version : ∃ v, j.field? "version" = some v ∧ Version.Reads v m.version
  entries : ∃ items, j.field? "tokenLists" = some (.array items) ∧
    List.Forall₂ Entry.Reads items m.entries

/-- **The second reader**: a document that has the shape of a manifest is read as one if no field is
    there twice and the parts of its version are integers of 32 bits. -/
theorem value?_eq_some_iff (hin : o.within d = true) (ho : o.Denotes j) (hj : Shaped j)
    {m : Manifest} : value? d o = some m ↔ WrittenOnce j ∧ Reads j m := by
  obtain ⟨⟨fields, rfl⟩, ⟨s, htimestamp⟩, ⟨version, hversion, hparts⟩, items, hlists, hitems⟩ := hj
  obtain ⟨c, ms, hkeyed, hof⟩ := exists_keyed hin ho
  -- Reading the record is reading the three slots, in their order.
  obtain ⟨x, y, z⟩ := m
  have hmake : value? d o = some ⟨x, y, z⟩ ↔ slots.of? d o = some (x, y, z, ()) := by
    refine Slots.map_of?_eq_some_iff ?_ rfl
    rintro ⟨_, _, _, ⟨⟩⟩ ⟨_, _, _, ⟨⟩⟩ ⟨⟩
    rfl
  have hread : slots.ofMembers? c ms = some (x, y, z, ()) ↔
      ((fields.map (·.1)).count "timestamp" ≤ 1 ∧ Json.string s = .string x) ∧
      ((fields.map (·.1)).count "version" ≤ 1 ∧
        version.Unrepeated ["major", "minor", "patch"] ∧ Version.Reads version y) ∧
      ((fields.map (·.1)).count "tokenLists" ≤ 1 ∧ List.Forall₂ (fun e entry =>
        e.Unrepeated ["id", "sourceUrl", "schema"] ∧ Entry.Reads e entry) items z) ∧ True :=
    Slots.ofMembers?_cons
        (Slot.ofMembers?_of_lookup hkeyed htimestamp fun _ _ ho => Outline.text?_eq_some_iff ho) <|
      Slots.ofMembers?_cons
        (Slot.ofMembers?_of_lookup hkeyed hversion fun _ hin ho =>
          Version.value?_eq_some_iff hin ho hparts) <|
      Slots.ofMembers?_cons
        (Slot.ofMembers?_of_lookup hkeyed hlists fun _ hin ho =>
          Outline.list?_eq_some_iff hin ho fun _ _ _ hj hin ho _ =>
            Entry.value?_eq_some_iff hin ho (hitems _ hj))
      Slots.ofMembers?_nil
  rw [hmake, hof, hread]
  constructor
  · rintro ⟨⟨h1, hx⟩, ⟨h2, hparts, hy⟩, ⟨h3, hz⟩, -⟩
    obtain ⟨hentries, hz⟩ := (List.forall₂_and_left _ _).1 hz
    refine ⟨⟨?_, ?_, ?_⟩, by rw [htimestamp, hx], ⟨version, hversion, hy⟩, ⟨items, hlists, hz⟩⟩
    · rw [unrepeated_object_iff]
      simpa using ⟨h1, h2, h3⟩
    · intro v hv
      cases hversion.symm.trans hv
      exact hparts
    · intro items' hitems'
      cases hlists.symm.trans hitems'
      exact hentries
  · rintro ⟨⟨honce, hparts, hentries⟩, hx, ⟨v, hv, hy⟩, ⟨items', hitems', hz⟩⟩
    -- There is one version and one list of entries to speak of.
    cases hversion.symm.trans hv
    cases hlists.symm.trans hitems'
    have hcounts : (fields.map (·.1)).count "timestamp" ≤ 1 ∧
        (fields.map (·.1)).count "version" ≤ 1 ∧ (fields.map (·.1)).count "tokenLists" ≤ 1 := by
      simpa using unrepeated_object_iff.1 honce
    obtain ⟨h1, h2, h3⟩ := hcounts
    exact ⟨⟨h1, Option.some.inj (htimestamp.symm.trans hx)⟩, ⟨h2, hparts _ hversion, hy⟩,
      ⟨h3, (List.forall₂_and_left _ _).2 ⟨hentries _ hlists, hz⟩⟩, trivial⟩

/-! ### Decoding -/

/-- A document that is a manifest: it satisfies the schema, repeats no field of the types, and the
    parts of its version have 32 bits. -/
structure Accepted (j : Json) : Prop where
  satisfies : Schema.Sat schema.canonical j.canonical
  once : WrittenOnce j
  range : ∀ v, j.field? "version" = some v → ∀ part ∈ ["major", "minor", "patch"],
    ∃ n : UInt64, v.field? part = some (.nat n) ∧ n.toNat < UInt32.size

/-- Of the entries that are announced, those are kept whose id no earlier one has, so their ids are
    distinct and the first entry of every id stays. -/
structure Keeps (announced kept : List Entry) : Prop where
  entries : kept = firsts announced
  distinct : (kept.map (·.id)).Nodup
  first : ∀ id, kept.find? (·.id = id) = announced.find? (·.id = id)

/-- Removing repetitions keeps the first entry of each id, in their order. -/
theorem keeps_distinct (es : List Entry) : Keeps es (distinct [] es) where
  entries := distinct_eq_firsts es
  distinct := (nodup_distinct [] es).1
  first _ := find?_distinct (by simp) es

/-- A part of a version that fits 32 bits is one. -/
theorem exists_toUInt64 {n : UInt64} (h : n.toNat < UInt32.size) : ∃ x : UInt32, n = x.toUInt64 := by
  refine ⟨UInt32.ofNat n.toNat, ?_⟩
  apply UInt64.toNat_inj.1
  rw [UInt32.toNat_toUInt64, UInt32.toNat_ofNat_of_lt' h]

/-- A value of an entry's shape reads as some entry. -/
theorem exists_entryReads (hj : Entry.Shaped j) : ∃ e, Entry.Reads j e := by
  obtain ⟨-, ⟨s, hid⟩, ⟨t, hurl⟩, hstring⟩ := hj
  cases hschema : j.field? "schema" with
  | none => exact ⟨⟨s, t, none⟩, hid, hurl, hschema⟩
  | some w =>
    obtain ⟨u, rfl⟩ := hstring w hschema
    exact ⟨⟨s, t, some u⟩, hid, hurl, hschema⟩

/-- Values of an entry's shape read as entries, one by one. -/
theorem exists_entriesRead {items : List Json} (h : ∀ e ∈ items, Entry.Shaped e) :
    ∃ es, List.Forall₂ Entry.Reads items es := by
  induction items with
  | nil => exact ⟨[], .nil⟩
  | cons j items ih =>
    obtain ⟨hj, hitems⟩ := List.forall_mem_cons.1 h
    obtain ⟨e, he⟩ := exists_entryReads hj
    obtain ⟨es, hes⟩ := ih hitems
    exact ⟨e :: es, .cons he hes⟩

/-- What has the shape of a manifest and a version in range has the fields of one. -/
theorem exists_reads (hj : Accepted j) : ∃ m, Reads j m := by
  obtain ⟨-, ⟨s, htimestamp⟩, ⟨version, hversion, -⟩, items, hlists, hitems⟩ :=
    sat_schema_iff.1 hj.satisfies
  obtain ⟨es, hes⟩ := exists_entriesRead hitems
  have hpart : ∀ part ∈ ["major", "minor", "patch"],
      ∃ x : UInt32, version.field? part = some (.nat x.toUInt64) := by
    intro part hpart
    obtain ⟨n, hn, hlt⟩ := hj.range version hversion part hpart
    obtain ⟨x, rfl⟩ := exists_toUInt64 hlt
    exact ⟨x, hn⟩
  obtain ⟨x, hx⟩ := hpart "major" (by simp)
  obtain ⟨y, hy⟩ := hpart "minor" (by simp)
  obtain ⟨z, hz⟩ := hpart "patch" (by simp)
  exact ⟨⟨s, ⟨x, y, z⟩, es⟩, htimestamp, ⟨version, hversion, hx, hy, hz⟩, ⟨items, hlists, hes⟩⟩

/-- A document that reads as a manifest and writes each name once is accepted. -/
theorem accepted_of_reads (hj : Shaped j) (honce : WrittenOnce j) {m : Manifest} (h : Reads j m) :
    Accepted j := by
  refine ⟨sat_schema_iff.2 hj, honce, ?_⟩
  obtain ⟨v, hv, hx, hy, hz⟩ := h.version
  have hrange : ∀ x : UInt32, x.toUInt64.toNat < UInt32.size := by
    intro x
    rw [UInt32.toNat_toUInt64]
    exact x.toNat_lt
  intro v' hv' part hpart
  cases hv.symm.trans hv'
  simp only [List.mem_cons, List.not_mem_nil, or_false] at hpart
  rcases hpart with rfl | rfl | rfl
  · exact ⟨_, hx, hrange _⟩
  · exact ⟨_, hy, hrange _⟩
  · exact ⟨_, hz, hrange _⟩

/-- A manifest is what is read of bytes that are valid, without the entries that repeat an id. -/
theorem decode_eq_ok_iff_valid {validator : Validator} {raw : Bytes} {m : Manifest} :
    decode validator raw = .ok m ↔ validator.validate raw schemaBytes = .ok () ∧
      ∃ m', (record.read maxNesting).decode raw = .ok m' ∧
        m = { m' with entries := distinct [] m'.entries } := by
  unfold decode
  cases validator.validate raw schemaBytes with
  | error e => simp
  | ok u =>
    cases (record.read maxNesting).decode raw with
    | error f => simp
    | ok m' => simp [eq_comm]

/-- With the structural validator, it is what both readers take of one document. -/
theorem decode_eq_ok_iff {raw : Bytes} {m : Manifest} :
    decode .structural raw = .ok m ↔ ∃ j m', Denoted raw j ∧ Shaped j ∧ WrittenOnce j ∧
      Reads j m' ∧ m = { m' with entries := distinct [] m'.entries } := by
  rw [decode_eq_ok_iff_valid, validate_eq_ok_iff]
  simp only [parse_eq_ok_iff, Reader.Means.decode_eq_ok_iff (means_read maxNesting)]
  constructor
  · rintro ⟨⟨j, ⟨o, ho, hin, hj⟩, hshaped⟩, m', ⟨o', ho', hm'⟩, hm⟩
    -- Both readers have read the same value, for there is only one.
    cases ho.unique ho'
    obtain ⟨honce, hreads⟩ := (value?_eq_some_iff hin hj hshaped).1 hm'
    exact ⟨j, m', ⟨o, ho, hin, hj⟩, hshaped, honce, hreads, hm⟩
  · rintro ⟨j, m', ⟨o, ho, hin, hj⟩, hshaped, honce, hreads, hm⟩
    exact ⟨⟨j, ⟨o, ho, hin, hj⟩, hshaped⟩, m',
      ⟨o, ho, (value?_eq_some_iff hin hj hshaped).2 ⟨honce, hreads⟩⟩, hm⟩

/-- A document denotes one value. -/
theorem eq_of_denoted {raw : Bytes} {i : Json} (h : Denoted raw i) (h' : Denoted raw j) : i = j :=
  Except.ok.inj ((parse_eq_ok_iff.2 h).symm.trans (parse_eq_ok_iff.2 h'))

/-- **The language of manifests.**  A manifest is read of the bytes that denote a document that
    satisfies the schema, repeats no field of the types, and has a version in range; it has the
    fields of that document, and of its entries the first one of every id, in the same order. -/
theorem decode_language :
    (∀ raw, (∃ m, decode .structural raw = .ok m) ↔ ∃ j, Denoted raw j ∧ Accepted j) ∧
    (∀ raw m j, decode .structural raw = .ok m → Denoted raw j →
      ∃ announced, Reads j { m with entries := announced } ∧ Keeps announced m.entries) := by
  constructor
  · intro raw
    simp only [decode_eq_ok_iff]
    constructor
    · rintro ⟨-, j, m', hdenoted, hshaped, honce, hreads, -⟩
      exact ⟨j, hdenoted, accepted_of_reads hshaped honce hreads⟩
    · rintro ⟨j, hdenoted, haccepted⟩
      obtain ⟨m', hm'⟩ := exists_reads haccepted
      exact ⟨_, j, m', hdenoted, sat_schema_iff.1 haccepted.satisfies, haccepted.once, hm', rfl⟩
  · intro raw m j hdecode hdenoted
    obtain ⟨j', m', hdenoted', -, -, hreads, rfl⟩ := decode_eq_ok_iff.1 hdecode
    cases eq_of_denoted hdenoted hdenoted'
    exact ⟨m'.entries, hreads, keeps_distinct m'.entries⟩

/-! ### A manifest that repeats an id -/

/-- An entry with an id and the place of its list. -/
def entry (id place : String) : Json :=
  .object [("id", .string id), ("sourceUrl", .string place)]

/-- A manifest that announces one id twice, with the given major version. -/
def repeating (major : UInt64) : Json := .object [
  ("timestamp", .string "2024-01-01T00:00:00Z"),
  ("version", .object [("major", .nat major), ("minor", .nat 0), ("patch", .nat 0)]),
  ("tokenLists", .array [entry "a" "first", entry "b" "second", entry "a" "third"])]

/-- The written entry has an entry's shape. -/
theorem shaped_entry (id place : String) : Entry.Shaped (entry id place) where
  object := ⟨_, rfl⟩
  id := ⟨id, rfl⟩
  sourceUrl := ⟨place, rfl⟩
  schema _ h := by cases h

/-- The repeating document has a manifest's shape. -/
theorem shaped_repeating (major : UInt64) : Shaped (repeating major) where
  object := ⟨_, rfl⟩
  timestamp := ⟨_, rfl⟩
  version := by
    refine ⟨_, rfl, ⟨_, rfl⟩, fun part hpart => ?_⟩
    simp only [List.mem_cons, List.not_mem_nil, or_false] at hpart
    rcases hpart with rfl | rfl | rfl <;> exact ⟨_, rfl, nofun⟩
  entries := ⟨_, rfl, by simp [shaped_entry]⟩

/-- The repeating document writes each name once. -/
theorem writtenOnce_repeating (major : UInt64) : WrittenOnce (repeating major) where
  root := unrepeated_object_iff.2 (by simp)
  version := by
    rintro _ ⟨⟩
    exact unrepeated_object_iff.2 (by simp)
  entries := by
    rintro _ ⟨⟩ e he
    simp only [List.mem_cons, List.not_mem_nil, or_false] at he
    rcases he with rfl | rfl | rfl <;> exact unrepeated_object_iff.2 (by decide)

/-- The text of the repeating document denotes it. -/
theorem denoted_repeating (major : UInt64) :
    Denoted (.ofText (repeating major).toText) (repeating major) := by
  have hentry : ∀ id place, FloatFree (entry id place) := fun id place =>
    .object (by simp [FloatFree.string])
  have hversion : FloatFree (.object [("major", .nat major), ("minor", .nat 0),
      ("patch", .nat 0)]) := .object (by simp [Json.nat, FloatFree.natural])
  have hentries : FloatFree (.array [entry "a" "first", entry "b" "second", entry "a" "third"]) :=
    .array (by simp [hentry])
  refine parse_eq_ok_iff.1 (parse_toText (.object ?_) rfl)
  simp [FloatFree.string, hversion, hentries]

/-- The entries that are read, in order. -/
theorem announced_repeating {m : Manifest} (h : Reads (repeating 1) m) :
    m.entries.map (·.sourceUrl) = ["first", "second", "third"] := by
  obtain ⟨_, ⟨⟩, hentries⟩ := h.entries
  generalize m.entries = es at hentries
  cases hentries with
  | cons hfirst hentries =>
    cases hentries with
    | cons hsecond hentries =>
      cases hentries with
      | cons hthird hentries =>
        cases hentries
        have hplace : ∀ {id place : String} {e : Entry}, Entry.Reads (entry id place) e →
            e.sourceUrl = place := fun h => (Json.string.inj (Option.some.inj h.sourceUrl)).symm
        simp [hplace hfirst, hplace hsecond, hplace hthird]

/-- With a version in range it is read, without the entry that repeats an id; else it is not. -/
theorem decode_language_repeating :
    (∃ m announced, decode .structural (.ofText (repeating 1).toText) = .ok m ∧
      announced.map (·.sourceUrl) = ["first", "second", "third"] ∧
      Keeps announced m.entries) ∧
    ¬ ∃ m, decode .structural (.ofText (repeating 4294967296).toText) = .ok m := by
  obtain ⟨hlanguage, hfields⟩ := decode_language
  constructor
  · have haccepted : Accepted (repeating 1) :=
      { satisfies := sat_schema_iff.2 (shaped_repeating 1)
        once := writtenOnce_repeating 1
        range := by
          rintro _ ⟨⟩ part hpart
          simp only [List.mem_cons, List.not_mem_nil, or_false] at hpart
          rcases hpart with rfl | rfl | rfl <;> exact ⟨_, rfl, by decide⟩ }
    obtain ⟨m, hm⟩ := (hlanguage _).2 ⟨_, denoted_repeating 1, haccepted⟩
    obtain ⟨announced, hreads, hkeeps⟩ := hfields _ m _ hm (denoted_repeating 1)
    exact ⟨m, announced, hm, announced_repeating hreads, hkeeps⟩
  -- The same document with a number that does not fit: no document that is accepted has its bytes.
  · intro hread
    obtain ⟨j, hdenoted, haccepted⟩ := (hlanguage _).1 hread
    cases eq_of_denoted hdenoted (denoted_repeating 4294967296)
    obtain ⟨n, hn, hlt⟩ := haccepted.range _ rfl "major" (by simp)
    cases hn
    revert hlt
    decide

end Manifest

end TokenCatalog
