import TokenCatalog.Proofs.Json.RecordWriting
import TokenCatalog.Proofs.Manifest.Decoding
import TokenCatalog.Proofs.Token.Documents

namespace TokenCatalog

open Json

/-!
# Round trips — what is written is read again

Two things are shown of every type: its fields are read of its outline, and no doubles are written.

* `Version.value?_outline`, `Token.value?_outline`, … — records are read of what is written of them;
* `TokenList.Writable` — the lists whose tags can be written;
* `Version.decode_toText`, `Token.decode_toText`, … — so their texts are decoded;
* `Manifest.decode_toText` — a manifest with distinct ids also satisfies the schema;
* `round_trip` — **main result**: every wire type.
-/

variable {d : Nat}

/-! ### Records -/

/-- A version is read back from the outline of its document. -/
theorem Version.value?_outline (v : Version) : value? (d + 1) v.toJson.outline = some v :=
  Slots.map_of?_outline (by decide) ⟨[], rfl⟩
    (Slots.ofItems?_cons (Outline.uint32?_outline v.major) <|
      Slots.ofItems?_cons (Outline.uint32?_outline v.minor) <|
      Slots.ofItems?_cons (Outline.uint32?_outline v.patch) rfl) rfl

/-- An address is read back from the string it is written as. -/
theorem Address.value?_outline (a : Address) : value? a.toJson.outline = some a := by
  simp [value?, toJson, ofJsonText_toText, Except.toOption]

/-- A token is read back from the outline of its document. -/
theorem Token.value?_outline (t : Token) : value? (d + 1) t.toJson.outline = some t :=
  Slots.map_of?_outline (by decide) ⟨[], rfl⟩
    (Slots.ofItems?_cons (Outline.text?_outline t.crossChainId) <|
      Slots.ofItems?_cons (Outline.uint64?_outline t.chainId) <|
      Slots.ofItems?_cons t.address.value?_outline <|
      Slots.ofItems?_cons (Outline.uint8?_outline t.decimals) <|
      Slots.ofItems?_cons (Outline.text?_outline t.name) <|
      Slots.ofItems?_cons (Outline.text?_outline t.symbol) <|
      Slots.ofItems?_cons (Outline.text?_outline t.logoUri) <|
      Slots.ofItems?_cons (Outline.bool?_outline t.custom) rfl) rfl

/-- A custom token is read back from the outline of its document. -/
theorem CustomToken.value?_outline (t : CustomToken) :
    value? (d + 1) t.toJson.outline = some t :=
  Slots.map_of?_outline (by decide) ⟨[], rfl⟩
    (Slots.ofItems?_cons (Outline.uint64?_outline t.chainId) <|
      Slots.ofItems?_cons (Outline.text?_outline t.address) <|
      Slots.ofItems?_cons (Outline.text?_outline t.name) <|
      Slots.ofItems?_cons (Outline.text?_outline t.symbol) <|
      Slots.ofItems?_cons (Outline.uint32?_outline t.decimals) <|
      Slots.ofItems?_cons (Outline.text?_outline t.logoUri) <|
      Slots.ofItems?_cons (Outline.text?_outline t.crossChainId) rfl) rfl

/-- A schema that is not there is not written, and none is read. -/
theorem Manifest.Entry.value?_outline (e : Entry) : value? (d + 1) e.toJson.outline = some e := by
  obtain ⟨id, url, schema⟩ := e
  cases schema with
  | none =>
    exact Slots.map_of?_outline (by decide) ⟨["schema"], rfl⟩
      (Slots.ofItems?_cons (Outline.text?_outline id) <|
        Slots.ofItems?_cons (Outline.text?_outline url) <| Slots.ofItems?_absent rfl rfl) rfl
  | some schema =>
    exact Slots.map_of?_outline (by decide) ⟨[], rfl⟩
      (Slots.ofItems?_cons (Outline.text?_outline id) <|
        Slots.ofItems?_cons (Outline.text?_outline url) <|
        Slots.ofItems?_cons (Outline.optional?_text?_outline schema) rfl) rfl

/-- A manifest is read back from the outline of its document, its entries with it. -/
theorem Manifest.value?_outline (m : Manifest) : value? (d + 3) m.toJson.outline = some m :=
  Slots.map_of?_outline (by decide) ⟨[], rfl⟩
    (Slots.ofItems?_cons (Outline.text?_outline m.timestamp) <|
      Slots.ofItems?_cons m.version.value?_outline <|
      Slots.ofItems?_cons (Outline.list?_outline fun e _ => e.value?_outline) rfl) rfl

/-- The tags of a list hold no doubles and do not nest too deep; like all values that are held, and
    unlike documents, they name every key once and in order. -/
structure TokenList.Writable (l : TokenList) : Prop where
  canonical : ∀ e ∈ l.tags.entries, e.2.IsCanonical
  floatFree : ∀ e ∈ l.tags.entries, e.2.FloatFree
  depth : ∀ e ∈ l.tags.entries, e.2.outline.within 100 = true

/-- A tag that is canonical and not too deep is read back as the tag it was. -/
theorem TokenList.tag?_outline {j : Json} (hj : j.IsCanonical) (hdepth : j.outline.within d = true) :
    tag? d j.outline = some j := by
  rw [tag?, Outline.json?_eq_some_iff.2 ⟨hdepth, denotes_outline j⟩, Option.map_some,
    canonical_eq_self hj]

/-- A writable list is read back, its tags and tokens with it, at a depth that leaves room for the
    tags. -/
theorem TokenList.value?_outline {l : TokenList} (hl : l.Writable) :
    value? (d + 102) l.toJson.outline = some l := by
  have htag : ∀ e ∈ l.tags.entries, tag? (d + 100) e.2.outline = some e.2 := fun e he =>
    tag?_outline (hl.canonical e he) (Outline.within_mono (by omega) (hl.depth e he))
  have hkeywords : Outline.list? (fun _ => Outline.text?) (d + 101)
      (outline (.array (l.keywords.map .string))) = some l.keywords :=
    Outline.list?_outline fun s _ => Outline.text?_outline s
  -- Slot by slot, in the order in which a list writes its fields.
  exact Slots.map_of?_outline (by decide) ⟨[], rfl⟩
    (Slots.ofItems?_cons (Outline.text?_outline l.name) <|
      Slots.ofItems?_cons (Outline.text?_outline l.timestamp) <|
      Slots.ofItems?_cons (Outline.text?_outline l.fetchedTimestamp) <|
      Slots.ofItems?_cons (Outline.text?_outline l.source) <|
      Slots.ofItems?_cons l.version.value?_outline <|
      Slots.ofItems?_cons (Outline.dictionary?_outline htag) <|
      Slots.ofItems?_cons (Outline.text?_outline l.logoUri) <|
      Slots.ofItems?_cons hkeywords <|
      Slots.ofItems?_cons (Outline.list?_outline fun t _ => t.value?_outline) rfl) rfl

/-! ### No doubles -/

/-- A version writes natural numbers only. -/
theorem Version.floatFree_toJson (v : Version) : v.toJson.FloatFree :=
  .object (by simp [FloatFree.natural, Json.nat])

/-- A token writes no fraction. -/
theorem Token.floatFree_toJson (t : Token) : t.toJson.FloatFree :=
  .object (by simp [FloatFree.natural, FloatFree.string, FloatFree.bool, Json.nat, Address.toJson])

/-- A custom token writes no fraction. -/
theorem CustomToken.floatFree_toJson (t : CustomToken) : t.toJson.FloatFree :=
  .object (by simp [FloatFree.natural, FloatFree.string, Json.nat])

/-- A writable list writes no fraction: its tags hold none and its tokens never do. -/
theorem TokenList.floatFree_toJson {l : TokenList} (hl : l.Writable) : l.toJson.FloatFree := by
  have htags : (Json.object l.tags.entries).FloatFree := .object hl.floatFree
  have hkeywords := FloatFree.array_map FloatFree.string l.keywords
  have htokens := FloatFree.array_map Token.floatFree_toJson l.tokens
  exact .object (by simp [FloatFree.string, l.version.floatFree_toJson, htags, hkeywords, htokens])

/-- An entry writes strings only. -/
theorem Manifest.Entry.floatFree_toJson (e : Entry) : e.toJson.FloatFree := by
  obtain ⟨id, url, schema⟩ := e
  cases schema <;> exact .object (by simp [FloatFree.string])

/-- A manifest writes no fraction. -/
theorem Manifest.floatFree_toJson (m : Manifest) : m.toJson.FloatFree := by
  have hentries := FloatFree.array_map Entry.floatFree_toJson m.entries
  exact .object (by simp [FloatFree.string, m.version.floatFree_toJson, hentries])

/-! ### Texts -/

/-- The text of a version decodes to the version. -/
theorem Version.decode_toText (v : Version) :
    (record.read maxNesting).decode (Bytes.ofText v.toJson.toText) = .ok v :=
  Reader.Means.decode_toText (means_read maxNesting) v.floatFree_toJson
    (v.value?_outline (d := 126))

/-- The text of a token decodes to the token. -/
theorem Token.decode_toText (t : Token) :
    (record.read maxNesting).decode (Bytes.ofText t.toJson.toText) = .ok t :=
  Reader.Means.decode_toText (means_read maxNesting) t.floatFree_toJson
    (t.value?_outline (d := 126))

/-- The text of a custom token decodes to the custom token. -/
theorem CustomToken.decode_toText (t : CustomToken) :
    (record.read maxNesting).decode (Bytes.ofText t.toJson.toText) = .ok t :=
  Reader.Means.decode_toText (means_read maxNesting) t.floatFree_toJson
    (t.value?_outline (d := 126))

/-- Two levels of a list are around its tags. -/
theorem TokenList.decode_toText {l : TokenList} (hl : l.Writable) :
    (record.read maxNesting).decode (Bytes.ofText l.toJson.toText) = .ok l :=
  Reader.Means.decode_toText (means_read maxNesting) (floatFree_toJson hl)
    (value?_outline (d := 25) hl)

/-! ### Manifests -/

namespace Manifest

/-- An entry is written with its id and its place as strings, and a schema only when it has one. -/
theorem Entry.shaped_toJson (e : Entry) : Entry.Shaped e.toJson := by
  obtain ⟨id, url, schema⟩ := e
  cases schema with
  | none => exact ⟨⟨_, rfl⟩, ⟨id, rfl⟩, ⟨url, rfl⟩, by simp [toJson, field?, lookup]⟩
  | some schema => exact ⟨⟨_, rfl⟩, ⟨id, rfl⟩, ⟨url, rfl⟩, by simp [toJson, field?, lookup]⟩

/-- A version is written with its three parts as naturals. -/
theorem versionShaped_toJson (v : Version) : VersionShaped v.toJson := by
  refine ⟨⟨_, rfl⟩, fun part hpart => ?_⟩
  simp only [List.mem_cons, List.not_mem_nil, or_false] at hpart
  rcases hpart with rfl | rfl | rfl
  · exact ⟨.natural v.major.toUInt64, rfl, by simp⟩
  · exact ⟨.natural v.minor.toUInt64, rfl, by simp⟩
  · exact ⟨.natural v.patch.toUInt64, rfl, by simp⟩

/-- A manifest is written in the shape that the schema asks for. -/
theorem shaped_toJson (m : Manifest) : Shaped m.toJson := by
  refine ⟨⟨_, rfl⟩, ⟨m.timestamp, rfl⟩, ⟨m.version.toJson, rfl, versionShaped_toJson _⟩,
    ⟨m.entries.map Entry.toJson, rfl, ?_⟩⟩
  intro j hj
  obtain ⟨e, -, rfl⟩ := List.mem_map.1 hj
  exact e.shaped_toJson

/-- An entry's document is one object over strings. -/
theorem Entry.within_outline (e : Entry) : e.toJson.outline.within (d + 1) = true := by
  obtain ⟨id, url, schema⟩ := e
  cases schema <;> simp [toJson]

/-- A manifest's document nests three deep at most. -/
theorem within_outline (m : Manifest) : m.toJson.outline.within (d + 3) = true := by
  have hversion : m.version.toJson.outline.within (d + 2) = true := rfl
  have hlists : (outline (.array (m.entries.map Entry.toJson))).within (d + 2) = true := by
    rw [Outline.within_array_iff]
    intro j hj
    obtain ⟨e, -, rfl⟩ := List.mem_map.1 hj
    exact e.within_outline
  rw [toJson, Outline.within_object_iff]
  simp [hversion, hlists]

/-- What is written of a manifest is read again, with all its entries. -/
theorem decode_record_toText (m : Manifest) :
    (record.read maxNesting).decode (Bytes.ofText m.toJson.toText) = .ok m :=
  Reader.Means.decode_toText (means_read maxNesting) m.floatFree_toJson
    (m.value?_outline (d := 124))

/-- **A manifest with distinct ids is decoded** of what is written of it: that is valid, and no
    entry repeats an id. -/
theorem decode_toText {m : Manifest} (hm : (m.entries.map (·.id)).Nodup) :
    decode .structural (Bytes.ofText m.toJson.toText) = .ok m := by
  rw [decode_eq_ok_iff_valid]
  constructor
  · rw [validate_eq_ok_iff]
    exact ⟨m.toJson, parse_toText m.floatFree_toJson (m.within_outline (d := 124)), m.shaped_toJson⟩
  · refine ⟨m, m.decode_record_toText, ?_⟩
    rw [distinct_eq_self hm (by simp)]

/-- The ids of a manifest that was decoded are distinct. -/
theorem nodup_of_decode {validator : Validator} {raw : Bytes} {m : Manifest}
    (h : decode validator raw = .ok m) : (m.entries.map (·.id)).Nodup := by
  obtain ⟨-, m', -, rfl⟩ := decode_eq_ok_iff_valid.1 h
  exact (nodup_distinct [] m'.entries).1

end Manifest

/-! ### Every type -/

/-- **What is written is read again**: versions, tokens, custom tokens, token lists, and manifests;
    and manifests are decoded, if their ids are distinct, as they are where they were decoded
    before. -/
theorem round_trip :
    (∀ v : Version,
      (Version.record.read maxNesting).decode (Bytes.ofText v.toJson.toText) = .ok v) ∧
    (∀ t : Token,
      (Token.record.read maxNesting).decode (Bytes.ofText t.toJson.toText) = .ok t) ∧
    (∀ t : CustomToken,
      (CustomToken.record.read maxNesting).decode (Bytes.ofText t.toJson.toText) = .ok t) ∧
    (∀ l : TokenList, l.Writable →
      (TokenList.record.read maxNesting).decode (Bytes.ofText l.toJson.toText) = .ok l) ∧
    (∀ m : Manifest,
      (Manifest.record.read maxNesting).decode (Bytes.ofText m.toJson.toText) = .ok m) ∧
    (∀ m : Manifest, (m.entries.map (·.id)).Nodup →
      Manifest.decode .structural (Bytes.ofText m.toJson.toText) = .ok m) ∧
    (∀ raw m, Manifest.decode .structural raw = .ok m →
      Manifest.decode .structural (Bytes.ofText m.toJson.toText) = .ok m) := by
  refine ⟨Version.decode_toText, Token.decode_toText, CustomToken.decode_toText, ?_,
    Manifest.decode_record_toText, ?_, ?_⟩
  · intro l hl
    exact TokenList.decode_toText hl
  · intro m hm
    exact Manifest.decode_toText hm
  · intro raw m hdecode
    exact Manifest.decode_toText (Manifest.nodup_of_decode hdecode)

/-- A list with a tag that is an object. -/
def TokenList.tagged : TokenList where
  name := "List"
  tags := .ofList [("stable", .object [("name", .string "Stable")])]

/-- The tagged list may be written: its tag is canonical, shallow and free of fractions. -/
theorem TokenList.writable_tagged : tagged.Writable := by
  have hentries : tagged.tags.entries = [("stable", .object [("name", .string "Stable")])] := rfl
  refine ⟨?_, ?_, ?_⟩
  · rw [hentries]
    simp [isCanonical_object_iff, IsCanonical.string]
  · rw [hentries]
    have hname : (Json.object [("name", .string "Stable")]).FloatFree :=
      .object (by simp [FloatFree.string])
    simp [hname]
  · rw [hentries]
    simp

/-- The tagged list survives being written and read. -/
theorem round_trip_tagged :
    (TokenList.record.read maxNesting).decode (Bytes.ofText TokenList.tagged.toJson.toText) =
      .ok TokenList.tagged :=
  round_trip.2.2.2.1 TokenList.tagged TokenList.writable_tagged

end TokenCatalog
