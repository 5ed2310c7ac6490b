import TokenCatalog.ListFormat.Basic
import TokenCatalog.Proofs.Json.Record
import TokenCatalog.Proofs.SortedMap

namespace TokenCatalog

open Json

/-!
# Documents — which documents each format takes

What a format reads is a record or a sequence of records, so its documents are those that spell one,
and everything else is refused.

* `Version.value?`, `Envelope.value?`, `Standard.Entry.value?`, `Status.Entry.value?`,
  `CoinGecko.Entry.value?` — what the records of the formats are read of;
* `Envelope.decode_eq_ok_iff`, `CoinGecko.decode_eq_ok_iff` — whole documents.
-/

variable {α : Type}

/-! ### Versions and tags -/

namespace Version

/-- The fields of a version; each may be absent. -/
def slots : Slots [UInt32, UInt32, UInt32] :=
  .cons (.withDefault "major" (fun _ => Outline.uint32?) 0) <|
  .cons (.withDefault "minor" (fun _ => Outline.uint32?) 0) <|
  .cons (.withDefault "patch" (fun _ => Outline.uint32?) 0) .nil

/-- What a version is read of. -/
def value? (depth : Nat) (o : Outline) : Option Version :=
  (slots.of? depth o).map fun (major, minor, patch, ()) => { major, minor, patch }

/-- The reader of a place does what the outline says. -/
theorem means_read (depth : Nat) : (record.read depth).Means (value? depth) :=
  Record.means_read
    (.cons rfl rfl (fun _ => Reader.means_uint32) <|
      .cons rfl rfl (fun _ => Reader.means_uint32) <|
      .cons rfl rfl (fun _ => Reader.means_uint32) .nil)
    (by decide) depth

end Version

/-- What a tag is read of: any document, of which the value it denotes is kept. -/
def TokenList.tag? (depth : Nat) (o : Outline) : Option Json :=
  (o.json? depth).map Json.canonical

/-- The reader of a tag does what the outline says. -/
theorem TokenList.means_readTag (depth : Nat) : (readTag depth).Means (tag? depth) :=
  Reader.Means.map (Reader.means_json depth) Json.canonical

namespace ListFormat

/-! ### Envelopes -/

namespace Envelope

/-- The fields of an envelope; only its records must be there. -/
def slots (item : Nat → Outline → Option α) :
    Slots [String, String, Version, SortedMap String Json, String, List String, List α] :=
  .cons (.withDefault "name" (fun _ => Outline.text?) "") <|
  .cons (.withDefault "timestamp" (fun _ => Outline.text?) "") <|
  .cons (.withDefault "version" Version.value? {}) <|
  .cons (.withDefault "tags" (Outline.dictionary? TokenList.tag?) ∅) <|
  .cons (.withDefault "logoURI" (fun _ => Outline.text?) "") <|
  .cons (.withDefault "keywords" (Outline.list? fun _ => Outline.text?) []) <|
  .cons (.required "tokens" (Outline.list? item)) .nil

/-- What an envelope is read of. -/
def value? (item : Nat → Outline → Option α) (depth : Nat) (o : Outline) : Option (Envelope α) :=
  ((slots item).of? depth o).map fun
    (name, timestamp, version, tags, logoUri, keywords, records, ()) =>
      { name, timestamp, version, tags, logoUri, keywords, records }

variable {item : Nat → Reader α} {f : Nat → Outline → Option α}

/-- The reader of an envelope does what the outline says when its reader of records does. -/
theorem means_read (h : ∀ d, (item d).Means (f d)) (depth : Nat) :
    ((record item).read depth).Means (value? f depth) :=
  Record.means_read
    (.cons rfl rfl (fun _ => Reader.means_string) <|
      .cons rfl rfl (fun _ => Reader.means_string) <|
      .cons rfl rfl Version.means_read <|
      .cons rfl rfl (Reader.means_dictionary TokenList.means_readTag) <|
      .cons rfl rfl (fun _ => Reader.means_string) <|
      .cons rfl rfl (Reader.means_list fun _ => Reader.means_string) <|
      .cons rfl rfl (Reader.means_list h) .nil)
    (by
      show ["name", "timestamp", "version", "tags", "logoURI", "keywords", "tokens"].Nodup
      decide)
    depth

/-- An envelope is read of the documents that spell one. -/
theorem decode_eq_ok_iff (h : ∀ d, (item d).Means (f d)) {raw : Bytes} {e : Envelope α} :
    decode item raw = .ok e ↔ ∃ o, Spells raw o ∧ value? f maxNesting o = some e :=
  Reader.Means.decode_eq_ok_iff (means_read h maxNesting)

end Envelope

/-! ### Records -/

/-- The fields of a standard record; its chain and its address must be there. -/
def Standard.Entry.slots : Slots [UInt64, String, String, String, UInt32, String] :=
  .cons (.required "chainId" fun _ => Outline.uint64?) <|
  .cons (.required "address" fun _ => Outline.text?) <|
  .cons (.withDefault "name" (fun _ => Outline.text?) "") <|
  .cons (.withDefault "symbol" (fun _ => Outline.text?) "") <|
  .cons (.withDefault "decimals" (fun _ => Outline.uint32?) 0) <|
  .cons (.withDefault "logoURI" (fun _ => Outline.text?) "") .nil

/-- What a standard record is read of. -/
def Standard.Entry.value? (depth : Nat) (o : Outline) : Option Standard.Entry :=
  (slots.of? depth o).map fun (chainId, address, name, symbol, decimals, logoUri, ()) =>
    { chainId, address, name, symbol, decimals, logoUri }

/-- The reader of a standard record does what the outline says. -/
theorem Standard.Entry.means_read (depth : Nat) : (record.read depth).Means (value? depth) :=
  Record.means_read
    (.cons rfl rfl (fun _ => Reader.means_uint64) <|
      .cons rfl rfl (fun _ => Reader.means_string) <|
      .cons rfl rfl (fun _ => Reader.means_string) <|
      .cons rfl rfl (fun _ => Reader.means_string) <|
      .cons rfl rfl (fun _ => Reader.means_uint32) <|
      .cons rfl rfl (fun _ => Reader.means_string) .nil)
    (by decide) depth

/-- The fields of a Status record; each may be absent. -/
def Status.Entry.slots : Slots [String, String, String, UInt32, String, SortedMap String String] :=
  .cons (.withDefault "crossChainId" (fun _ => Outline.text?) "") <|
  .cons (.withDefault "symbol" (fun _ => Outline.text?) "") <|
  .cons (.withDefault "name" (fun _ => Outline.text?) "") <|
  .cons (.withDefault "decimals" (fun _ => Outline.uint32?) 0) <|
  .cons (.withDefault "logoURI" (fun _ => Outline.text?) "") <|
  .cons (.withDefault "contracts" (Outline.dictionary? fun _ => Outline.text?) ∅) .nil

/-- What a Status record is read of. -/
def Status.Entry.value? (depth : Nat) (o : Outline) : Option Status.Entry :=
  (slots.of? depth o).map fun (crossChainId, symbol, name, decimals, logoUri, contracts, ()) =>
    { crossChainId, symbol, name, decimals, logoUri, contracts }

/-- The reader of a status record does what the outline says. -/
theorem Status.Entry.means_read (depth : Nat) : (record.read depth).Means (value? depth) :=
  Record.means_read
    (.cons rfl rfl (fun _ => Reader.means_string) <|
      .cons rfl rfl (fun _ => Reader.means_string) <|
      .cons rfl rfl (fun _ => Reader.means_string) <|
      .cons rfl rfl (fun _ => Reader.means_uint32) <|
      .cons rfl rfl (fun _ => Reader.means_string) <|
      .cons rfl rfl (Reader.means_dictionary fun _ => Reader.means_string) .nil)
    (by decide) depth

/-- The fields of a record of a dump; its id must be there. -/
def CoinGecko.Entry.slots : Slots [String, String, String, SortedMap String (Option String)] :=
  .cons (.required "id" fun _ => Outline.text?) <|
  .cons (.withDefault "symbol" (fun _ => Outline.text?) "") <|
  .cons (.withDefault "name" (fun _ => Outline.text?) "") <|
  .cons (.withDefault "platforms"
    (Outline.dictionary? fun _ => Outline.optional? Outline.text?) ∅) .nil

/-- What a record of a dump is read of. -/
def CoinGecko.Entry.value? (depth : Nat) (o : Outline) : Option CoinGecko.Entry :=
  (slots.of? depth o).map fun (id, symbol, name, platforms, ()) => { id, symbol, name, platforms }

/-- The reader of a record of the dump does what the outline says. -/
theorem CoinGecko.Entry.means_read (depth : Nat) : (record.read depth).Means (value? depth) :=
  Record.means_read
    (.cons rfl rfl (fun _ => Reader.means_string) <|
      .cons rfl rfl (fun _ => Reader.means_string) <|
      .cons rfl rfl (fun _ => Reader.means_string) <|
      .cons rfl rfl (Reader.means_dictionary fun _ => Reader.means_optional Reader.means_string)
        .nil)
    (by decide) depth

/-- A dump is read of the documents that spell a sequence of records. -/
theorem CoinGecko.decode_eq_ok_iff {raw : Bytes} {records : List CoinGecko.Entry} :
    (Reader.list Entry.record.read maxNesting).decode raw = .ok records ↔
      ∃ o, Spells raw o ∧ Outline.list? Entry.value? maxNesting o = some records :=
  Reader.Means.decode_eq_ok_iff (Reader.means_list Entry.means_read maxNesting)

end ListFormat

end TokenCatalog
