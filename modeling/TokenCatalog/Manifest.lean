import TokenCatalog.Schema
import TokenCatalog.Version

namespace TokenCatalog

open Json (Field Fields Record Reader)

/-!
# Manifests — the list of remote token lists

* `Manifest` — its entries name a list, where to fetch it, and possibly a schema it must satisfy;
* `Manifest.decode` — a manifest from its bytes: valid under `Manifest.schema`, then read; of
  entries with one id the first is kept;
* `Manifest.toJson` — a manifest as a document.
-/

/-- A token list that a manifest announces. -/
structure Manifest.Entry where
  id : String
  sourceUrl : String
  /-- Where the schema of the list's body is. -/
  schemaUrl : Option String := none
  deriving DecidableEq, Repr, Inhabited

/-- The remote token lists. -/
structure Manifest where
  timestamp : String := ""
  version : Version := {}
  entries : List Manifest.Entry := []
  deriving DecidableEq, Repr, Inhabited

namespace Manifest

/-- The URL of the schema that an entry's body must satisfy; an empty one stands for none. -/
def Entry.schema? (e : Entry) : Option String := e.schemaUrl.filter (· ≠ "")

/-! ### As JSON -/

/-- How an entry is read. -/
def Entry.record : Record [String, String, Option String] Entry where
  name := "ManifestEntry"
  fields :=
    .cons (.required "id" fun _ => Reader.string) <|
    .cons (.required "sourceUrl" fun _ => Reader.string) <|
    .cons (.withDefault "schema" (fun _ => Reader.optional Reader.string) none) .nil
  make := fun (id, sourceUrl, schemaUrl, ()) => { id, sourceUrl, schemaUrl }

/-- How a manifest is read. -/
def record : Record [String, Version, List Entry] Manifest where
  name := "Manifest"
  fields :=
    .cons (.required "timestamp" fun _ => Reader.string) <|
    .cons (.required "version" Version.record.read) <|
    .cons (.required "tokenLists" (Reader.list Entry.record.read)) .nil
  make := fun (timestamp, version, entries, ()) => { timestamp, version, entries }

/-- An entry as a document; an absent schema is not written. -/
def Entry.toJson (e : Entry) : Json :=
  .object <| [("id", .string e.id), ("sourceUrl", .string e.sourceUrl)] ++
    e.schemaUrl.toList.map fun url => ("schema", .string url)

/-- A manifest as a document. -/
def toJson (m : Manifest) : Json :=
  .object [
    ("timestamp", .string m.timestamp),
    ("version", m.version.toJson),
    ("tokenLists", .array (m.entries.map Entry.toJson))]

/-! ### The schema of manifests -/

/-- The schema of an object with the given properties, some of them required; the notes in front of
    them are no rules. -/
def objectSchema (required : List String) (properties : List (String × Json))
    (notes : List (String × Json) := []) : Json :=
  .object <| notes ++ [
    ("type", .string "object"),
    ("required", .array (required.map .string)),
    ("properties", .object properties)]

/-- The schema of values of one type. -/
def typeSchema (type : String) : Json := .object [("type", .string type)]

/-- The schema every manifest must satisfy. -/
def schema : Json :=
  objectSchema ["timestamp", "version", "tokenLists"] [
    ("timestamp", typeSchema "string"),
    ("version", objectSchema ["major", "minor", "patch"] [
      ("major", typeSchema "integer"),
      ("minor", typeSchema "integer"),
      ("patch", typeSchema "integer")]),
    ("tokenLists", .object [
      ("type", .string "array"),
      ("items", objectSchema ["id", "sourceUrl"] [
        ("id", typeSchema "string"),
        ("sourceUrl", typeSchema "string"),
        ("schema", typeSchema "string")])])]
    [("$schema", .string "http://json-schema.org/draft-07/schema#"),
      ("title", .string "Token list manifest")]

/-- The bytes of the schema. -/
def schemaBytes : Bytes := Bytes.ofText schema.toText

/-! ### Decoding -/

/-- Why a document is no manifest. -/
inductive Error where
  | invalid (e : Schema.Error)
  | unreadable (fault : Json.Fault)

/-- The entries whose id no earlier one has; `seen` are the ids before them. -/
def distinct (seen : List String) : List Entry → List Entry
  | [] => []
  | e :: rest =>
    if seen.contains e.id then distinct seen rest else e :: distinct (e.id :: seen) rest

/-- Read a manifest. -/
def decode (validator : Validator) (raw : Bytes) : Except Error Manifest :=
  match validator.validate raw schemaBytes with
  | .error e => .error (.invalid e)
  | .ok () =>
    match (record.read Json.maxNesting).decode raw with
    | .error f => .error (.unreadable f)
    | .ok m => .ok { m with entries := distinct [] m.entries }

/-- Read a manifest, if it is one. -/
def decode? (validator : Validator) (raw : Bytes) : Option Manifest :=
  (decode validator raw).toOption

end Manifest

end TokenCatalog
