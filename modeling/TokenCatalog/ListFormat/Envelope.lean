import TokenCatalog.Chain
import TokenCatalog.Moment

namespace TokenCatalog.ListFormat

open Json (Field Fields Record Reader)

/-!
# Envelopes — what the list formats share

* `Origin` — where the bytes of a list came from, and when;
* `Envelope` — a list as its producer writes it, with records of any type;
* `Envelope.toList` — the catalogue's list, once records have become tokens.
-/

/-- Where the bytes of a list came from. -/
structure Origin where
  /-- A URL, or `localSource`. -/
  source : String
  /-- None for bytes that never went over the network. -/
  fetchedAt : Option Moment := none
  deriving Inhabited

/-- The time a list was fetched, else the timestamp its producer gave it. -/
def Origin.timestamp (o : Origin) (producer : String) : String :=
  match o.fetchedAt with
  | some t => t.toText
  | none => producer

/-- A list as its producer writes it. -/
structure Envelope (α : Type) where
  name : String
  timestamp : String
  version : Version
  tags : SortedMap String Json
  logoUri : String
  keywords : List String
  records : List α

namespace Envelope

/-- How an envelope is read; only its records must be there. -/
def record (item : Nat → Reader α) :
    Record [String, String, Version, SortedMap String Json, String, List String, List α]
      (Envelope α) where
  name := "ListEnvelope"
  fields :=
    .cons (.withDefault "name" (fun _ => Reader.string) "") <|
    .cons (.withDefault "timestamp" (fun _ => Reader.string) "") <|
    .cons (.withDefault "version" Version.record.read {}) <|
    .cons (.withDefault "tags" (Reader.dictionary TokenList.readTag) ∅) <|
    .cons (.withDefault "logoURI" (fun _ => Reader.string) "") <|
    .cons (.withDefault "keywords" (Reader.list fun _ => Reader.string) []) <|
    .cons (.required "tokens" (Reader.list item)) .nil
  make := fun (name, timestamp, version, tags, logoUri, keywords, records, ()) =>
    { name, timestamp, version, tags, logoUri, keywords, records }

/-- Read a whole document as an envelope. -/
def decode (item : Nat → Reader α) (raw : Bytes) : Except Json.Fault (Envelope α) :=
  ((record item).read Json.maxNesting).decode raw

/-- The list of the given tokens under what the envelope says. -/
def toList (e : Envelope α) (o : Origin) (tokens : List Token) : TokenList where
  name := e.name
  timestamp := e.timestamp
  fetchedTimestamp := o.timestamp e.timestamp
  source := o.source
  version := e.version
  tags := e.tags
  logoUri := e.logoUri
  keywords := e.keywords
  tokens := tokens

end Envelope

/-- A number of decimals that a token can have. -/
def decimals? (n : UInt32) : Option UInt8 :=
  if n.toNat < 256 then some (UInt8.ofNat n.toNat) else none

end TokenCatalog.ListFormat
