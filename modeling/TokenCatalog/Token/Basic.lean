import TokenCatalog.Token.Address
import TokenCatalog.Version

namespace TokenCatalog

open Json (Field Fields Record Reader)

/-!
# Tokens and token lists

* `Token` — one token on one chain, identified by `Token.key`;
* `TokenList` — tokens with what their producer says about the list;
* `record` and `toJson` of both — as JSON.
-/

/-- A token on one chain. -/
structure Token where
  /-- Groups the same asset across chains; need not be unique. -/
  crossChainId : String := ""
  chainId : ChainId
  address : Address
  decimals : UInt8
  name : String
  symbol : String
  logoUri : String := ""
  /-- The user added this token. -/
  custom : Bool := false
  deriving DecidableEq, Inhabited

namespace Token

/-- The identity of a token inside a catalogue. -/
def key (t : Token) : String := Key.encode t.chainId t.address

/-- Tokens with one key stand on the same chain at the same address. -/
theorem eq_of_key_eq {s t : Token} (h : s.key = t.key) :
    s.chainId = t.chainId ∧ s.address = t.address :=
  Key.encode_inj h

/-- How a token is read. -/
def record : Record [String, UInt64, Address, UInt8, String, String, String, Bool] Token where
  name := "Token"
  fields :=
    .cons (.withDefault "crossChainId" (fun _ => Reader.string) "") <|
    .cons (.required "chainId" fun _ => Reader.uint64) <|
    .cons (.required "address" fun _ => Address.read) <|
    .cons (.required "decimals" fun _ => Reader.uint8) <|
    .cons (.required "name" fun _ => Reader.string) <|
    .cons (.required "symbol" fun _ => Reader.string) <|
    .cons (.withDefault "logoURI" (fun _ => Reader.string) "") <|
    .cons (.withDefault "customToken" (fun _ => Reader.bool) false) .nil
  make := fun (crossChainId, chainId, address, decimals, name, symbol, logoUri, custom, ()) =>
    { crossChainId, chainId, address, decimals, name, symbol, logoUri, custom }

/-- A token as a document. -/
def toJson (t : Token) : Json :=
  .object [
    ("crossChainId", .string t.crossChainId),
    ("chainId", .nat t.chainId),
    ("address", t.address.toJson),
    ("decimals", .nat t.decimals.toUInt64),
    ("name", .string t.name),
    ("symbol", .string t.symbol),
    ("logoURI", .string t.logoUri),
    ("customToken", .bool t.custom)]

end Token

/-- Tokens and what their producer says about them. -/
structure TokenList where
  name : String := ""
  /-- When the producer says the list was made, as written there. -/
  timestamp : String := ""
  /-- When the list was fetched; the producer's timestamp if it never was. -/
  fetchedTimestamp : String := ""
  /-- Where the list was fetched from, or `localSource`. -/
  source : String := ""
  version : Version := {}
  tags : SortedMap String Json := ∅
  logoUri : String := ""
  keywords : List String := []
  tokens : List Token := []
  deriving Inhabited

/-- The source of a list that never came from the network. -/
def localSource : String := "local"

namespace TokenList

/-- Read a document of any shape as the value it denotes. -/
def readTag (depth : Nat) : Reader Json := do return (← Reader.json depth).canonical

/-- How a token list is read. -/
def record : Record [String, String, String, String, Version, SortedMap String Json, String,
    List String, List Token] TokenList where
  name := "TokenList"
  fields :=
    .cons (.required "name" fun _ => Reader.string) <|
    .cons (.required "timestamp" fun _ => Reader.string) <|
    .cons (.required "fetchedTimestamp" fun _ => Reader.string) <|
    .cons (.required "source" fun _ => Reader.string) <|
    .cons (.required "version" Version.record.read) <|
    .cons (.withDefault "tags" (Reader.dictionary readTag) ∅) <|
    .cons (.withDefault "logoURI" (fun _ => Reader.string) "") <|
    .cons (.withDefault "keywords" (Reader.list fun _ => Reader.string) []) <|
    .cons (.required "tokens" (Reader.list Token.record.read)) .nil
  make := fun (name, timestamp, fetchedTimestamp, source, version, tags, logoUri, keywords,
      tokens, ()) =>
    { name, timestamp, fetchedTimestamp, source, version, tags, logoUri, keywords, tokens }

/-- A token list as a document. -/
def toJson (l : TokenList) : Json :=
  .object [
    ("name", .string l.name),
    ("timestamp", .string l.timestamp),
    ("fetchedTimestamp", .string l.fetchedTimestamp),
    ("source", .string l.source),
    ("version", l.version.toJson),
    ("tags", .object l.tags.entries),
    ("logoURI", .string l.logoUri),
    ("keywords", .array (l.keywords.map .string)),
    ("tokens", .array (l.tokens.map Token.toJson))]

end TokenList

end TokenCatalog
