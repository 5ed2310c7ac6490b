import TokenCatalog.ListFormat.Envelope
import TokenCatalog.Text.Case

namespace TokenCatalog.ListFormat.CoinGecko

open Json (Field Fields Record Reader)

/-!
# CoinGecko dumps — one record per asset, with its address on every platform

A bare sequence of records.  A record becomes one token for every platform that stands for a
supported chain and on which it has an address, platforms ascending by name.  Symbols are written in
uppercase, and decimals are unknown.
-/

/-- Which chain a platform name stands for. -/
abbrev Platforms := SortedMap String ChainId

/-- A record of the dump. -/
structure Entry where
  id : String
  symbol : String
  name : String
  platforms : SortedMap String (Option String)

/-- How a record is read. -/
def Entry.record : Record [String, String, String, SortedMap String (Option String)] Entry where
  name := "CoinGeckoToken"
  fields :=
    .cons (.required "id" fun _ => Reader.string) <|
    .cons (.withDefault "symbol" (fun _ => Reader.string) "") <|
    .cons (.withDefault "name" (fun _ => Reader.string) "") <|
    .cons (.withDefault "platforms"
      (Reader.dictionary fun _ => Reader.optional Reader.string) ∅) .nil
  make := fun (id, symbol, name, platforms, ()) => { id, symbol, name, platforms }

/-- The token of a record on one platform, if it has one there. -/
def Entry.token? (e : Entry) (platforms : Platforms) (chains : List ChainId)
    (place : String × Option String) : Option Token := do
  let chainId ← platforms.get? place.1
  if chains.contains chainId then
    let address ← place.2 >>= Address.parse?
    return {
      crossChainId := e.id, chainId, address, decimals := 0, name := e.name,
      symbol := Text.upper e.symbol }
  else none

/-- The tokens of a record. -/
def Entry.tokens (platforms : Platforms) (chains : List ChainId) (e : Entry) : List Token :=
  e.platforms.entries.filterMap (e.token? platforms chains)

/-- Read a dump. -/
def parse (platforms : Platforms) (raw : Bytes) (origin : Origin) (chains : List ChainId) :
    Except Json.Fault TokenList := do
  let entries ← (Reader.list Entry.record.read Json.maxNesting).decode raw
  let timestamp := origin.timestamp ""
  return {
    name := "CoinGecko All Tokens", timestamp, fetchedTimestamp := timestamp,
    source := origin.source, tokens := entries.flatMap (Entry.tokens platforms chains) }

end TokenCatalog.ListFormat.CoinGecko
