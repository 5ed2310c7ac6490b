import TokenCatalog.ListFormat.Envelope
import TokenCatalog.Shuffle

namespace TokenCatalog.ListFormat.Status

open Json (Field Fields Record Reader)

/-!
# Status lists — one record per asset, with its address on every chain

A record becomes one token for every supported chain on which it has an address, chains ascending; a
record whose decimals do not fit a byte becomes none.

* `addresses` — the addresses by chain, from the contracts in the order they are enumerated;
* `parseInOrder` — the list, the contracts of each record enumerated in an order of their own.
-/

/-- A record of a Status list. -/
structure Entry where
  crossChainId : String
  symbol : String
  name : String
  decimals : UInt32
  logoUri : String
  /-- Addresses by the text of their chain. -/
  contracts : SortedMap String String

/-- How a record is read. -/
def Entry.record :
    Record [String, String, String, UInt32, String, SortedMap String String] Entry where
  name := "StatusToken"
  fields :=
    .cons (.withDefault "crossChainId" (fun _ => Reader.string) "") <|
    .cons (.withDefault "symbol" (fun _ => Reader.string) "") <|
    .cons (.withDefault "name" (fun _ => Reader.string) "") <|
    .cons (.withDefault "decimals" (fun _ => Reader.uint32) 0) <|
    .cons (.withDefault "logoURI" (fun _ => Reader.string) "") <|
    .cons (.withDefault "contracts" (Reader.dictionary fun _ => Reader.string) ∅) .nil
  make := fun (crossChainId, symbol, name, decimals, logoUri, contracts, ()) =>
    { crossChainId, symbol, name, decimals, logoUri, contracts }

/-- The address texts by chain; of several contracts on one chain the last one counts. -/
def addresses (contracts : List (String × String)) : SortedMap ChainId String :=
  .ofList <| contracts.filterMap fun (chain, address) =>
    (Numeral.natural? chain).map (·, address)

/-- The token of a record on one chain, if it has one there. -/
def Entry.token? (e : Entry) (chains : List ChainId) (decimals : UInt8)
    (contract : ChainId × String) : Option Token :=
  if chains.contains contract.1 then do
    let address ← Address.parse? contract.2
    return {
      crossChainId := e.crossChainId, chainId := contract.1, address, decimals, name := e.name,
      symbol := e.symbol, logoUri := e.logoUri }
  else none

/-- The tokens of a record whose contracts are enumerated in the given order. -/
def Entry.tokensInOrder (e : Entry) (chains : List ChainId) (contracts : List (String × String)) :
    List Token :=
  match decimals? e.decimals with
  | none => []
  | some decimals => (addresses contracts).entries.filterMap (e.token? chains decimals)

/-- Read a Status list; the contracts of each record come in the order given for its place. -/
def parseInOrder (orders : Nat → Shuffle (String × String)) (raw : Bytes) (origin : Origin)
    (chains : List ChainId) : Except Json.Fault TokenList := do
  let e ← Envelope.decode Entry.record.read raw
  return e.toList origin <| e.records.zipIdx.flatMap fun (r, i) =>
    r.tokensInOrder chains ((orders i).order r.contracts.entries)

end TokenCatalog.ListFormat.Status
