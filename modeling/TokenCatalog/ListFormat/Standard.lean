import TokenCatalog.ListFormat.Envelope

namespace TokenCatalog.ListFormat.Standard

open Json (Field Fields Record Reader)

/-!
# Standard lists — one record per chain and address

A record becomes a token if its chain is supported, its address is one and its decimals fit a byte;
any other record is dropped without a trace.
-/

/-- A record of a standard list. -/
structure Entry where
  chainId : ChainId
  address : String
  name : String
  symbol : String
  decimals : UInt32
  logoUri : String

/-- How a record is read. -/
def Entry.record : Record [UInt64, String, String, String, UInt32, String] Entry where
  name := "StandardToken"
  fields :=
    .cons (.required "chainId" fun _ => Reader.uint64) <|
    .cons (.required "address" fun _ => Reader.string) <|
    .cons (.withDefault "name" (fun _ => Reader.string) "") <|
    .cons (.withDefault "symbol" (fun _ => Reader.string) "") <|
    .cons (.withDefault "decimals" (fun _ => Reader.uint32) 0) <|
    .cons (.withDefault "logoURI" (fun _ => Reader.string) "") .nil
  make := fun (chainId, address, name, symbol, decimals, logoUri, ()) =>
    { chainId, address, name, symbol, decimals, logoUri }

/-- The token of a record, if it has one. -/
def Entry.token? (chains : List ChainId) (e : Entry) : Option Token :=
  if chains.contains e.chainId then do
    let address ← Address.parse? e.address
    let decimals ← decimals? e.decimals
    return {
      chainId := e.chainId, address, decimals, name := e.name, symbol := e.symbol,
      logoUri := e.logoUri }
  else none

/-- Read a standard list. -/
def parse (raw : Bytes) (origin : Origin) (chains : List ChainId) :
    Except Json.Fault TokenList := do
  let e ← Envelope.decode Entry.record.read raw
  return e.toList origin (e.records.filterMap (Entry.token? chains))

end TokenCatalog.ListFormat.Standard
