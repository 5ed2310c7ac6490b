import TokenCatalog.ListFormat.CoinGecko
import TokenCatalog.ListFormat.Standard
import TokenCatalog.ListFormat.Status

namespace TokenCatalog

/-!
# List formats — the formats a token list may arrive in

* `ListFormat` — the three formats;
* `ListFormat.parseInOrder` — a list from its bytes, with the hash maps on the way gone through in any
  order: unsupported or ill-formed tokens are dropped, only an ill-formed document is an error;
* `ListFormat.parse` — the same in the standing order.
-/

/-- A format of token lists. -/
inductive ListFormat where
  | standard
  | status
  | coinGecko (platforms : ListFormat.CoinGecko.Platforms)
  deriving Inhabited

namespace ListFormat

/-- The orders in which reading a list goes through hash maps. -/
structure Orders where
  /-- Of the contracts of each record, by its place in the list. -/
  contracts : Nat → Shuffle (String × String)
  platforms : Shuffle (String × ChainId)

/-- Everything in the order in which it stands. -/
def Orders.standing : Orders := ⟨fun _ => .standing, .standing⟩

/-- Read a token list, going through hash maps in the given orders. -/
def parseInOrder (f : ListFormat) (o : Orders) (raw : Bytes) (origin : Origin)
    (chains : List ChainId) : Except Json.Fault TokenList :=
  match f with
  | standard => Standard.parse raw origin chains
  | status => Status.parseInOrder o.contracts raw origin chains
  | coinGecko platforms => CoinGecko.parse (platforms.gather o.platforms) raw origin chains

/-- Read a token list, going through hash maps as they stand. -/
def parse (f : ListFormat) (raw : Bytes) (origin : Origin) (chains : List ChainId) :
    Except Json.Fault TokenList :=
  f.parseInOrder .standing raw origin chains

/-- What stands before a mismatch in the text of the error of a list. -/
def mismatchPrefix : String := "malformed token list json: "

end ListFormat

end TokenCatalog
