import TokenCatalog.Token.Basic

namespace TokenCatalog

/-!
# Chains — known chains and their native assets

* `Chain.nativeToken` — the native asset of a chain, known without any list;
* `Token.isNative` — the zero address with the symbol of the chain's native asset;
* `Chain.defaultPlatforms` — the platform names of the chains known here.
-/

namespace Chain

def ethereum : ChainId := 1
def optimism : ChainId := 10
def arbitrum : ChainId := 42161
def base : ChainId := 8453
def bsc : ChainId := 56
def bscTestnet : ChainId := 97

/-- Chains whose native asset is BNB. -/
def isBscFamily (c : ChainId) : Bool := c == bsc || c == bscTestnet

/-- The symbol of a chain's native asset. -/
def nativeSymbol (c : ChainId) : String := if isBscFamily c then "BNB" else "ETH"

/-- The native asset of a chain. -/
def nativeToken (c : ChainId) : Token where
  crossChainId := if isBscFamily c then "bnb-native" else "eth-native"
  chainId := c
  address := .zero
  decimals := 18
  name := if isBscFamily c then "BNB" else "Ether"
  symbol := nativeSymbol c

/-- The chains of an operator who names none. -/
def defaultChains : List ChainId := [ethereum, optimism, arbitrum, base, bsc]

/-- The platform names of the chains known here. -/
def defaultPlatforms : SortedMap String ChainId :=
  .ofList [
    ("ethereum", ethereum),
    ("optimistic-ethereum", optimism),
    ("arbitrum-one", arbitrum),
    ("base", base),
    ("binance-smart-chain", bsc)]

end Chain

/-- Equal up to the case of ASCII letters. -/
def sameUpToCase (s t : String) : Bool := s.toList.map Char.toLower == t.toList.map Char.toLower

/-- The zero address with the symbol of the chain's native asset. -/
def Token.isNative (t : Token) : Bool :=
  t.address = .zero && sameUpToCase t.symbol (Chain.nativeSymbol t.chainId)

theorem Chain.isNative_nativeToken (c : ChainId) : (nativeToken c).isNative := by
  simp [Token.isNative, nativeToken, sameUpToCase]

end TokenCatalog
