import TokenCatalog.Token.Basic
import TokenCatalog.Text.Blank
import TokenCatalog.Text.Case

namespace TokenCatalog

open Json (Field Fields Record Reader)

/-!
# Custom tokens — tokens that a user added

* `CustomToken` — the raw record;
* `CustomToken.validate` — the token of an acceptable record, else the first objection to it;
* `CustomTokens` — a collection with one record for every chain and address, whatever the case in
  which the address is written.
-/

/-- A token that a user added, as it was entered. -/
structure CustomToken where
  chainId : ChainId
  address : String
  name : String
  symbol : String
  decimals : UInt32
  logoUri : String := ""
  crossChainId : String := ""
  deriving DecidableEq, Repr, Inhabited

namespace CustomToken

/-! ### As JSON -/

/-- How a custom token is read. -/
def record : Record [UInt64, String, String, String, UInt32, String, String] CustomToken where
  name := "CustomToken"
  fields :=
    .cons (.required "chainId" fun _ => Reader.uint64) <|
    .cons (.required "address" fun _ => Reader.string) <|
    .cons (.required "name" fun _ => Reader.string) <|
    .cons (.required "symbol" fun _ => Reader.string) <|
    .cons (.required "decimals" fun _ => Reader.uint32) <|
    .cons (.withDefault "logoURI" (fun _ => Reader.string) "") <|
    .cons (.withDefault "crossChainId" (fun _ => Reader.string) "") .nil
  make := fun (chainId, address, name, symbol, decimals, logoUri, crossChainId, ()) =>
    { chainId, address, name, symbol, decimals, logoUri, crossChainId }

/-- A custom token as a document. -/
def toJson (t : CustomToken) : Json :=
  .object [
    ("chainId", .nat t.chainId),
    ("address", .string t.address),
    ("name", .string t.name),
    ("symbol", .string t.symbol),
    ("decimals", .nat t.decimals.toUInt64),
    ("logoURI", .string t.logoUri),
    ("crossChainId", .string t.crossChainId)]

/-! ### Validation -/

/-- An objection to a custom token. -/
inductive Objection where
  | unsupportedChain (chain : ChainId)
  | invalidAddress (address : String)
  | emptySymbol
  | tooManyDecimals (decimals : UInt32)
  | invalidLogoUri (uri : String)
  deriving DecidableEq, Repr

/-- The most decimals a custom token may have. -/
def maxDecimals : UInt32 := 18

/-- What a logo's URI may start with. -/
def logoSchemes : List String := ["data:", "ipfs://", "http://", "https://"]

/-- Whether a logo's URI is absent or starts in an allowed way. -/
def isLogoUri (uri : String) : Bool :=
  uri == "" || logoSchemes.any fun s => s.toList.isPrefixOf uri.toList

/-- The text of an objection. -/
def Objection.message : Objection → String
  | .unsupportedChain chain => s!"chain {chain.toNat} is not supported"
  | .invalidAddress address => "invalid address " ++ Quoted.encode address
  | .emptySymbol => "symbol is empty"
  | .tooManyDecimals decimals => s!"decimals {decimals.toNat} exceed 18"
  | .invalidLogoUri uri => "logo uri " ++ Quoted.encode uri ++ " has an unsupported scheme"

/-- The token of a custom record, marked as custom, else the first objection to the record. -/
def validate (t : CustomToken) (chains : List ChainId) : Except Objection Token :=
  if !chains.contains t.chainId then .error (.unsupportedChain t.chainId)
  else
    match Address.parse? t.address with
    | none => .error (.invalidAddress t.address)
    | some address =>
      if Text.isBlankText t.symbol then .error .emptySymbol
      else if maxDecimals < t.decimals then .error (.tooManyDecimals t.decimals)
      else if !isLogoUri t.logoUri then .error (.invalidLogoUri t.logoUri)
      else
        .ok {
          crossChainId := t.crossChainId, chainId := t.chainId, address,
          decimals := t.decimals.toUInt8, name := t.name, symbol := t.symbol,
          logoUri := t.logoUri, custom := true }

/-! ### Collections -/

/-- The place of a custom token: its chain, and its address in lowercase. -/
structure Place where
  chainId : ChainId
  address : String
  deriving DecidableEq, Repr

namespace Place

/-- The order by chain, then by address. -/
def order : Place → Place → Ordering :=
  compareLex (compareOn Place.chainId) (compareOn Place.address)

instance : Ord Place := ⟨order⟩

instance : Std.TransOrd Place := inferInstanceAs (Std.TransCmp (compareLex _ _))

/-- Places that are ordered neither way are the same. -/
theorem eq_of_order {p q : Place} (h : order p q = .eq) : p = q := by
  obtain ⟨c, a⟩ := p
  obtain ⟨d, b⟩ := q
  obtain ⟨h1, h2⟩ := Ordering.then_eq_eq.1 h
  have hc : c = d := Std.LawfulEqOrd.eq_of_compare h1
  have ha : a = b := Std.LawfulEqOrd.eq_of_compare h2
  rw [hc, ha]

theorem order_self (p : Place) : order p p = .eq :=
  Ordering.then_eq_eq.2 ⟨Std.ReflOrd.compare_self, Std.ReflOrd.compare_self⟩

instance : Std.LawfulEqOrd Place where
  compare_self := order_self _
  eq_of_compare := eq_of_order

/-- The place of an address on a chain, however it is written. -/
def ofAddress (chain : ChainId) (address : String) : Place := ⟨chain, Text.lower address⟩

end Place

/-- The place of a record. -/
def place (t : CustomToken) : Place := .ofAddress t.chainId t.address

end CustomToken

/-- Custom tokens, one for every place. -/
structure CustomTokens where
  byPlace : SortedMap CustomToken.Place CustomToken := ∅
  deriving Inhabited

namespace CustomTokens

/-- Add a token, in place of the one at its place. -/
def add (ts : CustomTokens) (t : CustomToken) : CustomTokens := ⟨ts.byPlace.insert t.place t⟩

/-- The token at an address of a chain. -/
def find? (ts : CustomTokens) (chain : ChainId) (address : String) : Option CustomToken :=
  ts.byPlace.get? (.ofAddress chain address)

/-- Take out the token at an address of a chain. -/
def remove (ts : CustomTokens) (chain : ChainId) (address : String) : CustomTokens :=
  ⟨ts.byPlace.erase (.ofAddress chain address)⟩

/-- The tokens by chain, then by address in lowercase. -/
def all (ts : CustomTokens) : List CustomToken := ts.byPlace.values

end CustomTokens

end TokenCatalog
