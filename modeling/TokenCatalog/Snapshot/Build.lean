import TokenCatalog.Config
import TokenCatalog.Content
import TokenCatalog.CustomToken
import TokenCatalog.Snapshot.Basic

namespace TokenCatalog

/-!
# Building snapshots — the lists of every tier, in their order of precedence

A token that several lists have is taken from the first of them.  The tiers are

1. the native token of every chain;
2. the main list;
3. the other lists that ship with the application, by id;
4. every other cached list, by id;
5. the user's tokens.

A main or shipped list is read from its cached copy, or from the shipped one if that is unreadable.
A list that cannot be read is left out, and so is a tier whose store cannot.

The contents of the store, the formats of the lists, the platforms of a dump and the contracts of a
record are hash maps, and whoever goes through one gets its entries in an order of its own.

* `Snapshot.Orders` — every such order that one build meets;
* `Config.tiersInOrder` — the lists in order of precedence;
* `Snapshot.buildInOrder` — the snapshot of all of them;
* `Snapshot.Orders.turned` — the orders of the n-th build of a simulation.
-/

/-- What the stores hold; none for a store that cannot be read. -/
structure Sources where
  /-- Contents by id, in any order. -/
  contents : Option (List (String × Content))
  custom : Option (List CustomToken)

/-- The cached contents by id; none if they cannot be read. -/
def Sources.cache (s : Sources) : ContentStore := .ofList (s.contents.getD [])

/-- The bytes of a list and where they came from. -/
abbrev Copy := Bytes × ListFormat.Origin

/-- The copy in the cache. -/
def Content.toCopy (c : Content) : Copy := (c.body, ⟨c.sourceUrl, some c.fetchedAt⟩)

/-- The copy that ships with the application. -/
def Copy.ofShipped (raw : Bytes) : Copy := (raw, ⟨localSource, none⟩)

/-! ### The order of hash maps -/

/-- The orders in which building a snapshot goes through hash maps. -/
structure Snapshot.Orders where
  contents : Shuffle (String × Content)
  formats : Shuffle (String × ListFormat)
  /-- By the id of the list that is read. -/
  lists : String → ListFormat.Orders

namespace Snapshot.Orders

/-- Everything in the order in which it stands. -/
def standing : Orders where
  contents := .standing
  formats := .standing
  lists _ := .standing

/-- Everything begun at the entry of the given number. -/
def turned (n : Nat) : Orders where
  contents := .turned n
  formats := .turned n
  lists _ := ⟨fun _ => .turned n, .turned n⟩

instance : Inhabited Orders := ⟨.standing⟩

end Snapshot.Orders

/-! ### The tiers -/

namespace Config

/-- The cached copy of a list before the shipped one. -/
def copies (cache : ContentStore) (id : String) (shipped : Option Bytes) : List Copy :=
  ((cache.get? id).map Content.toCopy).toList ++ (shipped.map Copy.ofShipped).toList

/-- The native token of every chain. -/
def nativeTier (c : Config) : List (String × TokenList) :=
  [(ContentStore.nativeId, {
    name := "Native tokens", source := localSource, tokens := c.chains.map Chain.nativeToken })]

/-- Whether a cached list has no other tier. -/
def isRemote (c : Config) (id : String) : Bool :=
  !([ContentStore.manifestId, ContentStore.nativeId, ContentStore.customId,
    c.mainListId].contains id) && !c.initialLists.contains id

/-- The acceptable tokens of the user. -/
def customTokens (c : Config) (custom : List CustomToken) : List Token :=
  custom.filterMap fun t => (t.validate c.chains).toOption

/-- The user's tokens, if there are any. -/
def customTier (c : Config) (custom : Option (List CustomToken)) : List (String × TokenList) :=
  match c.customTokens (custom.getD []) with
  | [] => []
  | tokens =>
    [(ContentStore.customId, { name := "Custom tokens", source := localSource, tokens })]

/-- The bytes that ship with the application under an id. -/
def shipped? (c : Config) (id : String) : Option Bytes :=
  if id = c.mainListId then some c.mainList else c.initialLists.get? id

/-- The ids of the lists that are read, in order of precedence: the main list, the other lists that
    ship with the application, and the cached lists of no other tier. -/
def readIds (c : Config) (cache : ContentStore) : List String :=
  c.mainListId :: (c.initialLists.keys.filter (· ≠ c.mainListId) ++ cache.keys.filter c.isRemote)

variable (c : Config) (o : Snapshot.Orders)

/-- The format of a list. -/
def formatInOrder (id : String) : ListFormat :=
  ((c.formats.gather o.formats).get? id).getD c.defaultFormat

/-- The list of an id, from the first copy that can be read. -/
def readInOrder? (id : String) (copies : List Copy) : Option TokenList :=
  copies.findSome? fun (raw, origin) =>
    ((c.formatInOrder o id).parseInOrder (o.lists id) raw origin c.chains).toOption

/-- The list that is read for an id, if one can be. -/
def foundInOrder? (s : Sources) (id : String) : Option TokenList :=
  c.readInOrder? o id (copies (s.cache.gather o.contents) id (c.shipped? id))

/-- The lists that are read, under their ids. -/
def readTier (s : Sources) : List (String × TokenList) :=
  (c.readIds (s.cache.gather o.contents)).flatMap fun id =>
    ((c.foundInOrder? o s id).map (id, ·)).toList

/-- Every list in order of precedence. -/
def tiersInOrder (s : Sources) : List (String × TokenList) :=
  c.nativeTier ++ c.readTier o s ++ c.customTier s.custom

end Config

/-- The snapshot of everything that is known without the network, hash maps gone through in the given
    orders. -/
def Snapshot.buildInOrder (c : Config) (o : Orders) (s : Sources) : Snapshot :=
  (c.tiersInOrder o s).foldl (fun snapshot (id, l) => snapshot.add id l) {}

end TokenCatalog
