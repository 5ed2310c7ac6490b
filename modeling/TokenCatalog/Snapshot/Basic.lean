import TokenCatalog.Token.Basic

namespace TokenCatalog

/-!
# Snapshots — every list of the catalogue, and one token for every key

* `Snapshot` — lists by id, and an index of tokens by key, both in the order in which they came;
* `Snapshot.add` — a further list: of its tokens, those with a key not seen before enter the index;
* `Snapshot.added` — how many do;
* the queries.

`mem_keys_fresh_iff` and `nodup_keys_fresh` say which keys a list adds.
-/

/-- Lists by id and tokens by key. -/
structure Snapshot where
  index : List (String × Token) := []
  lists : List (String × TokenList) := []
  deriving Inhabited

namespace Snapshot

/-- The entries for tokens whose key is not among `seen`; of several with one key, the first. -/
def fresh (seen : List String) : List Token → List (String × Token)
  | [] => []
  | t :: ts =>
    if seen.contains t.key then fresh seen ts else (t.key, t) :: fresh (t.key :: seen) ts

/-- Put a list under an id; a list that was there gives up its place to it. -/
def putList (id : String) (l : TokenList) : List (String × TokenList) → List (String × TokenList)
  | [] => [(id, l)]
  | (i, m) :: rest => if i = id then (id, l) :: rest else (i, m) :: putList id l rest

/-- The entries that a list adds to the index. -/
def gain (s : Snapshot) (l : TokenList) : List (String × Token) :=
  fresh (s.index.map (·.1)) l.tokens

/-- Add a list under an id. -/
def add (s : Snapshot) (id : String) (l : TokenList) : Snapshot where
  index := s.index ++ s.gain l
  lists := putList id l s.lists

/-- Enter a token into an index if its key is new there; the number counts the tokens entered. -/
def enter (entered : List (String × Token) × Nat) (t : Token) : List (String × Token) × Nat :=
  if (entered.1.map (·.1)).contains t.key then entered
  else (entered.1 ++ [(t.key, t)], entered.2 + 1)

/-- How many tokens a list brings to the index, counted one by one. -/
def added (s : Snapshot) (l : TokenList) : Nat := (l.tokens.foldl enter (s.index, 0)).2

/-! ### Queries -/

/-- The tokens, one for every key, in the order in which they came. -/
def tokens (s : Snapshot) : List Token := s.index.map (·.2)

/-- The token at an address of a chain. -/
def token? (s : Snapshot) (chain : ChainId) (address : Address) : Option Token :=
  (s.index.find? (·.1 = Key.encode chain address)).map (·.2)

/-- The tokens on a chain. -/
def tokensOn (s : Snapshot) (chain : ChainId) : List Token := s.tokens.filter (·.chainId = chain)

/-- The tokens of one asset across chains; no tokens share the empty id. -/
def tokensOfAsset (s : Snapshot) (crossChainId : String) : List Token :=
  s.tokens.filter fun t => t.crossChainId ≠ "" && t.crossChainId = crossChainId

/-- The list under an id. -/
def list? (s : Snapshot) (id : String) : Option TokenList :=
  (s.lists.find? (·.1 = id)).map (·.2)

/-- The lists, in the order in which their ids came. -/
def tokenLists (s : Snapshot) : List TokenList := s.lists.map (·.2)

/-- The ids of the lists, in the order in which they came. -/
def listIds (s : Snapshot) : List String := s.lists.map (·.1)

/-- Snapshots are the same when their tokens and lists are, in order; zero has no sign in tags. -/
def same (s t : Snapshot) : Bool :=
  s.tokens = t.tokens && s.listIds = t.listIds &&
    Json.sameItems (s.tokenLists.map TokenList.toJson) (t.tokenLists.map TokenList.toJson)

/-! ### Lemmas -/

/-- The keys that are new are those of the tokens that were not seen. -/
theorem mem_keys_fresh_iff {seen : List String} {ts : List Token} {k : String} :
    k ∈ (fresh seen ts).map (·.1) ↔ k ∉ seen ∧ k ∈ ts.map Token.key := by
  fun_induction fresh seen ts with
  | case1 => simp
  | case2 seen t ts h ih => grind
  | case3 seen t ts h ih => grind

/-- None of them is new twice. -/
theorem nodup_keys_fresh (seen : List String) (ts : List Token) :
    ((fresh seen ts).map (·.1)).Nodup := by
  fun_induction fresh seen ts with
  | case1 => simp
  | case2 seen t ts h ih => exact ih
  | case3 seen t ts h ih =>
    refine List.nodup_cons.2 ⟨fun hm => ?_, ih⟩
    exact (mem_keys_fresh_iff.1 hm).1 List.mem_cons_self

end Snapshot

end TokenCatalog
