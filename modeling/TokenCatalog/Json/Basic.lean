import TokenCatalog.Decimal.Shortest
import TokenCatalog.Text.Bytes

namespace TokenCatalog

/-!
# JSON values — documents with their fields in document order

* `Json` — a document; an object keeps every field it was written with, repeated ones included;
* `Json.Number` — 64-bit integers stay integers, every other numeral is a double;
* `Json.canonical` — the value a document denotes: the last of several equal keys counts, fields
  ascend by key;
* `Json.same` — equality of canonical values; an integer never equals a double.

Documents are read without `arbitrary_precision`, so that no numeral keeps its text, and without
`raw_value`, so that no key has a meaning of its own.
-/

/-- How many negative integers have 64 bits. -/
abbrev Json.Number.negativeCount : Nat := 9223372036854775808

/-- A JSON number: an unsigned or negative 64-bit integer, or a double. -/
inductive Json.Number where
  | natural (n : UInt64)
  /-- The negative integer `- k - 1`. -/
  | negSucc (k : Fin Json.Number.negativeCount)
  | float (x : Binary64)
  deriving DecidableEq, Repr

/-- A JSON document. -/
inductive Json where
  | null
  | bool (b : Bool)
  | number (n : Json.Number)
  | string (s : String)
  | array (items : List Json)
  | object (fields : List (String × Json))
  deriving Repr, Inhabited

namespace Json

/-- A 64-bit natural number as a document. -/
abbrev nat (n : UInt64) : Json := .number (.natural n)

/-! ### Looking up -/

/-- The value of the last field named `key`. -/
def lookup (fields : List (String × Json)) (key : String) : Option Json :=
  match fields with
  | [] => none
  | (k, v) :: rest => (lookup rest key).orElse fun _ => if k = key then some v else none

/-- The field of an object. -/
def field? (j : Json) (key : String) : Option Json :=
  match j with
  | .object fields => lookup fields key
  | _ => none

/-- The text of a string. -/
def text? : Json → Option String
  | .string s => some s
  | _ => none

/-! ### Canonical values -/

/-- Put a field where its key belongs, in place of an earlier one of that key. -/
def insertField (key : String) (value : Json) : List (String × Json) → List (String × Json)
  | [] => [(key, value)]
  | (k, v) :: rest =>
    if key < k then (key, value) :: (k, v) :: rest
    else if key = k then (key, value) :: rest
    else (k, v) :: insertField key value rest

mutual

/-- The value a document denotes: fields ascend by key, and of equal keys the last one counts. -/
def canonical : Json → Json
  | .array items => .array (canonicalItems items)
  | .object fields => .object (canonicalFields fields [])
  | other => other

/-- Every element in its canonical form. -/
def canonicalItems : List Json → List Json
  | [] => []
  | j :: rest => canonical j :: canonicalItems rest

/-- Insert every field in document order, so that a later one replaces an earlier one. -/
def canonicalFields : List (String × Json) → List (String × Json) → List (String × Json)
  | [], done => done
  | (k, v) :: rest, done => canonicalFields rest (insertField k (canonical v) done)

end

/-! ### Equality -/

/-- Numbers are equal when they are the same integer or the same double; zero has no sign. -/
def Number.same : Number → Number → Bool
  | .float x, .float y => x.withoutZeroSign = y.withoutZeroSign
  | m, n => m = n

mutual

/-- Equality of canonical values. -/
def same : Json → Json → Bool
  | .null, .null => true
  | .bool a, .bool b => a == b
  | .number m, .number n => m.same n
  | .string a, .string b => a == b
  | .array xs, .array ys => sameItems xs ys
  | .object xs, .object ys => sameFields xs ys
  | _, _ => false

/-- Equal elements at every index. -/
def sameItems : List Json → List Json → Bool
  | [], [] => true
  | x :: xs, y :: ys => same x y && sameItems xs ys
  | _, _ => false

/-- Equal keys and values at every position. -/
def sameFields : List (String × Json) → List (String × Json) → Bool
  | [], [] => true
  | (k, x) :: xs, (l, y) :: ys => k == l && same x y && sameFields xs ys
  | _, _ => false

end

end Json

end TokenCatalog
