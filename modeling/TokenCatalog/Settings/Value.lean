import TokenCatalog.Json.Basic
import TokenCatalog.Text.Case
import TokenCatalog.Text.Numeral

namespace TokenCatalog.Settings

/-!
# Setting values — what a settings file holds, and how scalars stand for one another

* `Value` — a value of a settings file;
* `Value.natural?` — an unsigned integer, for which numerals, words, truth values and rounded
  decimals may stand;
* `Value.text?` — a text, for which any other scalar may stand.
-/

/-- A number with a point: a double, or one of the values that are no number. -/
inductive Real where
  | finite (x : Binary64)
  | infinite (negative : Bool)
  | undefined
  deriving DecidableEq, Repr

/-- A value of a settings file. -/
inductive Value where
  | absent
  | truth (b : Bool)
  | integer (n : Int)
  | real (x : Real)
  | text (s : String)
  | list (items : List Value)
  | table (fields : List (String × Value))
  deriving Repr, Inhabited

/-- The field of a table. -/
def field? (fields : List (String × Value)) (key : String) : Option Value :=
  (fields.find? (·.1 = key)).map (·.2)

/-- The nearest unsigned integer of 64 bits; a half goes away from zero. -/
def Real.natural : Real → UInt64
  | .finite x =>
    if x.negative then 0
    else
      let one := Binary64.unitsPerOne
      UInt64.ofNat (min ((2 * x.units + one) / (2 * one)) (UInt64.size - 1))
  | .infinite negative => if negative then 0 else UInt64.ofNat (UInt64.size - 1)
  | .undefined => 0

/-- Digits with a point and no exponent. -/
def positional (s : Binary64.Scientific) : List Char :=
  let ds := Nat.toDigits 10 s.digits
  let zeros (n : Nat) := List.replicate n '0'
  if 0 ≤ s.exponent then ds ++ zeros s.exponent.natAbs
  else
    let places := s.exponent.natAbs
    if places < ds.length then ds.take (ds.length - places) ++ '.' :: ds.drop (ds.length - places)
    else '0' :: '.' :: zeros (places - ds.length) ++ ds

/-- The shortest text of a real, without an exponent. -/
def Real.toText : Real → String
  | .finite x =>
    let magnitude := if x.units = 0 then ['0'] else positional (Binary64.shortest x.units)
    String.ofList (if x.negative then '-' :: magnitude else magnitude)
  | .infinite negative => if negative then "-inf" else "inf"
  | .undefined => "NaN"

/-- Words that stand for one. -/
def yesWords : List String := ["true", "on", "yes"]

/-- Words that stand for zero. -/
def noWords : List String := ["false", "off", "no"]

namespace Value

/-- The unsigned integer that a scalar stands for. -/
def natural? : Value → Option UInt64
  | .integer n => if 0 ≤ n ∧ n < UInt64.size then some (UInt64.ofNat n.toNat) else none
  | .text s =>
    let word := Text.lower s
    if yesWords.contains word then some 1
    else if noWords.contains word then some 0
    else Numeral.natural? s
  | .truth b => some (if b then 1 else 0)
  | .real x => some x.natural
  | .absent | .list _ | .table _ => none

/-- The text that a scalar stands for. -/
def text? : Value → Option String
  | .text s => some s
  | .truth b => some (if b then "true" else "false")
  | .integer n => some (toString n)
  | .real x => some x.toText
  | .absent | .list _ | .table _ => none

/-- The unsigned integers of a list. -/
def naturals? : Value → Option (List UInt64)
  | .list items => items.mapM natural?
  | _ => none

/-! ### From JSON -/

mutual

/-- A document as a setting; an integer beyond 63 bits becomes a real. -/
def ofJson : Json → Value
  | .null => .absent
  | .bool b => .truth b
  | .string s => .text s
  | .number (.natural n) =>
    if n.toNat < Json.Number.negativeCount then .integer n.toNat
    else .real (.finite ⟨false, Binary64.nearest (n.toNat * Binary64.unitsPerOne) 1⟩)
  | .number (.negSucc k) => .integer (-(k.val : Int) - 1)
  | .number (.float x) => .real (.finite x)
  | .array items => .list (ofJsonItems items)
  | .object fields => .table (ofJsonFields fields)

/-- Every element as a setting. -/
def ofJsonItems : List Json → List Value
  | [] => []
  | j :: rest => ofJson j :: ofJsonItems rest

/-- Every field as a setting. -/
def ofJsonFields : List (String × Json) → List (String × Value)
  | [] => []
  | (k, j) :: rest => (k, ofJson j) :: ofJsonFields rest

end

end Value

/-! ### Examples -/

-- A half goes away from zero, and less than zero is zero; text has no exponent.
example : Real.natural (.finite ⟨false, 1201 * Binary64.unitsPerOne / 2⟩) = 601 ∧
    Real.natural (.finite ⟨true, Binary64.unitsPerOne⟩) = 0 ∧
    Real.toText (.finite ⟨false, 100000000000000000000 * Binary64.unitsPerOne⟩) =
      "100000000000000000000" := by decide +kernel

end TokenCatalog.Settings
