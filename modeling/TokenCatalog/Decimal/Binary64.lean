namespace TokenCatalog

/-!
# Finite binary64 numbers, exactly

A finite double is a sign and a count of the least positive double, `2⁻¹⁰⁷⁴`; every operation is
exact arithmetic on naturals followed by one rounding.

* `Binary64.nearest` — round a quotient to 53 significant bits, ties to even;
* `Binary64.ofScientific?` — the double of `significand · 10^exponent`, one rounded scaling at a
  time, none when the result is too large.
-/

/-- A finite double: its sign, and its magnitude counted in units of `2⁻¹⁰⁷⁴`. -/
structure Binary64 where
  negative : Bool
  units : Nat
  deriving DecidableEq, Repr

namespace Binary64

/-- How many units make one. -/
def unitsPerOne : Nat := Nat.pow 2 1074

/-- The first count of units that is no finite double any more. -/
def unitsLimit : Nat := Nat.pow 2 2098

/-- Zero carries a sign that comparison does not see. -/
def withoutZeroSign (x : Binary64) : Binary64 := if x.units = 0 then ⟨false, 0⟩ else x

/-- The integer nearest to a quotient; a tie goes to the even neighbour. -/
def divideToEven (num den : Nat) : Nat :=
  let q := num / den
  let r := num % den
  if 2 * r < den then q else if den < 2 * r then q + 1 else q + q % 2

/-- The gap between neighbouring doubles around a count of units. -/
def gap (units : Nat) : Nat := Nat.pow 2 (units.log2 - 52)

/-- The count of units of the double nearest to `num / den` units. -/
def nearest (num den : Nat) : Nat :=
  let ulp := gap (num / den)
  divideToEven num (den * ulp) * ulp

/-- The double nearest to a power of ten, in units. -/
def powerOfTen (n : Nat) : Nat := nearest (Nat.pow 10 n * unitsPerOne) 1

/-- The rounded product of two doubles, in units. -/
def product (a b : Nat) : Nat := nearest (a * b) unitsPerOne

/-- The rounded quotient of two doubles, in units. -/
def quotient (a b : Nat) : Nat := nearest (a * unitsPerOne) b

/-- Scale a double by a power of ten, at most `10³⁰⁸` at a time; none when it grows too large. -/
def scale? (units : Nat) (exponent : Int) : Option Nat :=
  if exponent.natAbs ≤ 308 then
    if 0 ≤ exponent then
      let r := product units (powerOfTen exponent.natAbs)
      if r < unitsLimit then some r else none
    else some (quotient units (powerOfTen exponent.natAbs))
  else if units = 0 then some 0
  else if 0 ≤ exponent then none
  else scale? (quotient units (powerOfTen 308)) (exponent + 308)
termination_by exponent.natAbs
decreasing_by omega

/-- The double of `± significand · 10^exponent`, none when it is too large to be one. -/
def ofScientific? (negative : Bool) (significand : Nat) (exponent : Int) : Option Binary64 :=
  (scale? (nearest (significand * unitsPerOne) 1) exponent).map (⟨negative, ·⟩)

/-- The double nearest to `- n`. -/
def ofNeg (n : Nat) : Binary64 := ⟨true, nearest (n * unitsPerOne) 1⟩

end Binary64

end TokenCatalog
