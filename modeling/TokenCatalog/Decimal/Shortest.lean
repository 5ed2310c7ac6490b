import TokenCatalog.Decimal.Binary64

namespace TokenCatalog.Binary64

/-!
# Shortest decimals — the fewest digits that read back as the same double

Around a double lies the interval of reals that round to it.  On the decimal grid of one digit, then
two, and so on, only the double's two grid neighbours can lie inside; the first grid with one inside
gives the digits, the nearer neighbour if both are.

* `shortest` — digits and exponent;
* `toText` — positional between `10⁻⁵` and `10¹⁶`, with a signed exponent elsewhere.
-/

/-- A positive decimal `digits · 10^exponent`. -/
structure Scientific where
  digits : Nat
  exponent : Int
  deriving DecidableEq, Repr

/-- The decimal grid of `10^exponent`, as the fraction `step / scale` of a quarter unit. -/
structure Grid where
  step : Nat
  scale : Nat

/-- The grid of `10^exponent`. -/
def Grid.ofExponent (exponent : Int) : Grid :=
  if 0 ≤ exponent then ⟨Nat.pow 10 exponent.natAbs * (4 * unitsPerOne), 1⟩
  else ⟨4 * unitsPerOne, Nat.pow 10 exponent.natAbs⟩

/-- The power of ten of a positive double's first digit. -/
def leadingExponent (units : Nat) : Int :=
  ((Nat.toDigits 10 (units * Nat.pow 10 400 / unitsPerOne)).length : Int) - 401

/-- Whether `d` steps of the grid read back as the double. -/
def readsBack (units : Nat) (g : Grid) (d : Nat) : Bool :=
  let ulp := gap units
  let below := if units = Nat.pow 2 units.log2 ∧ 1 < ulp then ulp else 2 * ulp
  let low := (4 * units - below) * g.scale
  let high := (4 * units + 2 * ulp) * g.scale
  let x := d * g.step
  (low < x && x < high) || ((units / ulp) % 2 == 0 && (low == x || x == high))

/-- The neighbour on the grid that reads back and is nearest, if one does. -/
def onGrid? (units : Nat) (g : Grid) : Option Nat :=
  let x := 4 * units * g.scale
  let d := x / g.step
  match readsBack units g d, readsBack units g (d + 1) with
  | true, true =>
    let under := x - d * g.step
    let above := (d + 1) * g.step - x
    some (if under < above then d else if above < under then d + 1 else d + d % 2)
  | true, false => some d
  | false, true => some (d + 1)
  | false, false => none

/-- The fewest digits that read back as a positive double. -/
def shortest (units : Nat) : Scientific :=
  let top := leadingExponent units
  let found := (List.range 17).findSome? fun (n : Nat) =>
    let exponent := top - (n : Int)
    (onGrid? units (Grid.ofExponent exponent)).map (⟨·, exponent⟩)
  found.getD ⟨units, -1074⟩

/-- A decimal as text: positional while the point is near the digits. -/
def Scientific.toText (s : Scientific) : String :=
  let ds := Nat.toDigits 10 s.digits
  let point : Int := ds.length + s.exponent
  let zeros (n : Nat) := List.replicate n '0'
  let body :=
    if 0 ≤ s.exponent ∧ point ≤ 16 then ds ++ zeros s.exponent.natAbs ++ ['.', '0']
    else if 0 < point ∧ point ≤ 16 then
      ds.take point.natAbs ++ '.' :: ds.drop point.natAbs
    else if -5 < point ∧ point ≤ 0 then '0' :: '.' :: zeros point.natAbs ++ ds
    else
      let mantissa := match ds with
        | d :: e :: rest => d :: '.' :: e :: rest
        | short => short
      let sign := if point ≤ 0 then '-' else '+'
      mantissa ++ 'e' :: sign :: Nat.toDigits 10 (point - 1).natAbs
  String.ofList body

/-- The shortest text that reads back as the double. -/
def toText (x : Binary64) : String :=
  let magnitude := if x.units = 0 then "0.0" else (shortest x.units).toText
  if x.negative then "-" ++ magnitude else magnitude

/-! ### Examples -/

-- Of the doubles around, `0.3` reads back as this one; the least double has one digit.
example : toText ⟨false, 3 * unitsPerOne / 10⟩ = "0.3" ∧ toText ⟨true, 1⟩ = "-5e-324" ∧
    toText ⟨false, 10000000000000000 * unitsPerOne⟩ = "1e+16" := by decide +kernel

end TokenCatalog.Binary64
