import TokenCatalog.Text.Numeral

namespace TokenCatalog

open Numeral (padded)

/-!
# Moments — points in time and their RFC 3339 text

* `Moment` — seconds since 1970 in UTC, and whether it lies in a leap second;
* `Moment.toText` — `YYYY-MM-DDThh:mm:ssZ`, whole seconds, a sign on years that need one.
-/

/-- A second of UTC since 1970-01-01; a leap second belongs to the second before it. -/
structure Moment where
  seconds : Int
  inLeapSecond : Bool := false
  deriving DecidableEq, Repr, Inhabited

namespace Moment

/-- Whether a number of seconds since 1970 lies in the calendar, which has the years from -262143 to
    262142. -/
def isInCalendar (seconds : Int) : Bool :=
  -8334601228800 ≤ seconds && seconds ≤ 8210266876799

/-- A day of the proleptic Gregorian calendar. -/
structure Day where
  year : Int
  month : Nat
  dayOfMonth : Nat
  deriving DecidableEq, Repr

/-- The day that lies `n` days after 1970-01-01.  Years are counted from March, so that the leap day
    ends one, in eras of 400 years. -/
def dayOfEpoch (n : Int) : Day :=
  let z := n + 719468
  let era := z.fdiv 146097
  let dayOfEra := (z - era * 146097).toNat
  let yearOfEra :=
    (dayOfEra - dayOfEra / 1460 + dayOfEra / 36524 - dayOfEra / 146096) / 365
  let dayOfYear := dayOfEra - (365 * yearOfEra + yearOfEra / 4 - yearOfEra / 100)
  let monthFromMarch := (5 * dayOfYear + 2) / 153
  let dayOfMonth := dayOfYear - (153 * monthFromMarch + 2) / 5 + 1
  let month := if monthFromMarch < 10 then monthFromMarch + 3 else monthFromMarch - 9
  let year := era * 400 + yearOfEra + (if month ≤ 2 then 1 else 0)
  ⟨year, month, dayOfMonth⟩

/-- Four digits, or a sign and at least four. -/
def yearText (y : Int) : String :=
  if 0 ≤ y ∧ y ≤ 9999 then padded 4 y.natAbs
  else (if y < 0 then "-" else "+") ++ padded 4 y.natAbs

/-- The text of a moment. -/
def toText (t : Moment) : String :=
  let day := dayOfEpoch (t.seconds.fdiv 86400)
  let second := (t.seconds.fmod 86400).toNat
  let shown := second % 60 + (if t.inLeapSecond then 1 else 0)
  s!"{yearText day.year}-{padded 2 day.month}-{padded 2 day.dayOfMonth}T" ++
    s!"{padded 2 (second / 3600)}:{padded 2 (second / 60 % 60)}:{padded 2 shown}Z"

/-! ### Examples -/

-- The second before the year 0 needs a sign; a leap second is the sixtieth of its minute.
example : toText ⟨1700000000, false⟩ = "2023-11-14T22:13:20Z" ∧
    toText ⟨-62167219201, false⟩ = "-0001-12-31T23:59:59Z" ∧
    toText ⟨951782399, true⟩ = "2000-02-28T23:59:60Z" := by decide +kernel

end Moment

end TokenCatalog
