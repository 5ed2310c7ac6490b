namespace TokenCatalog

/-!
# Durations — spans of time in nanoseconds

* `Duration` — with whole seconds and the nanoseconds beside them;
* `Duration.toText` — in the largest unit that leaves a whole part, without trailing zeros.
-/

/-- A span of time. -/
structure Duration where
  nanoseconds : Nat
  deriving DecidableEq, Repr, Inhabited

namespace Duration

/-- The given number of seconds. -/
def ofSeconds (n : Nat) : Duration := ⟨n * 1000000000⟩

/-- The given number of milliseconds. -/
def ofMilliseconds (n : Nat) : Duration := ⟨n * 1000000⟩

/-- The whole seconds of a span. -/
def seconds (d : Duration) : Nat := d.nanoseconds / 1000000000

/-- The nanoseconds beside the whole seconds. -/
def subsecond (d : Duration) : Nat := d.nanoseconds % 1000000000

/-- The whole milliseconds of a span. -/
def milliseconds (d : Duration) : Nat := d.nanoseconds / 1000000

instance : LE Duration := ⟨fun a b => a.nanoseconds ≤ b.nanoseconds⟩

instance : LT Duration := ⟨fun a b => a.nanoseconds < b.nanoseconds⟩

instance (a b : Duration) : Decidable (a ≤ b) :=
  inferInstanceAs (Decidable (a.nanoseconds ≤ b.nanoseconds))

instance (a b : Duration) : Decidable (a < b) :=
  inferInstanceAs (Decidable (a.nanoseconds < b.nanoseconds))

@[simp] theorem seconds_ofSeconds (n : Nat) : (ofSeconds n).seconds = n := by
  simp [seconds, ofSeconds]

/-- A whole part and the digits of what is left of one unit, without zeros at the end. -/
def decimalText (whole rest places : Nat) (unit : String) : String :=
  let ds := Nat.toDigits 10 rest
  let digits := List.replicate (places - ds.length) '0' ++ ds
  let shown := (digits.reverse.dropWhile (· == '0')).reverse
  let fraction := if rest = 0 then "" else "." ++ String.ofList shown
  s!"{whole}{fraction}{unit}"

/-- The text of a span. -/
def toText (d : Duration) : String :=
  let n := d.nanoseconds
  if 1000000000 ≤ n then decimalText (n / 1000000000) (n % 1000000000) 9 "s"
  else if 1000000 ≤ n then decimalText (n / 1000000) (n % 1000000) 6 "ms"
  else if 1000 ≤ n then decimalText (n / 1000) (n % 1000) 3 "µs"
  else s!"{n}ns"

/-! ### Examples -/

-- The largest unit that leaves a whole part, and no zeros at the end.
example : (ofMilliseconds 1500).toText = "1.5s" ∧ (⟨1000001⟩ : Duration).toText = "1.000001ms" ∧
    (⟨999⟩ : Duration).toText = "999ns" := by decide +kernel

end Duration

end TokenCatalog
