import TokenCatalog.Text.Numeral
import TokenCatalog.Toml.Scalar

namespace TokenCatalog.Toml

/-!
# TOML dates and times — their fields and their one written form

A date, a time of day, or both; only both together may have an offset from UTC.  Each part has a
fixed count of digits.

* `Datetime.ofChars?` — the date and time that a text spells;
* `Datetime.toText` — a `T` between the two, fractions without zeros at the end;
* `startsDatetime`, `datetimeSpan` — where such a text starts and ends in a document.
-/

/-- A day; no month is too short for it. -/
structure Date where
  year : Nat
  month : Nat
  day : Nat
  deriving DecidableEq, Repr

/-- A time of day. -/
structure Time where
  hour : Nat
  minute : Nat
  second : Nat
  nanosecond : Nat
  deriving DecidableEq, Repr

/-- What separates a time from UTC. -/
inductive Offset where
  | none
  /-- Written as a letter. -/
  | zero
  /-- The sign belongs to the hours. -/
  | shifted (hours : Int) (minutes : Nat)
  deriving DecidableEq, Repr

/-- A date, a time of day, or both. -/
inductive Datetime where
  | date (d : Date)
  | time (t : Time)
  | both (d : Date) (t : Time) (offset : Offset)
  deriving DecidableEq, Repr

/-! ### Reading -/

/-- The number that exactly `n` digits spell. -/
def digitsFrom? (n : Nat) (cs : List Char) : Option (Nat × List Char) :=
  let ds := cs.take n
  if ds.length = n ∧ ds.all Char.isDigit then some (Nat.ofDigitChars 10 ds 0, cs.drop n) else none

/-- What follows a given character. -/
def mark? (c : Char) : List Char → Option (List Char)
  | d :: cs => if c = d then some cs else none
  | [] => none

/-- A date in front. -/
def Date.from? (cs : List Char) : Option (Date × List Char) := do
  let (year, cs) ← digitsFrom? 4 cs
  let (month, cs) ← digitsFrom? 2 (← mark? '-' cs)
  let (day, cs) ← digitsFrom? 2 (← mark? '-' cs)
  if 1 ≤ month ∧ month ≤ 12 ∧ 1 ≤ day ∧ day ≤ 31 then some (⟨year, month, day⟩, cs) else none

/-- The nanoseconds of a fraction's digits, of which nine count. -/
def nanoseconds (ds : List Char) : Nat :=
  let counted := ds.take 9
  Nat.ofDigitChars 10 (counted ++ List.replicate (9 - counted.length) '0') 0

/-- A time of day in front. -/
def Time.from? (cs : List Char) : Option (Time × List Char) := do
  let (hour, cs) ← digitsFrom? 2 cs
  let (minute, cs) ← digitsFrom? 2 (← mark? ':' cs)
  let (second, cs) ← digitsFrom? 2 (← mark? ':' cs)
  if 24 < hour ∨ 59 < minute ∨ 59 < second then none
  else
    match cs with
    | '.' :: more =>
      let ds := more.takeWhile Char.isDigit
      if ds = [] then none
      else some (⟨hour, minute, second, nanoseconds ds⟩, more.dropWhile Char.isDigit)
    | _ => some (⟨hour, minute, second, 0⟩, cs)

/-- The offset that a text spells. -/
def Offset.ofChars? : List Char → Option Offset
  | [] => some .none
  | ['Z'] => some .zero
  | ['z'] => some .zero
  | sign :: cs => do
    let (hours, cs) ← digitsFrom? 2 cs
    let (minutes, cs) ← digitsFrom? 2 (← mark? ':' cs)
    if cs ≠ [] then none
    else if sign = '+' then some (.shifted hours minutes)
    else if sign = '-' then some (.shifted (-hours) minutes)
    else none

/-- The date and time that a text spells; one with a colon behind two characters has no date. -/
def Datetime.ofChars? (cs : List Char) : Option Datetime :=
  if cs[2]? = some ':' then
    match Time.from? cs with
    | some (t, []) => some (.time t)
    | _ => none
  else
    match Date.from? cs with
    | some (d, []) => some (.date d)
    | some (d, c :: rest) =>
      if c = 'T' ∨ c = 't' ∨ c = ' ' then do
        let (t, rest) ← Time.from? rest
        return .both d t (← Offset.ofChars? rest)
      else none
    | none => none

/-! ### Writing -/

open Numeral (padded)

/-- Four digits and two by two. -/
def Date.toText (d : Date) : String := s!"{padded 4 d.year}-{padded 2 d.month}-{padded 2 d.day}"

/-- A fraction behind a point, without zeros at the end. -/
def fractionText (nanosecond : Nat) : String :=
  let ds := ((padded 9 nanosecond).toList.reverse.dropWhile (· == '0')).reverse
  if ds = [] then "" else String.ofList ('.' :: ds)

/-- Two digits each, and a fraction. -/
def Time.toText (t : Time) : String :=
  s!"{padded 2 t.hour}:{padded 2 t.minute}:{padded 2 t.second}" ++ fractionText t.nanosecond

/-- A `Z`, or a sign with two digits each; no hours have a plus sign. -/
def Offset.toText : Offset → String
  | .none => ""
  | .zero => "Z"
  | .shifted hours minutes =>
    (if hours < 0 then "-" else "+") ++ s!"{padded 2 hours.natAbs}:{padded 2 minutes}"

/-- The one written form of a date and time. -/
def Datetime.toText : Datetime → String
  | .date d => d.toText
  | .time t => t.toText
  | .both d t offset => d.toText ++ "T" ++ t.toText ++ offset.toText

/-! ### In a document -/

/-- Whether a word in front of a value starts a date or a time. -/
def startsDatetime (word rest : List Char) : Bool :=
  let pairs := word.zip word.tail
  word.contains 'T' || word.contains 't' || rest.head? == some ':' ||
    (word.tail.contains '-' && !pairs.contains ('e', '-') && !pairs.contains ('E', '-'))

/-- The characters of a date and time that starts with a word: the hour behind a space, then minutes,
    seconds and an offset behind colons, points and plus signs. -/
def datetimeSpan (word rest : List Char) : List Char × List Char :=
  let (word, rest) := match rest with
    | ' ' :: c :: more =>
      if isBare c then
        (word ++ ' ' :: c :: more.takeWhile isBare, more.dropWhile isBare)
      else (word, rest)
    | _ => (word, rest)
  if rest.head? = some ':' then
    let isPart (c : Char) := isBare c || c == ':' || c == '.' || c == '+'
    (word ++ rest.takeWhile isPart, rest.dropWhile isPart)
  else (word, rest)

/-! ### Examples -/

-- Half an hour west of UTC loses its sign, and so do zeros behind the point and small letters.
example : (Datetime.ofChars? "1979-05-27t00:32:00.500-00:30".toList).map Datetime.toText =
      some "1979-05-27T00:32:00.5+00:30" ∧
    (Datetime.ofChars? "07:32:00.000".toList).map Datetime.toText = some "07:32:00" ∧
    (Datetime.ofChars? "1979-02-31".toList).isSome ∧
    (Datetime.ofChars? "07:32:00Z".toList).isNone := by decide +kernel

end TokenCatalog.Toml
