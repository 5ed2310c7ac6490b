import TokenCatalog.Text.Hex
import TokenCatalog.Text.Split

namespace TokenCatalog.Text

/-!
# Tables — what is known of runs of code points

* `inRanges` — whether a character lies in one of several ranges;
* `Run` — code points of a range, and what they stand for;
* `Run.table` — the runs that a text spells, for tables too long to be listed as data;
* `Run.find?` — the run of a character.

In such a text, words stand between blanks.  The word `C0-DE=E0+` says that U+00C0 stands for U+00E0
and so on up to U+00DE; without the plus sign, all would stand for the same.  The word
`100-12E/2=101+` skips every other code point, and `C0=41,300` gives one character two to stand for.
-/

/-- Whether a character lies in one of several ranges. -/
def inRanges (ranges : List (Nat × Nat)) (c : Char) : Bool :=
  ranges.any fun r => r.1 ≤ c.toNat && c.toNat ≤ r.2

/-- Every `stride`-th code point from `first` to `last`, and what it stands for. -/
structure Run where
  first : Nat
  last : Nat
  stride : Nat
  values : List Nat
  /-- Whether the values grow with the code point. -/
  grows : Bool
  deriving DecidableEq, Repr

namespace Run

/-- Whether a code point belongs to a run. -/
def covers (r : Run) (n : Nat) : Bool :=
  r.first ≤ n && n ≤ r.last && (n - r.first) % r.stride == 0

/-- What a code point of a run stands for. -/
def valuesAt (r : Run) (n : Nat) : List Nat :=
  if r.grows then r.values.map (· + (n - r.first)) else r.values

/-- The run of a character. -/
def find? (runs : List Run) (c : Char) : Option Run := List.find? (·.covers c.toNat) runs

/-! ### Spelling -/

/-- The number that hexadecimal digits spell. -/
def number (cs : List Char) : Nat := cs.foldl (fun n c => 16 * n + (Hex.value? c).getD 0) 0

/-- What stands before a mark, and what behind it. -/
def cut (mark : Char) (cs : List Char) : List Char × List Char :=
  (cs.takeWhile (· ≠ mark), (cs.dropWhile (· ≠ mark)).drop 1)

/-- The run that a word spells. -/
def ofWord (word : List Char) : Run :=
  let (codes, values) := cut '=' word
  let (range, stride) := cut '/' codes
  let (first, last) := cut '-' range
  let (values, plus) := if values.getLast? = some '+' then (values.dropLast, true) else (values, false)
  { first := number first
    last := number (if last = [] then first else last)
    stride := if stride = [] then 1 else number stride
    values := if values = [] then [] else (split (· == ',') values).map number
    grows := plus }

/-- The runs that a text spells. -/
def table (s : String) : List Run := (words s.toList).map ofWord

/-! ### Examples -/

-- Every other code point up to U+012E stands for the next one.
example : ofWord "100-12E/2=101+".toList = ⟨0x100, 0x12E, 2, [0x101], true⟩ ∧
    (ofWord "100-12E/2=101+".toList).valuesAt 0x102 = [0x103] ∧
    (ofWord "100-12E/2=101+".toList).covers 0x103 = false := by decide +kernel

end Run

end TokenCatalog.Text
