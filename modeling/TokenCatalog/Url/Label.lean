import TokenCatalog.Text.Direction
import TokenCatalog.Text.Joining
import TokenCatalog.Text.Normal
import TokenCatalog.Url.DomainTable
import TokenCatalog.Url.Punycode

namespace TokenCatalog.Url

/-!
# Labels — what may stand between the dots of a domain

* `mapChar?` — what a character of a host name stands for in a domain;
* `label?` — a label with its Punycode read, if it may stand in a domain;
* `keepsDirection` — whether a label can be read in a domain with text from right to left.
-/

/-- A character beyond ASCII. -/
def isBeyondAscii (c : Char) : Bool := 0x80 ≤ c.toNat

/-- ASCII characters that no domain holds. -/
def isDenied (c : Char) : Bool :=
  c.toNat ≤ 0x20 || c.toNat == 0x7F ||
    ['%', '#', '/', ':', '<', '>', '?', '@', '[', '\\', ']', '^', '|'].contains c

/-- What a character of a host name stands for in a domain; none for one that no domain holds. -/
def mapChar? (c : Char) : Option (List Char) :=
  if !isBeyondAscii c then some [c.toLower]
  else
    match Text.Run.find? mappedRuns c with
    | some r => some ((r.valuesAt c.toNat).map Char.ofNat)
    | none =>
      if Text.inRanges ignoredRanges c then some []
      else if (Text.Run.find? refusedRuns c).isSome then none
      else some [c]

/-! ### Joiners -/

/-- Makes letters connect. -/
def joiner : Char := '\u200D'

/-- Keeps letters apart. -/
def nonJoiner : Char := '\u200C'

/-- Whether every joiner in a label has something to do: behind a virama, and a non-joiner also
    between letters that connect. -/
def keepsJoiners (before : List Char) : List Char → Bool
  | [] => true
  | c :: cs =>
    let isUseful := (before.head?.any (Text.combiningClass · == 9)) ||
      (c == nonJoiner && Text.joinsAcross before cs)
    ((c ≠ joiner && c ≠ nonJoiner) || isUseful) && keepsJoiners (c :: before) cs

/-! ### Directions -/

open Text (Direction)

/-- Whether a label can be read in a domain with text from right to left.  Its first letter gives the
    direction; no letter of the other direction follows, the end is a letter or a digit, and digits of
    two kinds do not mix. -/
def keepsDirection : List Char → Bool
  | [] => true
  | c :: cs =>
    let behind := cs.map Direction.ofChar
    let tail := behind.reverse.dropWhile (· == .mark)
    match Direction.ofChar c with
    | .left =>
      tail.all [.left, .digit, .neutral, .mark].contains &&
        tail.head?.all [Direction.left, .digit].contains
    | .right =>
      tail.all [.right, .digit, .arabicDigit, .neutral, .mark].contains &&
        tail.head?.all [Direction.right, .digit, .arabicDigit].contains &&
        !(tail.contains .digit && tail.contains .arabicDigit)
    | _ => false

/-- A character that makes the whole domain mind its directions. -/
def isRightToLeft (c : Char) : Bool :=
  0x590 ≤ c.toNat && [Direction.right, .arabicDigit].contains (Direction.ofChar c)

/-! ### Labels -/

/-- The longest label beyond ASCII. -/
def labelLimit : Nat := 1000

/-- The longest text of a label in Punycode. -/
def punycodeLimit : Nat := 2000

/-- Whether a label without Punycode may stand in a domain. -/
def isLabel (cs : List Char) : Bool :=
  !cs.any isDenied &&
    (!cs.any isBeyondAscii ||
      (!cs.head?.any Text.isMark && keepsJoiners [] cs && cs.length ≤ labelLimit))

/-- The label that Punycode stands for.  It must need the Punycode, and be what it is mapped to. -/
def punycodeLabel? (cs : List Char) : Option (List Char) :=
  if cs.any isBeyondAscii ∨ punycodeLimit < cs.length then none
  else do
    let label ← decodePunycode? cs
    let isMapped := label.all (fun c => mapChar? c == some [c]) && Text.normalize label == label
    if label.any isBeyondAscii ∧ isMapped ∧ isLabel label then some label else none

/-- A label with its Punycode read, if it may stand in a domain. -/
def label? (cs : List Char) : Option (List Char) :=
  match cs with
  | 'x' :: 'n' :: '-' :: '-' :: rest => punycodeLabel? rest
  | _ => if isLabel cs then some cs else none

/-! ### Examples -/

-- A Hebrew letter may be followed by a digit, but not by a Latin letter or by digits of two kinds.
example : keepsDirection ['א', '1'] = true ∧ keepsDirection ['א', 'a'] = false ∧
    keepsDirection ['א', '1', '\u0660'] = false ∧ keepsDirection ['1', 'א'] = false := by
  decide +kernel

-- A denied character, and Punycode that stands for nothing beyond ASCII.
example : label? ['a', '%'] = none ∧ label? ['x', 'n', '-', '-', 'a', '-'] = none ∧
    label? [] = some [] := by decide +kernel

end TokenCatalog.Url
