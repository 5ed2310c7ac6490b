import TokenCatalog.Text.NormalTable

namespace TokenCatalog.Text

/-!
# Normal form — one spelling for texts that look the same

A text is taken apart into letters and marks, the marks behind each letter are put in order, and
what makes up one character is put together again.  The result is the normalization form C of
Unicode.

* `decompose` — the letters and marks of a character;
* `orderMarks` — marks behind a letter in the order of their classes;
* `compose` — letters joined with their marks;
* `normalize` — all three.
-/

/-- The class by which a mark is ordered behind a letter; zero for anything else. -/
def combiningClass (c : Char) : Nat :=
  if c.toNat < 0x300 then 0
  else ((Run.find? combiningClassRuns c).bind (·.values.head?)).getD 0

/-! ### Hangul syllables -/

/-- The first code point of the leading consonants. -/
def hangulLead : Nat := 0x1100

/-- The first code point of the vowels, of which there are 21. -/
def hangulVowel : Nat := 0x1161

/-- The code point before the 27 trailing consonants. -/
def hangulTrail : Nat := 0x11A7

/-- The first of the 11172 syllables. -/
def hangulSyllable : Nat := 0xAC00

/-- The consonants and the vowel of a syllable. -/
def hangulParts (n : Nat) : List Nat :=
  let i := n - hangulSyllable
  let start := [hangulLead + i / 588, hangulVowel + i % 588 / 28]
  if i % 28 = 0 then start else start ++ [hangulTrail + i % 28]

/-- The syllable of a consonant and a vowel, or of a syllable that lacks its last consonant. -/
def hangulComposite? (a b : Nat) : Option Nat :=
  if hangulLead ≤ a ∧ a < hangulLead + 19 ∧ hangulVowel ≤ b ∧ b < hangulVowel + 21 then
    some (hangulSyllable + ((a - hangulLead) * 21 + (b - hangulVowel)) * 28)
  else if hangulSyllable ≤ a ∧ a < hangulSyllable + 11172 ∧ (a - hangulSyllable) % 28 = 0 ∧
      hangulTrail < b ∧ b < hangulTrail + 28 then
    some (a + (b - hangulTrail))
  else none

/-! ### Taking apart -/

/-- The letters and marks of a code point; `fuel` bounds the steps, of which none needs more than
    four. -/
def decomposeIn (fuel : Nat) (n : Nat) : List Nat :=
  match fuel with
  | 0 => [n]
  | fuel + 1 =>
    if hangulSyllable ≤ n ∧ n < hangulSyllable + 11172 then hangulParts n
    else
      match decompositionRuns.find? (·.covers n) with
      | some r => (r.valuesAt n).flatMap (decomposeIn fuel)
      | none => [n]

/-- The letters and marks of a character. -/
def decompose (c : Char) : List Char :=
  if c.toNat < 0x80 then [c] else (decomposeIn 4 c.toNat).map Char.ofNat

/-- Put a character before marks, behind those of a lower class. -/
def insertMark (c : Char) : List Char → List Char
  | [] => [c]
  | d :: ds =>
    if combiningClass d ≠ 0 ∧ combiningClass d < combiningClass c then d :: insertMark c ds
    else c :: d :: ds

/-- Marks behind a letter in the order of their classes; equal ones keep their order. -/
def orderMarks : List Char → List Char
  | [] => []
  | c :: cs => insertMark c (orderMarks cs)

/-! ### Putting together -/

/-- The character that two others make up. -/
def composite? (a b : Char) : Option Char :=
  if b.toNat < 0x300 then none
  else
    match hangulComposite? a.toNat b.toNat with
    | some n => some (Char.ofNat n)
    | none =>
      let made := decompositionRuns.find? fun r => r.values == [a.toNat, b.toNat]
      match made.map fun r => Char.ofNat r.first with
      | some c => if inRanges exclusionRanges c then none else some c
      | none => none

/-- Join a letter with what follows.  The marks in `kept` stay behind it, and one that follows joins
    only if its class is above theirs. -/
def composeBehind (letter : Char) (kept : List Char) (highest : Nat) : List Char → List Char
  | [] => letter :: kept
  | c :: cs =>
    let cls := combiningClass c
    match if kept = [] ∨ highest < cls then composite? letter c else none with
    | some made => composeBehind made kept highest cs
    | none =>
      if cls = 0 then letter :: kept ++ composeBehind c [] 0 cs
      else composeBehind letter (kept ++ [c]) cls cs

/-- Letters joined with their marks; marks before the first letter stay. -/
def compose : List Char → List Char
  | [] => []
  | c :: cs => if combiningClass c = 0 then composeBehind c [] 0 cs else c :: compose cs

/-- The one spelling of a text; a text in ASCII is its own. -/
def normalize (cs : List Char) : List Char :=
  if cs.all (·.toNat < 0x80) then cs else compose (orderMarks (cs.flatMap decompose))

/-! ### Examples -/

-- A Hangul syllable with a last consonant is made in two steps.
example : hangulParts 0xD55C = [0x1112, 0x1161, 0x11AB] ∧
    hangulComposite? 0x1112 0x1161 = some 0xD558 ∧ hangulComposite? 0xD558 0x11AB = some 0xD55C := by
  decide +kernel

end TokenCatalog.Text
