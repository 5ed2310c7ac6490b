namespace TokenCatalog.Url

/-!
# Punycode — labels beyond ASCII spelt in ASCII

The characters of a label within ASCII stand first, a hyphen ends them, and what follows are numbers
that say which characters beyond ASCII to insert, and where.

* `decodePunycode?` — the label that a text stands for.

Reading a number takes a character or more (`length_lt_of_numberFrom?`), so that reading ends.
-/

/-- The value of a digit. -/
def punycodeDigit? (c : Char) : Option Nat :=
  if 'a' ≤ c ∧ c ≤ 'z' then some (c.toNat - 'a'.toNat)
  else if 'A' ≤ c ∧ c ≤ 'Z' then some (c.toNat - 'A'.toNat)
  else if '0' ≤ c ∧ c ≤ '9' then some (c.toNat - '0'.toNat + 26)
  else none

/-- Divide a delta by 35 until it is small, and shape the bias from what is left. -/
def biasFrom (k delta : Nat) : Nat :=
  if 455 < delta then biasFrom (k + 36) (delta / 35) else k + 36 * delta / (delta + 38)
termination_by delta

/-- The bias behind a delta in a label of that many characters. -/
def adaptBias (delta count : Nat) (isFirst : Bool) : Nat :=
  let scaled := if isFirst then delta / 700 else delta / 2
  biasFrom 0 (scaled + scaled / count)

/-- The least digit that does not end a number, at its place. -/
def digitThreshold (bias k : Nat) : Nat :=
  if k ≤ bias then 1 else if bias + 26 ≤ k then 26 else k - bias

/-- Numbers, and the weights of their digits, stay below this. -/
def numberLimit : Nat := 4294967296

/-- One number, added to `value`, and what follows it. -/
def numberFrom? (bias weight k value : Nat) : List Char → Option (Nat × List Char)
  | [] => none
  | c :: cs => do
    let digit ← punycodeDigit? c
    let value := value + digit * weight
    let next := weight * (36 - digitThreshold bias k)
    if numberLimit ≤ value then none
    else if digit < digitThreshold bias k then some (value, cs)
    else if numberLimit ≤ next then none
    else numberFrom? bias next (k + 36) value cs

/-- A number takes one digit, at least. -/
theorem length_lt_of_numberFrom? {bias weight k value number : Nat} {cs rest : List Char}
    (h : numberFrom? bias weight k value cs = some (number, rest)) : rest.length < cs.length := by
  induction cs generalizing weight k value with
  | nil => simp [numberFrom?] at h
  | cons c cs ih =>
    rw [numberFrom?] at h
    match hd : punycodeDigit? c with
    | none => simp [hd] at h
    | some digit =>
      simp only [hd, Option.bind_eq_bind, Option.bind_some] at h
      split at h
      · cases h
      · split at h
        · cases h
          exact Nat.lt_succ_self _
        · split at h
          · cases h
          · exact Nat.lt_succ_of_lt (ih h)

/-- Insert the characters that the numbers in `cs` spell into `out`.  Each number tells how far to
    walk from place `i` with code point `n`, where every round through the label makes the code point
    one larger. -/
def insertFrom? (n i bias : Nat) (out cs : List Char) : Option (List Char) :=
  if cs = [] then some out
  else
    match _h : numberFrom? bias 1 36 i cs with
    | none => none
    | some (position, rest) =>
      let count := out.length + 1
      let code := n + position / count
      let place := position % count
      if code.isValidChar then
        insertFrom? code (place + 1) (adaptBias (position - i) count (i == 0))
          (out.take place ++ Char.ofNat code :: out.drop place) rest
      else none
termination_by cs.length
decreasing_by exact length_lt_of_numberFrom? ‹_›

/-- The label that a text stands for; a hyphen in front ends nothing. -/
def decodePunycode? (cs : List Char) : Option (List Char) :=
  let plain := ((cs.reverse.dropWhile (· ≠ '-')).drop 1).reverse
  let numbers := if plain = [] then cs else cs.drop (plain.length + 1)
  insertFrom? 128 0 72 plain numbers

/-! ### Examples -/

-- A label with one letter beyond ASCII, and one that is cut off inside a number.
example : decodePunycode? "bcher-kva".toList = some "bücher".toList ∧
    decodePunycode? "bcher-kv".toList = none ∧ decodePunycode? "-kva".toList = none := by
  decide +kernel

end TokenCatalog.Url
