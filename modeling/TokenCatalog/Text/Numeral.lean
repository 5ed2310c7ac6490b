namespace TokenCatalog.Numeral

/-!
# Numerals — unsigned integers of 64 bits as text

* `natural?` — digits with at most one plus sign in front, leading zeros allowed;
* `ofNatural` — the shortest such text;
* `padded` — digits up to a width.
-/

/-- The digits of a numeral without its plus sign. -/
def unsigned : List Char → List Char
  | '+' :: cs => cs
  | cs => cs

/-- The value of a numeral below `2⁶⁴`. -/
def naturalOfChars? (cs : List Char) : Option UInt64 :=
  let ds := unsigned cs
  if ds ≠ [] ∧ ds.all Char.isDigit ∧ Nat.ofDigitChars 10 ds 0 < UInt64.size then
    some (UInt64.ofNat (Nat.ofDigitChars 10 ds 0))
  else none

/-- The value of a numeral below `2⁶⁴`. -/
def natural? (s : String) : Option UInt64 := naturalOfChars? s.toList

/-- The decimal digits of a number. -/
def ofNatural (n : UInt64) : List Char := Nat.toDigits 10 n.toNat

/-- Digits with zeros in front up to a width. -/
def padded (width n : Nat) : String :=
  let ds := Nat.toDigits 10 n
  String.ofList (List.replicate (width - ds.length) '0' ++ ds)

/-- Digits have no sign that could be taken off. -/
theorem unsigned_of_isDigit {cs : List Char} (h : cs.all Char.isDigit) : unsigned cs = cs := by
  unfold unsigned
  split
  · simp [Char.isDigit] at h
  · rfl

theorem all_isDigit_ofNatural (n : UInt64) : (ofNatural n).all Char.isDigit :=
  List.all_eq_true.2 fun _ hc => Nat.isDigit_of_mem_toDigits (by omega) (by omega) hc

/-- A number is read as it was written. -/
theorem naturalOfChars?_ofNatural (n : UInt64) : naturalOfChars? (ofNatural n) = some n := by
  have hd := all_isDigit_ofNatural n
  have hne : ofNatural n ≠ [] := Nat.toDigits_ne_nil
  have hv : Nat.ofDigitChars 10 (ofNatural n) 0 = n.toNat := Nat.ofDigitChars_ten_toDigits
  simp only [naturalOfChars?, unsigned_of_isDigit hd, hd, hv, n.toNat_lt, hne, ne_eq,
    not_false_eq_true, and_self, if_true, UInt64.ofNat_toNat]

-- One plus sign and leading zeros are fine; a minus sign, nothing at all, or 2⁶⁴ is not.
example : natural? "+007" = some 7 ∧ natural? "-1" = none ∧ natural? "" = none ∧
    natural? "18446744073709551616" = none := by decide +kernel

end TokenCatalog.Numeral
