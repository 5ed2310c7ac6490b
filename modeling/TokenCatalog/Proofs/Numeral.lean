import TokenCatalog.Text.Numeral

namespace TokenCatalog.Numeral

/-!
# Numerals — digits and the numbers that they spell

* `SpelledBy`, `naturalOfChars?_eq_some_iff` — which characters are a numeral;
* `toDigits_of_spells`, `head?_toDigits` — digits without a leading zero are those of their number.
-/

/-- Decimal digits, at least one, and the number that they spell. -/
structure Spells (ds : List Char) (n : Nat) : Prop where
  nonempty : ds ≠ []
  decimal : ∀ d ∈ ds, '0' ≤ d ∧ d ≤ '9'
  value : Nat.ofDigitChars 10 ds 0 = n

/-- A numeral: digits, and at most one plus sign in front. -/
inductive SpelledBy (n : UInt64) : List Char → Prop
  | plain {ds : List Char} (digits : Spells ds n.toNat) : SpelledBy n ds
  | signed {ds : List Char} (digits : Spells ds n.toNat) : SpelledBy n ('+' :: ds)

variable {n : UInt64} {cs ds : List Char}

theorem isDigit_iff {d : Char} : d.isDigit = true ↔ '0' ≤ d ∧ d ≤ '9' := by
  simp only [Char.isDigit, Bool.and_eq_true, decide_eq_true_eq]
  exact Iff.rfl

theorem all_isDigit_iff : ds.all Char.isDigit = true ↔ ∀ d ∈ ds, '0' ≤ d ∧ d ≤ '9' := by
  simp only [List.all_eq_true, isDigit_iff]

/-- What is left without a plus sign are digits if the whole is a numeral. -/
theorem spells_unsigned_iff : Spells (unsigned cs) n.toNat ↔ SpelledBy n cs := by
  constructor
  · intro h
    unfold unsigned at h
    split at h
    · exact .signed h
    · exact .plain h
  · intro h
    cases h with
    | signed digits => exact digits
    | plain digits =>
      -- A plus sign is no digit, so nothing is taken off.
      rw [unsigned_of_isDigit (all_isDigit_iff.2 digits.decimal)]
      exact digits

/-- **A numeral is read** if it is digits with at most one plus sign, and its value fits. -/
theorem naturalOfChars?_eq_some_iff : naturalOfChars? cs = some n ↔ SpelledBy n cs := by
  rw [← spells_unsigned_iff, naturalOfChars?]
  constructor
  · intro h
    split at h
    · rename_i hds
      obtain ⟨hne, hdigits, hlt⟩ := hds
      refine ⟨hne, all_isDigit_iff.1 hdigits, ?_⟩
      rw [← Option.some.inj h, UInt64.toNat_ofNat_of_lt' hlt]
    · cases h
  · rintro ⟨hne, hdecimal, hvalue⟩
    have hfits : Nat.ofDigitChars 10 (unsigned cs) 0 < UInt64.size := by
      rw [hvalue]
      exact n.toNat_lt
    rw [if_pos ⟨hne, all_isDigit_iff.2 hdecimal, hfits⟩, hvalue, UInt64.ofNat_toNat]

/-! ### Digits without a leading zero -/

theorem digitChar_eq : ∀ k < 10, k.digitChar = Char.ofNat ('0'.toNat + k) := by decide

/-- A digit is the one that its value is written with. -/
theorem digitChar_of_digit {d : Char} (h : '0' ≤ d ∧ d ≤ '9') :
    d.toNat - '0'.toNat < 10 ∧ (d.toNat - '0'.toNat).digitChar = d := by
  have hfirst : '0'.toNat ≤ d.toNat := h.1
  have hlast : d.toNat ≤ '0'.toNat + 9 := h.2
  have hlt : d.toNat - '0'.toNat < 10 := by omega
  refine ⟨hlt, ?_⟩
  rw [digitChar_eq _ hlt, Nat.add_sub_cancel' hfirst, Char.ofNat_toNat]

/-- Behind a number that is not zero, digits stay as they are. -/
theorem toDigits_ofDigitChars (hdecimal : ∀ d ∈ ds, '0' ≤ d ∧ d ≤ '9') {m : Nat} (hm : 0 < m) :
    Nat.toDigits 10 (Nat.ofDigitChars 10 ds m) = Nat.toDigits 10 m ++ ds := by
  induction ds generalizing m with
  | nil => simp
  | cons d ds ih =>
    obtain ⟨hd, hds⟩ := List.forall_mem_cons.1 hdecimal
    obtain ⟨hlt, hchar⟩ := digitChar_of_digit hd
    rw [Nat.ofDigitChars_cons, ih hds (by omega),
      ← Nat.toDigits_append_toDigits (by omega) hm hlt, Nat.toDigits_of_lt_base hlt, hchar]
    simp

/-- **Digits without a leading zero are those of their number**; zero itself is one digit. -/
theorem toDigits_of_spells {m : Nat} (h : Spells ds m) (hzero : ds.head? = some '0' → ds = ['0']) :
    Nat.toDigits 10 m = ds := by
  obtain ⟨hne, hdecimal, rfl⟩ := h
  obtain ⟨d, rest, rfl⟩ := List.exists_cons_of_ne_nil hne
  obtain ⟨hd, hrest⟩ := List.forall_mem_cons.1 hdecimal
  obtain ⟨hlt, hchar⟩ := digitChar_of_digit hd
  -- A zero in front must be the whole numeral; any other digit makes the rest count on from it.
  by_cases h0 : d = '0'
  · subst h0
    cases hzero rfl
    decide
  · have hpos : 0 < d.toNat - '0'.toNat := by
      have hfirst : '0'.toNat ≤ d.toNat := hd.1
      have hd0 : d.toNat ≠ '0'.toNat := fun he => h0 (Char.toNat_inj.1 he)
      omega
    rw [Nat.ofDigitChars_cons, Nat.mul_zero, Nat.zero_add, toDigits_ofDigitChars hrest hpos,
      Nat.toDigits_of_lt_base hlt, hchar]
    rfl

/-- A number is written without a leading zero. -/
theorem head?_toDigits (m : Nat) (h : (Nat.toDigits 10 m).head? = some '0') :
    Nat.toDigits 10 m = ['0'] := by
  induction m using Nat.strongRecOn with
  | ind m ih =>
    by_cases hm : m < 10
    · rw [Nat.toDigits_of_lt_base hm] at h ⊢
      rw [Option.some.inj h]
    · obtain ⟨d, ds, hds⟩ := List.exists_cons_of_ne_nil (Nat.toDigits_ne_nil (n := m / 10) (b := 10))
      rw [Nat.toDigits_of_base_le (by omega) (by omega), hds] at h
      -- The digits in front would be those of zero.
      have hdigits := ih (m / 10) (by omega) (by rw [hds]; exact h)
      have hvalue : Nat.ofDigitChars 10 ['0'] 0 = m / 10 := by
        rw [← hdigits, Nat.ofDigitChars_ten_toDigits]
      have hzero : Nat.ofDigitChars 10 ['0'] 0 = 0 := rfl
      omega

theorem spells_toDigits (m : Nat) : Spells (Nat.toDigits 10 m) m where
  nonempty := Nat.toDigits_ne_nil
  decimal d hd := isDigit_iff.1 (Nat.isDigit_of_mem_toDigits (by omega) (by omega) hd)
  value := Nat.ofDigitChars_ten_toDigits

end TokenCatalog.Numeral
