namespace TokenCatalog.Hex

/-!
# Hexadecimal text — two digits a byte

* `value?` / `Nat.digitChar` — one digit, read in either case, written in lowercase;
* `decode?` / `encode` — a byte sequence, two digits each.

Reading what was written gives the bytes back (`decode?_encode`), and reading accepts exactly an
even number of digits (`isSome_decode?_iff`).
-/

/-- The value of a hexadecimal digit, in either case. -/
def value? (c : Char) : Option Nat :=
  if '0' ≤ c ∧ c ≤ '9' then some (c.toNat - '0'.toNat)
  else if 'a' ≤ c ∧ c ≤ 'f' then some (c.toNat - 'a'.toNat + 10)
  else if 'A' ≤ c ∧ c ≤ 'F' then some (c.toNat - 'A'.toNat + 10)
  else none

/-- A hexadecimal digit, in either case. -/
def isDigit (c : Char) : Bool := (value? c).isSome

/-- Two lowercase digits a byte. -/
def encode : List UInt8 → List Char
  | [] => []
  | b :: bs => (b.toNat / 16).digitChar :: (b.toNat % 16).digitChar :: encode bs

/-- The bytes that pairs of digits spell. -/
def decode? : List Char → Option (List UInt8)
  | [] => some []
  | [_] => none
  | hi :: lo :: rest => do
    let h ← value? hi
    let l ← value? lo
    let bs ← decode? rest
    return UInt8.ofNat (16 * h + l) :: bs

/-- The digit of a number below sixteen has that number as its value. -/
theorem value?_digitChar : ∀ n < 16, value? n.digitChar = some n := by decide

/-- Every byte is written in two digits. -/
theorem length_encode (bs : List UInt8) : (encode bs).length = 2 * bs.length := by
  induction bs with
  | nil => rfl
  | cons b bs ih => simp only [encode, List.length_cons, ih]; omega

/-- What was written is read as it was. -/
theorem decode?_encode (bs : List UInt8) : decode? (encode bs) = some bs := by
  induction bs with
  | nil => rfl
  | cons b bs ih =>
    have hb : b.toNat < 256 := b.toNat_lt
    have hi := value?_digitChar (b.toNat / 16) (by omega)
    have lo := value?_digitChar (b.toNat % 16) (by omega)
    have hsum : 16 * (b.toNat / 16) + b.toNat % 16 = b.toNat := Nat.div_add_mod _ _
    simp only [encode, decode?, hi, lo, ih, Option.bind_eq_bind, Option.bind_some, hsum,
      UInt8.ofNat_toNat, Option.pure_def]

/-- Bytes are read of an even number of digits. -/
theorem isSome_decode?_iff (cs : List Char) :
    (decode? cs).isSome ↔ 2 ∣ cs.length ∧ cs.all isDigit := by
  fun_induction decode? cs with
  | case1 => simp
  | case2 c => simp only [Option.isSome_none, List.length_singleton]; simp
  | case3 hi lo rest ih =>
    have hlen : 2 ∣ (hi :: lo :: rest).length ↔ 2 ∣ rest.length := by
      simp only [List.length_cons]; omega
    rw [hlen]
    cases hh : value? hi <;> cases hl : value? lo <;> cases hr : decode? rest <;>
      simp_all [isDigit]

/-- They are half as many as the digits. -/
theorem length_of_decode? {cs : List Char} {bs : List UInt8} (h : decode? cs = some bs) :
    cs.length = 2 * bs.length := by
  fun_induction decode? cs generalizing bs with
  | case1 => cases h; rfl
  | case2 => simp at h
  | case3 hi lo rest ih =>
    cases hh : value? hi <;> cases hl : value? lo <;> cases hr : decode? rest <;>
      simp [hh, hl, hr] at h
    subst h
    have := ih hr
    simp only [List.length_cons]
    omega

end TokenCatalog.Hex
