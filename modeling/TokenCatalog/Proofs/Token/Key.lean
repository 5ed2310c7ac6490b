import TokenCatalog.Proofs.Numeral
import TokenCatalog.Proofs.Text

namespace TokenCatalog

/-!
# Keys — which texts are keys, and how a key is written

A key is read leniently and written in one way: of all texts with the same chain and the same
address, one is canonical.

* `Key.SpelledBy`, `Key.decode?_eq_some_iff` — which texts are keys, and of what;
* `Key.IsCanonical`, `Key.eq_encode_of_isCanonical` — how keys are written;
* `Key.codec` — **main result**: reading and writing keys.
-/

/-! ### Hexadecimal digits in either case -/

namespace Hex

theorem value?_capital :
    ∀ k < 26, value? (Char.ofNat ('A'.toNat + k)).toLower = value? (Char.ofNat ('A'.toNat + k)) := by
  decide

/-- The case of a digit does not matter. -/
theorem value?_toLower (c : Char) : value? c.toLower = value? c := by
  by_cases hupper : c.val ≥ 'A'.val ∧ c.val ≤ 'Z'.val
  · have hfirst : 'A'.toNat ≤ c.toNat := hupper.1
    have hlast : c.toNat ≤ 'A'.toNat + 25 := hupper.2
    have hcapital := value?_capital (c.toNat - 'A'.toNat) (by omega)
    rwa [Nat.add_sub_cancel' hfirst, Char.ofNat_toNat] at hcapital
  · have hlower : c.toLower = c := dif_neg hupper
    rw [hlower]

theorem decode?_map_toLower (cs : List Char) : decode? (cs.map Char.toLower) = decode? cs := by
  fun_induction decode? cs with
  | case1 => rfl
  | case2 => rfl
  | case3 hi lo rest ih => simp only [List.map_cons, decode?, value?_toLower, ih]

theorem lowercase_digitChar :
    ∀ n < 16, ('0' ≤ n.digitChar ∧ n.digitChar ≤ '9') ∨ ('a' ≤ n.digitChar ∧ n.digitChar ≤ 'f') := by
  decide

/-- Bytes are written in lowercase. -/
theorem lowercase_encode (bs : List UInt8) :
    ∀ d ∈ encode bs, ('0' ≤ d ∧ d ≤ '9') ∨ ('a' ≤ d ∧ d ≤ 'f') := by
  induction bs with
  | nil => simp [encode]
  | cons b bs ih =>
    have hb : b.toNat < 256 := b.toNat_lt
    intro d hd
    simp only [encode, List.mem_cons] at hd
    rcases hd with rfl | rfl | hd
    · exact lowercase_digitChar _ (by omega)
    · exact lowercase_digitChar _ (by omega)
    · exact ih d hd

theorem toLower_of_lowercase {d : Char} (h : ('0' ≤ d ∧ d ≤ '9') ∨ ('a' ≤ d ∧ d ≤ 'f')) :
    d.toLower = d := by
  apply dif_neg
  rintro ⟨hA, hZ⟩
  have hfirst : 'A'.toNat ≤ d.toNat := hA
  have hlast : d.toNat ≤ 'Z'.toNat := hZ
  rcases h with ⟨-, h9⟩ | ⟨ha, -⟩
  · have hnine : d.toNat ≤ '9'.toNat := h9
    exact absurd (Nat.le_trans hfirst hnine) (by decide)
  · have hlower : 'a'.toNat ≤ d.toNat := ha
    exact absurd (Nat.le_trans hlower hlast) (by decide)

end Hex

/-! ### Keys -/

namespace Key

/-- A text is a numeral of the chain, a minus, `0x` or `0X`, and forty hexadecimal digits in either
    case, two for every byte of the address. -/
inductive SpelledBy (chain : ChainId) (a : Address) (s : String) : Prop
  | intro {numeral digits : List Char} {x : Char}
      (text : s.toList = numeral ++ '-' :: '0' :: x :: digits)
      (number : Numeral.SpelledBy chain numeral) (mark : x = 'x' ∨ x = 'X')
      (length : digits.length = 40) (address : Hex.encode a.bytes = digits.map Char.toLower)

/-- A key as it is written: no plus sign, no leading zero, `0x`, and lowercase digits. -/
inductive IsCanonical (s : String) : Prop
  | intro {numeral digits : List Char}
      (text : s.toList = numeral ++ '-' :: '0' :: 'x' :: digits)
      (decimal : ∀ d ∈ numeral, '0' ≤ d ∧ d ≤ '9') (nonempty : numeral ≠ [])
      (shortest : numeral.head? = some '0' → numeral = ['0']) (length : digits.length = 40)
      (lowercase : ∀ d ∈ digits, ('0' ≤ d ∧ d ≤ '9') ∨ ('a' ≤ d ∧ d ≤ 'f'))

variable {chain : ChainId} {a : Address} {s : String} {cs numeral rest : List Char}

/-! #### Reading -/

/-- A text is split at its first minus. -/
theorem split?_eq_some_iff :
    split? cs = some (numeral, rest) ↔ cs = numeral ++ '-' :: rest ∧ '-' ∉ numeral := by
  induction cs generalizing numeral with
  | nil => simp [split?]
  | cons c cs ih =>
    rw [split?]
    by_cases hc : c = '-'
    · rw [if_pos hc]
      cases numeral with
      | nil => simp [hc]
      | cons d numeral =>
        simp only [Option.some.injEq, Prod.mk.injEq, List.cons_append, List.cons.injEq]
        constructor
        · rintro ⟨h, -⟩
          exact absurd h (List.cons_ne_nil _ _).symm
        · rintro ⟨⟨rfl, -⟩, hd⟩
          exact absurd hd (by simp [hc])
    · rw [if_neg hc]
      cases numeral with
      | nil => simp [hc]
      | cons d numeral =>
        simp only [Option.map_eq_some_iff, Prod.exists, Prod.mk.injEq, List.cons.injEq,
          List.cons_append, List.mem_cons, not_or]
        constructor
        · rintro ⟨front, back, hsplit, ⟨rfl, rfl⟩, rfl⟩
          obtain ⟨rfl, hfront⟩ := ih.1 hsplit
          exact ⟨⟨rfl, rfl⟩, Ne.symm hc, hfront⟩
        · rintro ⟨⟨rfl, rfl⟩, -, hfront⟩
          exact ⟨numeral, rest, ih.2 ⟨rfl, hfront⟩, ⟨rfl, rfl⟩, rfl⟩

theorem minus_notMem_of_decimal (h : ∀ d ∈ numeral, '0' ≤ d ∧ d ≤ '9') : '-' ∉ numeral := by
  intro hmem
  exact absurd (h _ hmem) (by decide)

/-- A numeral has no minus. -/
theorem minus_notMem_of_spelledBy (h : Numeral.SpelledBy chain numeral) : '-' ∉ numeral := by
  cases h with
  | plain digits => exact minus_notMem_of_decimal digits.decimal
  | signed digits =>
    intro hmem
    rcases List.mem_cons.1 hmem with hplus | hmem
    · exact absurd hplus (by decide)
    · exact minus_notMem_of_decimal digits.decimal hmem

/-- Behind the minus there is an address. -/
theorem ofChars?_eq_some_iff :
    Address.ofChars? cs = some a ↔ ∃ x digits, cs = '0' :: x :: digits ∧ (x = 'x' ∨ x = 'X') ∧
      digits.length = 40 ∧ Hex.encode a.bytes = digits.map Char.toLower := by
  constructor
  · intro h
    obtain ⟨digits, hdigits, h⟩ := Option.bind_eq_some_iff.1 h
    obtain ⟨bytes, hbytes, h⟩ := Option.bind_eq_some_iff.1 h
    have ha : a.bytes = bytes := by
      rw [Address.ofBytes?] at h
      split at h
      · cases h
        rfl
      · cases h
    have hlength : digits.length = 40 := by
      rw [Hex.length_of_decode? hbytes, ← ha, a.length_bytes]
    have haddress : Hex.encode a.bytes = digits.map Char.toLower :=
      ha ▸ Hex.encode_of_decode? hbytes
    obtain ⟨x, hx, rfl⟩ := Address.digits?_eq_some_iff.1 hdigits
    exact ⟨x, digits, rfl, hx, hlength, haddress⟩
  · rintro ⟨x, digits, rfl, hx, -, haddress⟩
    have hdigits : Address.digits? ('0' :: x :: digits) = some digits :=
      Address.digits?_eq_some_iff.2 ⟨x, hx, rfl⟩
    have hbytes : Hex.decode? digits = some a.bytes := by
      rw [← Hex.decode?_map_toLower, ← haddress, Hex.decode?_encode]
    simp [Address.ofChars?, hdigits, hbytes, Address.ofBytes?, a.length_bytes]

/-- **A text is read as a key** if it spells one. -/
theorem decode?_eq_some_iff : decode? s = some (chain, a) ↔ SpelledBy chain a s := by
  have hparts : decode? s = some (chain, a) ↔ ∃ numeral rest,
      split? s.toList = some (numeral, rest) ∧ Numeral.naturalOfChars? numeral = some chain ∧
        Address.ofChars? rest = some a := by
    simp [decode?, decodeChars?, Option.bind_eq_some_iff]
  rw [hparts]
  simp only [split?_eq_some_iff, Numeral.naturalOfChars?_eq_some_iff, ofChars?_eq_some_iff]
  constructor
  · rintro ⟨numeral, rest, ⟨htext, -⟩, hnumber, x, digits, rfl, hx, hlength, haddress⟩
    exact ⟨htext, hnumber, hx, hlength, haddress⟩
  · rintro ⟨htext, hnumber, hx, hlength, haddress⟩
    exact ⟨_, _, ⟨htext, minus_notMem_of_spelledBy hnumber⟩, hnumber, _, _, rfl, hx, hlength,
      haddress⟩

/-- The texts that are read as addresses. -/
theorem exists_parse?_iff : (∃ a, Address.parse? s = some a) ↔ Address.isHexText s := by
  simp only [Address.parse?_eq_some_iff]
  exact Address.exists_spelledBy_iff

/-! #### Writing -/

theorem isCanonical_encode (chain : ChainId) (a : Address) : IsCanonical (encode chain a) := by
  have hdigits := Numeral.spells_toDigits chain.toNat
  have htext : (encode chain a).toList =
      Numeral.ofNatural chain ++ '-' :: '0' :: 'x' :: Hex.encode a.bytes := by
    rw [encode, String.toList_ofList]
    rfl
  have hlength : (Hex.encode a.bytes).length = 40 := by
    rw [Hex.length_encode, a.length_bytes]
  exact .intro htext hdigits.decimal hdigits.nonempty (Numeral.head?_toDigits _) hlength
    (Hex.lowercase_encode _)

/-- A key is canonical in one way only. -/
theorem eq_encode_of_isCanonical (h : IsCanonical s) (hs : SpelledBy chain a s) :
    s = encode chain a := by
  obtain ⟨htext, hnumber, -, -, haddress⟩ := hs
  obtain ⟨htext', hdecimal, -, hshortest, -, hlower⟩ := h
  -- Both ways to see the text split it at its first minus.
  have hsplit := split?_eq_some_iff.2 ⟨htext, minus_notMem_of_spelledBy hnumber⟩
  have hsplit' := split?_eq_some_iff.2 ⟨htext', minus_notMem_of_decimal hdecimal⟩
  cases hsplit.symm.trans hsplit'
  apply String.toList_inj.1
  rw [htext, encode, String.toList_ofList, chars, Address.toChars]
  congr 1
  · cases hnumber with
    | plain digits => exact (Numeral.toDigits_of_spells digits hshortest).symm
    | signed => exact absurd (hdecimal '+' List.mem_cons_self) (by decide)
  · rw [haddress, List.map_congr_left fun d hd => Hex.toLower_of_lowercase (hlower d hd),
      List.map_id']

/-- A key written again. -/
def normalize? (s : String) : Option String := (decode? s).map fun key => encode key.1 key.2

/-- What is written again is the canonical key of the same chain and address. -/
theorem normalize?_eq_some_iff {t : String} :
    normalize? s = some t ↔
      ∃ chain a, SpelledBy chain a s ∧ SpelledBy chain a t ∧ IsCanonical t := by
  simp only [normalize?, Option.map_eq_some_iff, Prod.exists, decode?_eq_some_iff]
  constructor
  · rintro ⟨chain, a, hs, rfl⟩
    exact ⟨chain, a, hs, decode?_eq_some_iff.1 (decode?_encode chain a),
      isCanonical_encode chain a⟩
  · rintro ⟨chain, a, hs, ht, hcanonical⟩
    exact ⟨chain, a, hs, (eq_encode_of_isCanonical hcanonical ht).symm⟩

/-- **Reading and writing keys.**  A text is read as a key if it spells one, and as an address if it
    has the form of one.  Every chain and address come back from their key, so different ones have
    different keys; and a key that is written again becomes the canonical one of those that say the
    same. -/
theorem codec :
    (∀ (s : String) (chain : ChainId) (a : Address),
      decode? s = some (chain, a) ↔ SpelledBy chain a s) ∧
    (∀ s, (∃ a, Address.parse? s = some a) ↔ Address.isHexText s) ∧
    (∀ (chain : ChainId) (a : Address), decode? (encode chain a) = some (chain, a)) ∧
    (∀ (chain chain' : ChainId) (a a' : Address),
      encode chain a = encode chain' a' → chain = chain' ∧ a = a') ∧
    (∀ s t, normalize? s = some t ↔
      ∃ chain a, SpelledBy chain a s ∧ SpelledBy chain a t ∧ IsCanonical t) := by
  refine ⟨fun s chain a => ?_, fun s => ?_, decode?_encode, fun chain chain' a a' => ?_,
    fun s t => ?_⟩
  · exact decode?_eq_some_iff
  · exact exists_parse?_iff
  · exact encode_inj
  · exact normalize?_eq_some_iff

-- A plus sign, leading zeros and capitals are gone.
example : normalize? "+007-0X00000000000000000000000000000000000000AA" =
    some "7-0x00000000000000000000000000000000000000aa" := by decide +kernel

end Key

end TokenCatalog
