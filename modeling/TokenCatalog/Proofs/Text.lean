import Mathlib.Data.List.DropRight
import Mathlib.Tactic.SplitIfs
import TokenCatalog.Text.Blank
import TokenCatalog.Text.Case
import TokenCatalog.Token.Address

namespace TokenCatalog

/-!
# Texts — the order of their bytes, and the addresses that they spell

* `Bytes.ofText_lt_ofText` — texts ascend as the bytes of their UTF-8 form do;
* `Hex.encode_of_decode?` — what hexadecimal digits spell is written with the same digits, in
  lowercase;
* `Text.trim_eq_empty_iff` — which texts are blank;
* `Text.lowerChars_of_ascii` — the lowercase form of ASCII characters;
* `Address.parse?_eq_some_iff`, `Address.exists_spelledBy_iff` — which texts are addresses, and of
  which bytes;
* `Address.SpelledBy.lower_eq` — the lowercase form of an address, in whichever way it is spelled.
-/

/-! ### The order of bytes -/

namespace Bytes

theorem ofText_eq_flatMap (s : String) : ofText s = s.toList.flatMap String.utf8EncodeChar := by
  rw [ofText, String.toUTF8_eq_toByteArray, ← String.utf8Encode_toList, List.utf8Encode,
    List.data_toByteArray]

/-- A byte that is not greater, and where it is the same, something smaller behind it. -/
theorem cons_ofNat_lt {m n : Nat} {xs ys : Bytes} (hn : n < 256) (hle : m ≤ n)
    (h : m = n → xs < ys) : UInt8.ofNat m :: xs < UInt8.ofNat n :: ys := by
  rw [List.cons_lt_cons_iff]
  rcases Nat.lt_or_eq_of_le hle with hlt | rfl
  · refine .inl (UInt8.lt_iff_toNat_lt.2 ?_)
    rwa [UInt8.toNat_ofNat_of_lt' hn, UInt8.toNat_ofNat_of_lt' (Nat.lt_trans hlt hn)]
  · exact .inr ⟨rfl, h rfl⟩

/-- A smaller character makes for smaller bytes, whatever follows it. -/
theorem utf8EncodeChar_append_lt {c d : Char} (h : c < d) (xs ys : Bytes) :
    String.utf8EncodeChar c ++ xs < String.utf8EncodeChar d ++ ys := by
  have hcd : c.val.toNat < d.val.toNat := h
  have hd : d.val.toNat < 1114112 := by
    have := d.valid
    simp only [UInt32.isValidChar, Nat.isValidChar] at this
    omega
  unfold String.utf8EncodeChar
  generalize c.val.toNat = m at *
  generalize d.val.toNat = n at *
  dsimp only
  split_ifs
  all_goals simp only [List.cons_append, List.nil_append]
  -- The first byte decides between characters of different lengths, and between those of one byte.
  all_goals first
    | omega
    | exact cons_ofNat_lt (by omega) (by omega) (by omega)
    | skip
  · exact cons_ofNat_lt (by omega) (by omega) fun _ =>
      cons_ofNat_lt (by omega) (by omega) (by omega)
  · exact cons_ofNat_lt (by omega) (by omega) fun _ =>
      cons_ofNat_lt (by omega) (by omega) fun _ => cons_ofNat_lt (by omega) (by omega) (by omega)
  · exact cons_ofNat_lt (by omega) (by omega) fun _ =>
      cons_ofNat_lt (by omega) (by omega) fun _ =>
        cons_ofNat_lt (by omega) (by omega) fun _ => cons_ofNat_lt (by omega) (by omega) (by omega)

theorem flatMap_utf8EncodeChar_lt {cs ds : List Char} (h : cs < ds) :
    cs.flatMap String.utf8EncodeChar < ds.flatMap String.utf8EncodeChar := by
  induction cs generalizing ds with
  | nil =>
    cases ds with
    | nil => exact absurd h (List.lt_irrefl [])
    | cons d ds =>
      rw [List.flatMap_nil, List.flatMap_cons]
      obtain ⟨b, bs, hbs⟩ := List.exists_cons_of_ne_nil (String.utf8EncodeChar_ne_nil (c := d))
      rw [hbs]
      exact List.nil_lt_cons _ _
  | cons c cs ih =>
    cases ds with
    | nil => exact absurd h (List.not_lt_nil _)
    | cons d ds =>
      rw [List.flatMap_cons, List.flatMap_cons]
      rcases List.cons_lt_cons_iff.1 h with hcd | ⟨rfl, hlt⟩
      · exact utf8EncodeChar_append_lt hcd _ _
      · exact List.append_left_lt (ih hlt)

/-- Texts ascend as their bytes do. -/
theorem ofText_lt_ofText {s t : String} (h : s < t) : ofText s < ofText t := by
  rw [ofText_eq_flatMap, ofText_eq_flatMap]
  exact flatMap_utf8EncodeChar_lt h

end Bytes

/-! ### Hexadecimal digits -/

namespace Hex

/-- The digits that stand one after the other from `first` on. -/
theorem digit_of_range {first c : Char} (count offset : Nat)
    (hdigits : ∀ k < count, (k + offset).digitChar = (Char.ofNat (first.toNat + k)).toLower)
    (hcount : count + offset ≤ 16) (hfirst : first ≤ c) (hlast : c.toNat < first.toNat + count) :
    c.toNat - first.toNat + offset < 16 ∧
      (c.toNat - first.toNat + offset).digitChar = c.toLower := by
  have hle : first.toNat ≤ c.toNat := hfirst
  refine ⟨by omega, ?_⟩
  rw [hdigits _ (by omega), Nat.add_sub_cancel' hle, Char.ofNat_toNat]

/-- A digit in either case has the value of the lowercase one. -/
theorem digit_of_value? {c : Char} {n : Nat} (h : value? c = some n) :
    n < 16 ∧ n.digitChar = c.toLower := by
  unfold value? at h
  split at h
  · rename_i hc
    cases h
    have hlast : c.toNat ≤ '9'.toNat := hc.2
    exact digit_of_range 10 0 (by decide) (by decide) hc.1
      (Nat.lt_succ_of_le hlast)
  split at h
  · rename_i hc
    cases h
    have hlast : c.toNat ≤ 'f'.toNat := hc.2
    exact digit_of_range 6 10 (by decide) (by decide) hc.1 (Nat.lt_succ_of_le hlast)
  split at h
  · rename_i hc
    cases h
    have hlast : c.toNat ≤ 'F'.toNat := hc.2
    exact digit_of_range 6 10 (by decide) (by decide) hc.1 (Nat.lt_succ_of_le hlast)
  · cases h

/-- Hexadecimal digits are ASCII characters. -/
theorem toNat_lt_of_isDigit {c : Char} (h : isDigit c) : c.toNat < 0x80 := by
  unfold isDigit value? at h
  split at h
  · rename_i hc
    have hlast : c.toNat ≤ '9'.toNat := hc.2
    exact Nat.lt_of_le_of_lt hlast (by decide)
  split at h
  · rename_i hc
    have hlast : c.toNat ≤ 'f'.toNat := hc.2
    exact Nat.lt_of_le_of_lt hlast (by decide)
  split at h
  · rename_i hc
    have hlast : c.toNat ≤ 'F'.toNat := hc.2
    exact Nat.lt_of_le_of_lt hlast (by decide)
  · simp at h

/-- What digits spell is written with the same digits in lowercase. -/
theorem encode_of_decode? {cs : List Char} {bs : List UInt8} (h : decode? cs = some bs) :
    encode bs = cs.map Char.toLower := by
  fun_induction decode? cs generalizing bs with
  | case1 =>
    cases h
    rfl
  | case2 => cases h
  | case3 hi lo rest ih =>
    obtain ⟨m, hm, h⟩ := Option.bind_eq_some_iff.1 h
    obtain ⟨n, hn, h⟩ := Option.bind_eq_some_iff.1 h
    obtain ⟨bs, hbs, h⟩ := Option.bind_eq_some_iff.1 h
    cases h
    obtain ⟨hm16, hhi⟩ := digit_of_value? hm
    obtain ⟨hn16, hlo⟩ := digit_of_value? hn
    have hbyte : (UInt8.ofNat (16 * m + n)).toNat = 16 * m + n :=
      UInt8.toNat_ofNat_of_lt' (by show _ < 256; omega)
    have hhigh : (16 * m + n) / 16 = m := by omega
    have hlow : (16 * m + n) % 16 = n := by omega
    rw [encode, hbyte, hhigh, hlow, hhi, hlo, ih hbs]
    rfl

theorem encode_injective {bs cs : List UInt8} (h : encode bs = encode cs) : bs = cs :=
  Option.some.inj ((decode?_encode bs).symm.trans ((congrArg decode? h).trans (decode?_encode cs)))

end Hex

/-! ### Blanks -/

theorem Text.trimChars_eq_nil_iff {cs : List Char} : trimChars cs = [] ↔ ∀ c ∈ cs, isBlank c := by
  have htrim : trimChars cs = (cs.dropWhile isBlank).rdropWhile isBlank := rfl
  rw [htrim, List.rdropWhile_eq_nil_iff]
  constructor
  · intro h c hc
    -- A character is one of the blanks in front, or stands behind them.
    rw [← List.takeWhile_append_dropWhile (p := isBlank) (l := cs)] at hc
    rcases List.mem_append.1 hc with hfront | hrest
    · exact List.mem_takeWhile_imp hfront
    · exact h c hrest
  · intro h c hc
    exact h c ((List.dropWhile_sublist isBlank).subset hc)

/-- Nothing is left of a blank text without its blanks. -/
theorem Text.trim_eq_empty_iff {s : String} : trim s = "" ↔ isBlankText s := by
  rw [isBlankText, List.all_eq_true, ← trimChars_eq_nil_iff, trim]
  simp

/-! ### Lowercase forms -/

/-- An ASCII character becomes one character, whatever stands around it. -/
theorem Text.lowerChars_of_ascii {before cs : List Char} (h : ∀ c ∈ cs, c.toNat < 0x80) :
    lowerChars before cs = cs.map Char.toLower := by
  induction cs generalizing before with
  | nil => rfl
  | cons c cs ih =>
    have hc : c.toNat < 0x80 := h c List.mem_cons_self
    have hsigma : c ≠ 'Σ' := by
      rintro rfl
      exact absurd hc (by decide)
    rw [lowerChars, if_neg hsigma, lowerChar, if_pos hc, List.map_cons,
      ih fun d hd => h d (List.mem_cons_of_mem _ hd)]
    rfl

/-! ### Addresses -/

namespace Address

/-- A text is `0x` or `0X` and forty hexadecimal digits, which are those of an address in either
    case. -/
structure SpelledBy (a : Address) (s : String) : Prop where
  valid : isHexText s
  digits : ∃ ds, digits? s.toList = some ds ∧ Hex.encode a.bytes = ds.map Char.toLower

variable {s : String} {a : Address}

theorem isHexText_iff :
    isHexText s ↔ ∃ ds, digits? s.toList = some ds ∧ ds.length = 40 ∧ ds.all Hex.isDigit := by
  rw [isHexText, isHexChars]
  cases digits? s.toList <;> simp

/-- Every text of the right form is an address. -/
theorem exists_parse?_of_isHexText (h : isHexText s) : ∃ a, parse? s = some a := by
  obtain ⟨ds, hds, hlength, hdigits⟩ := isHexText_iff.1 h
  have heven : 2 ∣ ds.length := by
    rw [hlength]
    decide
  obtain ⟨bs, hbs⟩ := Option.isSome_iff_exists.1 ((Hex.isSome_decode?_iff ds).2 ⟨heven, hdigits⟩)
  have htwenty : bs.length = 20 := by
    have := Hex.length_of_decode? hbs
    omega
  refine ⟨⟨bs, htwenty⟩, ?_⟩
  simp only [parse?, ofChars?, hds, hbs, Option.bind_eq_bind, Option.bind_some, ofBytes?,
    dif_pos htwenty]

/-- What is read as an address is its text. -/
theorem spelledBy_of_parse? (h : parse? s = some a) : a.SpelledBy s := by
  obtain ⟨ds, hds, h⟩ := Option.bind_eq_some_iff.1 h
  obtain ⟨bs, hbs, h⟩ := Option.bind_eq_some_iff.1 h
  rw [ofBytes?] at h
  split at h
  · rename_i htwenty
    cases h
    have hlength := Hex.length_of_decode? hbs
    have hdigits := ((Hex.isSome_decode?_iff ds).1 (by rw [hbs]; rfl)).2
    exact ⟨isHexText_iff.2 ⟨ds, hds, by omega, hdigits⟩, ds, hds, Hex.encode_of_decode? hbs⟩
  · cases h

/-- A text is read as the address that it spells. -/
theorem parse?_eq_some_iff : parse? s = some a ↔ a.SpelledBy s := by
  refine ⟨spelledBy_of_parse?, fun h => ?_⟩
  obtain ⟨b, hb⟩ := exists_parse?_of_isHexText h.valid
  obtain ⟨ds, hds, ha⟩ := h.digits
  obtain ⟨_, hds', hb'⟩ := (spelledBy_of_parse? hb).digits
  cases hds.symm.trans hds'
  obtain ⟨bytes, _⟩ := a
  cases Hex.encode_injective (ha.trans hb'.symm)
  exact hb

theorem digits?_eq_some_iff {cs ds : List Char} :
    digits? cs = some ds ↔ ∃ x, (x = 'x' ∨ x = 'X') ∧ cs = '0' :: x :: ds := by
  unfold digits?
  split
  · simp
  · simp
  · rename_i hx hX
    constructor
    · intro h
      cases h
    · rintro ⟨x, rfl | rfl, rfl⟩
      · exact absurd rfl (hx ds)
      · exact absurd rfl (hX ds)

/-- In lowercase, an address is written in one way. -/
theorem SpelledBy.lower_eq (h : a.SpelledBy s) : Text.lower s = a.toText := by
  obtain ⟨ds, hds, -, hdigits⟩ := isHexText_iff.1 h.valid
  obtain ⟨ds', hds', hbytes⟩ := h.digits
  obtain rfl : ds = ds' := Option.some.inj (hds.symm.trans hds')
  obtain ⟨x, hx, hs⟩ := digits?_eq_some_iff.1 hds
  have hascii : ∀ c ∈ s.toList, c.toNat < 0x80 := by
    rw [hs]
    simp only [List.mem_cons]
    rintro c (rfl | rfl | hc)
    · decide
    · rcases hx with rfl | rfl <;> decide
    · exact Hex.toNat_lt_of_isDigit (List.all_eq_true.1 hdigits c hc)
  have hmark : x.toLower = 'x' := by
    rcases hx with rfl | rfl <;> rfl
  rw [Text.lower, Text.lowerChars_of_ascii hascii, hs, List.map_cons, List.map_cons, hmark,
    ← hbytes]
  rfl

/-- The texts of addresses are those of the right form. -/
theorem exists_spelledBy_iff : (∃ a : Address, a.SpelledBy s) ↔ isHexText s := by
  constructor
  · rintro ⟨a, ha⟩
    exact ha.valid
  · intro h
    obtain ⟨a, ha⟩ := exists_parse?_of_isHexText h
    exact ⟨a, spelledBy_of_parse? ha⟩

end Address

end TokenCatalog
