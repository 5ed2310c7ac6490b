import TokenCatalog.Json.Printer
import TokenCatalog.Proofs.Json.Denoting
import TokenCatalog.Proofs.Numeral
import TokenCatalog.Proofs.Text

namespace TokenCatalog

/-!
# Writing — what the text of a value spells

A value without doubles is written so that the grammar finds it again, whatever follows it.

* `Bytes.ofChars` — the bytes of characters, one for each ASCII character;
* `Json.numeralFrom_toDigits`, `Json.bodyFrom_escape` — numerals and strings are read as they were
  written;
* `Json.FloatFree`, `Json.outline` — values without doubles, and how each of them is written;
* `Json.spells_toText` — the text of such a value spells it;
* `Json.parse_toText` — **main result**: it is read as that value, unless it nests too deep.
-/

open Ascii

/-! ### Bytes of characters -/

namespace Bytes

/-- The UTF-8 form of characters. -/
def ofChars (cs : List Char) : Bytes := cs.flatMap String.utf8EncodeChar

/-- The bytes of a text are those of its characters. -/
theorem ofText_ofList (cs : List Char) : ofText (String.ofList cs) = ofChars cs := by
  rw [ofText_eq_flatMap, String.toList_ofList, ofChars]

/-- The bytes of a text are those of its characters, one after the other. -/
theorem ofText_eq_ofChars (s : String) : ofText s = ofChars s.toList := ofText_eq_flatMap s

@[simp] theorem ofChars_nil : ofChars [] = [] := rfl

theorem ofChars_cons (c : Char) (cs : List Char) :
    ofChars (c :: cs) = String.utf8EncodeChar c ++ ofChars cs := by
  rw [ofChars, List.flatMap_cons, ofChars]

@[simp] theorem ofChars_append (cs ds : List Char) : ofChars (cs ++ ds) = ofChars cs ++ ofChars ds :=
  List.flatMap_append

/-- An ASCII character is one byte. -/
theorem utf8EncodeChar_ascii {c : Char} (h : c.toNat < 128) :
    String.utf8EncodeChar c = [byte c] := by
  have hle : c.val.toNat ≤ 127 := Nat.le_of_lt_succ h
  unfold String.utf8EncodeChar
  simp only [if_pos hle]
  rfl

/-- A character of ASCII is one byte. -/
theorem ofChars_ascii {c : Char} (h : c.toNat < 128) (cs : List Char) :
    ofChars (c :: cs) = byte c :: ofChars cs := by
  rw [ofChars_cons, utf8EncodeChar_ascii h]
  rfl

/-- The byte of such a character has its number. -/
theorem toNat_byte {c : Char} (h : c.toNat < 128) : (byte c).toNat = c.toNat := by
  show (c.val.toUInt8).toNat = c.val.toNat
  have hval : c.val.toNat < 128 := h
  rw [UInt32.toNat_toUInt8, Nat.mod_eq_of_lt (by omega)]

/-- An ASCII character is that of its byte. -/
theorem char_byte {c : Char} (h : c.toNat < 128) : char (byte c) = c := by
  apply Char.ext
  show (byte c).toUInt32 = c.val
  apply UInt32.toNat_inj.1
  rw [UInt8.toNat_toUInt32, toNat_byte h]
  rfl

end Bytes

namespace Json

open Reader

variable {c : Char} {cs ds : List Char} {s t r bs rest : Bytes} {n : Nat}

/-! ### Numerals -/

/-- What may follow a number: nothing that could still be part of it. -/
def Delimits (rest : Bytes) : Prop :=
  ∀ b ∈ rest.head?, isDigit b = false ∧ b ≠ dot ∧ b ≠ byte 'e' ∧ b ≠ byte 'E'

/-- Digits are ASCII. -/
theorem toNat_lt_of_decimal (h : '0' ≤ c ∧ c ≤ '9') : c.toNat < 128 := by
  have hlast : c.toNat ≤ '9'.toNat := h.2
  exact Nat.lt_of_le_of_lt hlast (by decide)

/-- The byte of a digit is a digit. -/
theorem isDigit_byte (h : '0' ≤ c ∧ c ≤ '9') : isDigit (byte c) = true := by
  have hbyte := Bytes.toNat_byte (toNat_lt_of_decimal h)
  have hfirst : '0'.toNat ≤ c.toNat := h.1
  have hlast : c.toNat ≤ '9'.toNat := h.2
  simp only [isDigit, Bool.and_eq_true, decide_eq_true_eq, UInt8.le_iff_toNat_le, hbyte]
  exact ⟨hfirst, hlast⟩

/-- Digits are written in one byte each. -/
theorem ofChars_decimal (h : ∀ d ∈ ds, '0' ≤ d ∧ d ≤ '9') : Bytes.ofChars ds = ds.map byte := by
  induction ds with
  | nil => rfl
  | cons d ds ih =>
    obtain ⟨hd, hds⟩ := List.forall_mem_cons.1 h
    rw [Bytes.ofChars_ascii (toNat_lt_of_decimal hd), ih hds, List.map_cons]

/-- Digits are read up to the byte that ends the number. -/
theorem spanDigits_append (h : ∀ d ∈ ds, '0' ≤ d ∧ d ≤ '9') (hrest : Delimits rest) :
    spanDigits (Bytes.ofChars ds ++ rest) = (ds, rest) := by
  have hdigits : ∀ b ∈ ds.map byte, isDigit b = true := by
    intro b hb
    obtain ⟨d, hd, rfl⟩ := List.mem_map.1 hb
    exact isDigit_byte (h d hd)
  -- The digits end where what follows is no digit.
  have hstop : rest.takeWhile isDigit = [] ∧ rest.dropWhile isDigit = rest := by
    cases rest with
    | nil => exact ⟨rfl, rfl⟩
    | cons b rest => simp [(hrest b rfl).1]
  have hchars : (ds.map byte).map char = ds := by
    rw [List.map_map]
    conv => rhs; rw [← List.map_id ds]
    apply List.map_congr_left
    intro d hd
    exact Bytes.char_byte (toNat_lt_of_decimal (h d hd))
  rw [spanDigits, ofChars_decimal h, List.takeWhile_append_of_pos hdigits,
    List.dropWhile_append_of_pos hdigits, hstop.1, hstop.2, List.append_nil, hchars]

/-- The whole part of a number is read as it was written. -/
theorem wholeFrom_toDigits {e : Fault} (n : Nat) (hrest : Delimits rest) :
    wholeFrom e (Bytes.ofChars (Nat.toDigits 10 n) ++ rest) = .ok (Nat.toDigits 10 n, rest) := by
  have hspells := Numeral.spells_toDigits n
  have hdigits : digitsFrom e (Bytes.ofChars (Nat.toDigits 10 n) ++ rest) =
      .ok (Nat.toDigits 10 n, rest) := by
    rw [digitsFrom, spanDigits_append hspells.decimal hrest]
    obtain ⟨d, ds, hds⟩ := List.exists_cons_of_ne_nil hspells.nonempty
    rw [hds]
  have hzero : ¬ ((Nat.toDigits 10 n).head? = some '0' ∧ Nat.toDigits 10 n ≠ ['0']) :=
    fun h => h.2 (Numeral.head?_toDigits n h.1)
  simp only [wholeFrom, hdigits, if_neg hzero]

/-- What ends a number begins no fraction. -/
theorem fractionFrom_of_delimits {e : Fault} (hrest : Delimits rest) :
    fractionFrom e rest = .ok ([], rest) := by
  cases rest with
  | nil => rfl
  | cons b rest =>
    obtain ⟨-, hdot, -, -⟩ := hrest b rfl
    simp only [fractionFrom, if_neg hdot]

/-- Nor an exponent. -/
theorem exponentFrom_of_delimits {e : Fault} (hrest : Delimits rest) :
    exponentFrom e rest = .ok (none, rest) := by
  cases rest with
  | nil => rfl
  | cons b rest =>
    obtain ⟨-, -, hlower, hupper⟩ := hrest b rfl
    simp only [exponentFrom, hlower, hupper, or_self, if_false]

/-- **Decimal digits are read as the numeral that they are**, with or without a sign. -/
theorem numeralFrom_toDigits {e : Fault} (negative : Bool) (n : Nat) (hrest : Delimits rest) :
    numeralFrom e ((if negative then [minus] else []) ++
      (Bytes.ofChars (Nat.toDigits 10 n) ++ rest)) =
      .ok (⟨negative, Nat.toDigits 10 n, [], 0, true⟩, rest) := by
  have hwhole := wholeFrom_toDigits (e := e) n hrest
  have hfraction := fractionFrom_of_delimits (e := e) hrest
  have hexponent := exponentFrom_of_delimits (e := e) hrest
  cases negative with
  | true => simp [numeralFrom, hwhole, hfraction, hexponent, bind, Except.bind, pure, Except.pure]
  | false =>
    -- The first digit is no sign.
    have hspells := Numeral.spells_toDigits n
    obtain ⟨d, ds, hds⟩ := List.exists_cons_of_ne_nil hspells.nonempty
    have hd := hspells.decimal d (hds ▸ List.mem_cons_self)
    have hhead : (Bytes.ofChars (Nat.toDigits 10 n) ++ rest).head? = some (byte d) := by
      rw [hds, Bytes.ofChars_ascii (toNat_lt_of_decimal hd)]
      rfl
    have hminus : (some (byte d) == some minus) = false := by
      apply beq_eq_false_iff_ne.2
      intro heq
      have hdigit := isDigit_byte hd
      rw [Option.some.inj heq] at hdigit
      exact absurd hdigit (by decide)
    simp [numeralFrom, hhead, hminus, hwhole, hfraction, hexponent, bind, Except.bind, pure,
      Except.pure]

/-- A numeral without a fraction is the natural number that it spells. -/
theorem ofNumeral?_natural (n : UInt64) :
    Number.ofNumeral? ⟨false, Nat.toDigits 10 n.toNat, [], 0, true⟩ = some (.natural n) := by
  have hfits : n.toNat < UInt64.size := n.toNat_lt
  simp [Number.ofNumeral?, Nat.ofDigitChars_ten_toDigits, hfits]

/-- With a sign it is the negative one. -/
theorem ofNumeral?_negSucc (k : Fin Number.negativeCount) :
    Number.ofNumeral? ⟨true, Nat.toDigits 10 (k + 1), [], 0, true⟩ = some (.negSucc k) := by
  have hk : (k : Nat) < 9223372036854775808 := k.isLt
  have hfits : (k : Nat) + 1 < UInt64.size := by
    show _ < 18446744073709551616
    omega
  have hrange : 0 < (k : Nat) + 1 ∧ (k : Nat) + 1 ≤ Number.negativeCount :=
    ⟨Nat.succ_pos _, hk⟩
  simp [Number.ofNumeral?, Nat.ofDigitChars_ten_toDigits, hfits, hrange]

/-! ### Strings -/

/-- An escape in a string is read before what follows it. -/
theorem bodyFrom_backslash (he : escapeFrom s = .ok (c, t)) (ht : bodyFrom t = .ok (bs, r)) :
    bodyFrom (backslash :: s) = .ok (String.utf8EncodeChar c ++ bs, r) := by
  rw [bodyFrom, if_neg (by decide), if_pos rfl]
  split
  · rename_i he'
    cases he.symm.trans he'
  · rename_i he'
    cases he.symm.trans he'
    rw [ht]

/-- Bytes that stand for themselves in a string. -/
theorem bodyFrom_plain (h : ∀ b ∈ s, b ≠ quote ∧ b ≠ backslash ∧ ¬ b < space)
    (ht : bodyFrom t = .ok (bs, r)) : bodyFrom (s ++ t) = .ok (s ++ bs, r) := by
  induction s with
  | nil => exact ht
  | cons b s ih =>
    obtain ⟨⟨hquote, hbackslash, hspace⟩, hs⟩ := List.forall_mem_cons.1 h
    rw [List.cons_append, bodyFrom, if_neg hquote, if_neg hbackslash, if_neg hspace, ih hs]
    rfl

/-- Of the bytes of a character, those that are not ASCII are not below 128. -/
theorem le_of_mem_utf8EncodeChar (h : 128 ≤ c.toNat) :
    ∀ b ∈ String.utf8EncodeChar c, 128 ≤ b.toNat := by
  have hc : ¬ c.val.toNat ≤ 127 := by
    show ¬ c.toNat ≤ 127
    omega
  have hbyte : ∀ m, 128 ≤ m → m < 256 → 128 ≤ (UInt8.ofNat m).toNat := by
    intro m hle hlt
    rwa [UInt8.toNat_ofNat_of_lt' hlt]
  unfold String.utf8EncodeChar
  simp only [if_neg hc]
  -- Two, three or four bytes, each with its top bit set.
  intro b hb
  split at hb
  · simp only [List.mem_cons, List.not_mem_nil, or_false] at hb
    rcases hb with rfl | rfl <;> exact hbyte _ (by omega) (by omega)
  split at hb
  · simp only [List.mem_cons, List.not_mem_nil, or_false] at hb
    rcases hb with rfl | rfl | rfl <;> exact hbyte _ (by omega) (by omega)
  · simp only [List.mem_cons, List.not_mem_nil, or_false] at hb
    rcases hb with rfl | rfl | rfl | rfl <;> exact hbyte _ (by omega) (by omega)

/-- A character that is not escaped stands for itself. -/
theorem plain_of_mem_utf8EncodeChar (hquote : c ≠ '"') (hbackslash : c ≠ '\\')
    (hcontrol : ¬ c.toNat < 0x20) :
    ∀ b ∈ String.utf8EncodeChar c, b ≠ quote ∧ b ≠ backslash ∧ ¬ b < space := by
  intro b hb
  -- An ASCII character is its byte, and the bytes of any other one are none of these.
  by_cases hascii : c.toNat < 128
  · rw [Bytes.utf8EncodeChar_ascii hascii, List.mem_singleton] at hb
    subst hb
    have hchar := Bytes.char_byte hascii
    have hbyte := Bytes.toNat_byte hascii
    refine ⟨?_, ?_, ?_⟩
    · intro heq
      rw [heq] at hchar
      exact hquote (hchar.symm.trans (by decide))
    · intro heq
      rw [heq] at hchar
      exact hbackslash (hchar.symm.trans (by decide))
    · rw [UInt8.lt_iff_toNat_lt, hbyte]
      exact hcontrol
  · have hle := le_of_mem_utf8EncodeChar (by omega) b hb
    refine ⟨?_, ?_, ?_⟩
    · rintro rfl
      exact absurd hle (by decide)
    · rintro rfl
      exact absurd hle (by decide)
    · rw [UInt8.lt_iff_toNat_lt]
      have hspace : space.toNat = 32 := rfl
      omega

/-- A hexadecimal digit that was written has its value. -/
theorem char_byte_digitChar (h : n < 16) : Hex.value? (char (byte n.digitChar)) = some n := by
  have hascii : ∀ k < 16, k.digitChar.toNat < 128 := by decide
  rw [Bytes.char_byte (hascii n h), Hex.value?_digitChar n h]

/-- A control character by its number. -/
theorem escapeFrom_control (h : c.toNat < 0x20) :
    escapeFrom (byte 'u' :: byte '0' :: byte '0' :: byte (c.toNat / 16).digitChar ::
      byte (c.toNat % 16).digitChar :: t) = .ok (c, t) := by
  have hhigh := char_byte_digitChar (n := c.toNat / 16) (by omega)
  have hlow := char_byte_digitChar (n := c.toNat % 16) (by omega)
  have hzero : Hex.value? (char (byte '0')) = some 0 := by decide
  have hsimple : simpleEscape? (byte 'u') = none := by decide
  have hfour : fourHexFrom (byte '0' :: byte '0' :: byte (c.toNat / 16).digitChar ::
      byte (c.toNat % 16).digitChar :: t) = .ok (c.toNat, t) := by
    simp only [fourHexFrom, hzero, hhigh, hlow]
    congr 2
    omega
  have hsurrogate : isLowSurrogate c.toNat = false ∧ isHighSurrogate c.toNat = false := by
    simp only [isLowSurrogate, isHighSurrogate, Bool.and_eq_false_iff, decide_eq_false_iff_not]
    omega
  simp only [escapeFrom, hsimple, if_true, unicodeFrom, hfour, hsurrogate.1, hsurrogate.2]
  simp [Char.ofNat_toNat]

/-- A letter behind a backslash. -/
theorem bodyFrom_letter {d : Char} (hd : d.toNat < 128) (hc : simpleEscape? (byte d) = some c)
    (ht : bodyFrom t = .ok (bs, r)) :
    bodyFrom (Bytes.ofChars ['\\', d] ++ t) = .ok (String.utf8EncodeChar c ++ bs, r) := by
  have hbytes : Bytes.ofChars ['\\', d] ++ t = backslash :: byte d :: t := by
    rw [Bytes.ofChars_ascii (by decide), Bytes.ofChars_ascii hd]
    rfl
  rw [hbytes]
  apply bodyFrom_backslash _ ht
  simp only [escapeFrom, hc]

/-- **A character is read as it was written**, whatever follows it. -/
theorem bodyFrom_escape (c : Char) (ht : bodyFrom t = .ok (bs, r)) :
    bodyFrom (Bytes.ofChars (escape c) ++ t) = .ok (String.utf8EncodeChar c ++ bs, r) := by
  unfold escape
  -- Seven characters have a letter of their own.
  iterate 7
    split
    · rename_i hc
      subst hc
      exact bodyFrom_letter (by decide) (by decide) ht
  split
  · rename_i hcontrol
    have hascii : ∀ k < 16, k.digitChar.toNat < 128 := by decide
    rw [Bytes.ofChars_ascii (by decide), Bytes.ofChars_ascii (by decide),
      Bytes.ofChars_ascii (by decide), Bytes.ofChars_ascii (by decide),
      Bytes.ofChars_ascii (hascii _ (by omega)), Bytes.ofChars_ascii (hascii _ (by omega))]
    exact bodyFrom_backslash (escapeFrom_control hcontrol) ht
  · rename_i hquote hbackslash _ _ _ _ _ hcontrol
    rw [Bytes.ofChars_cons, Bytes.ofChars_nil, List.append_nil]
    exact bodyFrom_plain (plain_of_mem_utf8EncodeChar hquote hbackslash hcontrol) ht

/-- A string is read as it was escaped, whatever follows its closing quote. -/
theorem bodyFrom_flatMap_escape (cs : List Char) (rest : Bytes) :
    bodyFrom (Bytes.ofChars (cs.flatMap escape) ++ quote :: rest) = .ok (Bytes.ofChars cs, rest) := by
  induction cs with
  | nil =>
    rw [List.flatMap_nil, Bytes.ofChars_nil, List.nil_append, bodyFrom, if_pos rfl]
  | cons c cs ih =>
    rw [List.flatMap_cons, Bytes.ofChars_append, List.append_assoc, bodyFrom_escape c ih,
      Bytes.ofChars_cons]

/-- **A string is read as it was written.** -/
theorem run_text_escape (s : String) (rest : Bytes) :
    text.run (Bytes.ofChars (s.toList.flatMap escape) ++ quote :: rest) = .ok (s, rest) := by
  rw [text, run_bind]
  simp only [bodyFrom_flatMap_escape]
  rw [← Bytes.ofText_eq_ofChars, Bytes.text?_ofText]
  rfl

/-! ### Values -/

/-- A value in which no number is a double. -/
inductive FloatFree : Json → Prop
  | null : FloatFree .null
  | bool (b : Bool) : FloatFree (.bool b)
  | natural (n : UInt64) : FloatFree (.number (.natural n))
  | negSucc (k : Fin Number.negativeCount) : FloatFree (.number (.negSucc k))
  | string (s : String) : FloatFree (.string s)
  | array {items : List Json} (elements : ∀ j ∈ items, FloatFree j) : FloatFree (.array items)
  | object {fields : List (String × Json)} (values : ∀ e ∈ fields, FloatFree e.2) :
      FloatFree (.object fields)

/-- What writes no floating point number does so in no item of an array. -/
theorem FloatFree.array_map {α : Type} {write : α → Json} (h : ∀ a, FloatFree (write a))
    (as : List α) : FloatFree (.array (as.map write)) := by
  refine .array fun j hj => ?_
  obtain ⟨a, -, rfl⟩ := List.mem_map.1 hj
  exact h a

mutual

/-- A value as its text is written. -/
def outline : Json → Outline
  | .null => .null
  | .bool b => .bool b
  | .number n => .number (some n)
  | .string s => .string (some s)
  | .array items => .sequence (outlines items)
  | .object fields => .map (outlineFields fields)

/-- Each element as it is written. -/
def outlines : List Json → List Outline
  | [] => []
  | j :: rest => outline j :: outlines rest

/-- Each field as it is written. -/
def outlineFields : List (String × Json) → List (Option String × Outline)
  | [] => []
  | (k, v) :: rest => (some k, outline v) :: outlineFields rest

end

theorem outlines_eq_map (items : List Json) : outlines items = items.map outline := by
  induction items with
  | nil => rfl
  | cons j items ih => rw [outlines, ih, List.map_cons]

theorem outlineFields_eq_map (fields : List (String × Json)) :
    outlineFields fields = fields.map fun e => (some e.1, outline e.2) := by
  induction fields with
  | nil => rfl
  | cons e fields ih => rw [outlineFields, ih, List.map_cons]

/-- Where no blank stands in front, nothing is skipped. -/
theorem front_of_not_blank {b : UInt8} (h : isBlank b = false) :
    (b :: s).dropWhile isBlank = b :: s := by
  rw [List.dropWhile_cons, h]
  rfl

/-- A comma or a closing bracket ends a number. -/
theorem delimits_cons {b : UInt8} (h : b = comma ∨ b = closeBracket ∨ b = closeBrace) :
    Delimits (b :: rest) := by
  intro d hd
  cases hd
  rcases h with rfl | rfl | rfl <;> decide

/-- Neither a sign nor a digit is a blank. -/
theorem isBlank_of_sign {b : UInt8} (h : b = minus ∨ isDigit b) : isBlank b = false := by
  rcases h with rfl | h
  · decide
  · simp only [isBlank, Bool.or_eq_false_iff, beq_eq_false_iff_ne]
    refine ⟨⟨⟨?_, ?_⟩, ?_⟩, ?_⟩ <;> rintro rfl <;> exact absurd h (by decide)

/-- Digits, with or without a sign, are spelled. -/
theorem spelling_toDigits (negative : Bool) (n : Nat) (hrest : Delimits rest) :
    Spelling ((if negative then [minus] else []) ++ (Bytes.ofChars (Nat.toDigits 10 n) ++ rest))
      (.number (Number.ofNumeral? ⟨negative, Nat.toDigits 10 n, [], 0, true⟩)) rest := by
  have hread := numeralFrom_toDigits (e := .malformed) negative n hrest
  have hspells := Numeral.spells_toDigits n
  obtain ⟨d, ds, hds⟩ := List.exists_cons_of_ne_nil hspells.nonempty
  have hd := hspells.decimal d (hds ▸ List.mem_cons_self)
  have hfront : ∃ b t, (if negative then [minus] else []) ++
      (Bytes.ofChars (Nat.toDigits 10 n) ++ rest) = b :: t ∧ (b = minus ∨ isDigit b) := by
    cases negative with
    | true => exact ⟨minus, _, rfl, .inl rfl⟩
    | false =>
      rw [hds, Bytes.ofChars_ascii (toNat_lt_of_decimal hd)]
      exact ⟨byte d, _, rfl, .inr (isDigit_byte hd)⟩
  obtain ⟨b, t, hbytes, hsign⟩ := hfront
  rw [hbytes] at hread ⊢
  exact .number (front_of_not_blank (isBlank_of_sign hsign)) hsign hread

/-- A number that is no double is spelled by its digits. -/
theorem spelling_number {n : Number} (hn : FloatFree (.number n)) (hrest : Delimits rest) :
    Spelling (Bytes.ofChars n.render ++ rest) (.number (some n)) rest := by
  cases hn with
  | natural n =>
    rw [← ofNumeral?_natural n]
    exact spelling_toDigits false n.toNat hrest
  | negSucc k =>
    rw [← ofNumeral?_negSucc k, Number.render, Bytes.ofChars_ascii (by decide)]
    exact spelling_toDigits true (k + 1) hrest

/-- What stands behind the quote that opens a string. -/
theorem ofChars_renderString (s : String) (rest : Bytes) :
    Bytes.ofChars (renderString s) ++ rest =
      quote :: (Bytes.ofChars (s.toList.flatMap escape) ++ quote :: rest) := by
  rw [renderString, Bytes.ofChars_append, List.append_assoc, Bytes.ofChars_ascii (by decide),
    Bytes.ofChars_ascii (by decide)]
  rfl

/-- A string is spelled by its rendering. -/
theorem spelling_string (s : String) (rest : Bytes) :
    Spelling (Bytes.ofChars (renderString s) ++ rest) (.string (some s)) rest := by
  obtain ⟨hskip, hspelled⟩ := text_eq_ok_iff.1 (run_text_escape s rest)
  rw [ofChars_renderString, ← hspelled]
  exact .string (front_of_not_blank (by decide)) hskip

/-- A member is spelled by its key, a colon and its value. -/
theorem member_render {o : Outline} (k : String) (h : Spelling t o rest) :
    Member (Bytes.ofChars (k.toList.flatMap escape) ++ quote :: Ascii.colon :: t) (some k, o)
      rest := by
  obtain ⟨hskip, hspelled⟩ := text_eq_ok_iff.1 (run_text_escape k (Ascii.colon :: t))
  rw [← hspelled]
  exact .intro hskip (front_of_not_blank (by decide)) h

/-- Behind an item stands a comma or the end of the sequence, and either ends a number. -/
theorem delimits_renderItems (js : List Json) (rest : Bytes) :
    Delimits (Bytes.ofChars (renderItems js) ++ closeBracket :: rest) := by
  cases js with
  | nil => exact delimits_cons (.inr (.inl rfl))
  | cons j js =>
    rw [renderItems, List.cons_append, Bytes.ofChars_ascii (by decide)]
    exact delimits_cons (.inl rfl)

/-- Behind a member stands a comma or the end of the map. -/
theorem delimits_renderFields (fields : List (String × Json)) (rest : Bytes) :
    Delimits (Bytes.ofChars (renderFields fields) ++ closeBrace :: rest) := by
  cases fields with
  | nil => exact delimits_cons (.inr (.inr rfl))
  | cons e fields =>
    obtain ⟨k, v⟩ := e
    rw [renderFields, List.cons_append, List.cons_append, Bytes.ofChars_ascii (by decide)]
    exact delimits_cons (.inl rfl)

/-- The bytes of a field: its key in quotes, a colon, its value, and what follows. -/
theorem ofChars_renderField (k : String) (value later : List Char) (rest : Bytes) :
    Bytes.ofChars (renderString k ++ ':' :: value ++ later) ++ rest =
      quote :: (Bytes.ofChars (k.toList.flatMap escape) ++ quote :: Ascii.colon ::
        (Bytes.ofChars value ++ (Bytes.ofChars later ++ rest))) := by
  rw [Bytes.ofChars_append, Bytes.ofChars_append, List.append_assoc, List.append_assoc,
    ofChars_renderString, Bytes.ofChars_ascii (by decide)]
  rfl

mutual

/-- **A value is spelled by its text**, whatever follows it. -/
theorem spelling_render {j : Json} (hj : FloatFree j) {rest : Bytes} (hrest : Delimits rest) :
    Spelling (Bytes.ofChars j.render ++ rest) j.outline rest := by
  cases j with
  | null => exact .null (front_of_not_blank (by decide))
  | bool b =>
    cases b with
    | false => exact .false (front_of_not_blank (by decide))
    | true => exact .true (front_of_not_blank (by decide))
  | number n => exact spelling_number hj hrest
  | string s => exact spelling_string s rest
  | array items =>
    have helements : ∀ i ∈ items, FloatFree i := by
      cases hj with
      | array elements => exact elements
    cases items with
    | nil => exact .sequence (front_of_not_blank (by decide)) (.none (front_of_not_blank (by decide)))
    | cons i items =>
      obtain ⟨hi, hitems⟩ := List.forall_mem_cons.1 helements
      -- The bracket, the first element, and what follows that: the others and the closing bracket.
      have hbytes : Bytes.ofChars (render (.array (i :: items))) ++ rest =
          openBracket :: (Bytes.ofChars i.render ++
            (Bytes.ofChars (renderItems items) ++ closeBracket :: rest)) := by
        rw [render, List.cons_append, List.cons_append, Bytes.ofChars_ascii (by decide),
          Bytes.ofChars_append, Bytes.ofChars_append, Bytes.ofChars_ascii (by decide)]
        simp only [List.cons_append, List.append_assoc, Bytes.ofChars_nil, List.nil_append]
        rfl
      rw [hbytes]
      exact .sequence (front_of_not_blank (by decide))
        (.some (spelling_render hi (delimits_renderItems items rest)) (laterItems_render hitems rest))
  | object fields =>
    have hvalues : ∀ e ∈ fields, FloatFree e.2 := by
      cases hj with
      | object values => exact values
    match fields with
    | [] => exact .map (front_of_not_blank (by decide)) (.none (front_of_not_blank (by decide)))
    | (k, v) :: fields =>
      obtain ⟨hv, hfields⟩ := List.forall_mem_cons.1 hvalues
      have hbytes : Bytes.ofChars (render (.object ((k, v) :: fields))) ++ rest =
          openBrace :: (Bytes.ofChars (renderString k ++ ':' :: render v ++ renderFields fields) ++
            closeBrace :: rest) := by
        rw [render, List.cons_append, List.cons_append, List.cons_append,
          Bytes.ofChars_ascii (by decide), Bytes.ofChars_append _ ['\x7d'],
          Bytes.ofChars_ascii (by decide)]
        simp only [List.cons_append, List.append_assoc, Bytes.ofChars_nil, List.nil_append]
        rfl
      rw [hbytes, ofChars_renderField]
      exact .map (front_of_not_blank (by decide))
        (.some (front_of_not_blank (by decide))
          (member_render k (spelling_render hv (delimits_renderFields fields rest)))
          (laterMembers_render hfields rest))

/-- The later items of a sequence are spelled by their rendering. -/
theorem laterItems_render {js : List Json} (hjs : ∀ j ∈ js, FloatFree j) (rest : Bytes) :
    LaterItems (Bytes.ofChars (renderItems js) ++ closeBracket :: rest) (outlines js) rest := by
  cases js with
  | nil => exact .done (front_of_not_blank (by decide))
  | cons j js =>
    obtain ⟨hj, hrest⟩ := List.forall_mem_cons.1 hjs
    rw [renderItems, List.cons_append, Bytes.ofChars_ascii (by decide), Bytes.ofChars_append,
      List.cons_append, List.append_assoc]
    exact .next (front_of_not_blank (by decide)) (spelling_render hj (delimits_renderItems js rest))
      (laterItems_render hrest rest)

/-- The later members of a map are spelled by theirs. -/
theorem laterMembers_render {fields : List (String × Json)} (hfields : ∀ e ∈ fields, FloatFree e.2)
    (rest : Bytes) :
    LaterMembers (Bytes.ofChars (renderFields fields) ++ closeBrace :: rest) (outlineFields fields)
      rest := by
  match fields with
  | [] => exact .done (front_of_not_blank (by decide))
  | (k, v) :: fields =>
    obtain ⟨hv, hlater⟩ := List.forall_mem_cons.1 hfields
    rw [renderFields, List.cons_append, List.cons_append, Bytes.ofChars_ascii (by decide),
      List.cons_append, ofChars_renderField]
    exact .next (front_of_not_blank (by decide)) (front_of_not_blank (by decide))
      (member_render k (spelling_render hv (delimits_renderFields fields rest)))
      (laterMembers_render hlater rest)

end

theorem delimits_nil : Delimits [] := by
  intro b hb
  cases hb

/-- The text of a value spells it. -/
theorem spells_toText {j : Json} (hj : FloatFree j) : Spells (Bytes.ofText j.toText) j.outline := by
  refine ⟨[], ?_, rfl⟩
  have hspelling := spelling_render hj delimits_nil
  rwa [List.append_nil, ← Bytes.ofText_ofList] at hspelling

mutual

/-- What is written of a value has that value. -/
theorem denotes_outline (j : Json) : j.outline.Denotes j := by
  cases j with
  | null => exact .null
  | bool b => exact .bool b
  | number n => exact .number n
  | string s => exact .string s
  | array items => exact .sequence (forall₂_outlines items)
  | object fields => exact .map (forall₂_outlineFields fields)

/-- Items denote themselves, one by one. -/
theorem forall₂_outlines (items : List Json) :
    List.Forall₂ Outline.Denotes (outlines items) items := by
  cases items with
  | nil => exact .nil
  | cons j items => exact .cons (denotes_outline j) (forall₂_outlines items)

/-- So do fields. -/
theorem forall₂_outlineFields (fields : List (String × Json)) :
    List.Forall₂ Outline.DenotesField (outlineFields fields) fields := by
  match fields with
  | [] => exact .nil
  | (k, v) :: fields => exact .cons (.intro (denotes_outline v)) (forall₂_outlineFields fields)

end

/-- **A value is read as it was written.** -/
theorem parse_toText {j : Json} (hj : FloatFree j) (hdepth : j.outline.within maxNesting = true) :
    parse (Bytes.ofText j.toText) = .ok j :=
  parse_eq_ok_iff.2 ⟨j.outline, spells_toText hj, hdepth, denotes_outline j⟩

end Json

end TokenCatalog
