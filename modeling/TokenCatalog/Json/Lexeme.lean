import TokenCatalog.Json.Reader
import TokenCatalog.Text.Hex

namespace TokenCatalog.Json

open Ascii

/-!
# Lexemes — numerals and strings

* `Numeral`, `Number.ofNumeral?` — the parts of a numeral and the number they denote: an integer
  while it fits 64 bits, else a double;
* `Reader.number` — a numeral and its value;
* `Reader.text` — the rest of a string, its escapes replaced, which must be UTF-8;
* `Reader.skipText` — the rest of a string that nobody looks at.
-/

/-! ### Numerals -/

/-- The parts of a numeral. -/
structure Numeral where
  negative : Bool
  whole : List Char
  fraction : List Char
  exponent : Int
  /-- Neither a fraction nor an exponent was written. -/
  isInteger : Bool
  deriving DecidableEq, Repr

/-- Take digits from the front into a significand while it stays below `2⁶⁴`: the significand and
    how many digits it took. -/
def Numeral.absorb (significand : Nat) : List Char → Nat × Nat
  | [] => (significand, 0)
  | d :: ds =>
    let next := significand * 10 + (d.toNat - '0'.toNat)
    if next < UInt64.size then
      let (value, taken) := absorb next ds
      (value, taken + 1)
    else (significand, 0)

/-- The double of a numeral: the leading digits that fit 64 bits, scaled once. -/
def Numeral.float? (n : Numeral) : Option Binary64 :=
  let (high, taken) := Numeral.absorb 0 n.whole
  let (significand, places) := Numeral.absorb high n.fraction
  Binary64.ofScientific? n.negative significand
    ((n.whole.length : Int) - taken - places + n.exponent)

/-- The number a numeral denotes, none when it is too large for a double.  Minus zero is a double,
    as is every integer that 64 bits do not hold. -/
def Number.ofNumeral? (n : Numeral) : Option Number :=
  let value := Nat.ofDigitChars 10 n.whole 0
  if n.isInteger ∧ value < UInt64.size then
    if n.negative then
      if h : 0 < value ∧ value ≤ negativeCount then
        some (.negSucc ⟨value - 1, by omega⟩)
      else some (.float (Binary64.ofNeg value))
    else some (.natural (UInt64.ofNat value))
  else n.float?.map .float

/-- The digits at the front of the input, and the rest. -/
def spanDigits (s : Bytes) : List Char × Bytes :=
  ((s.takeWhile isDigit).map Ascii.char, s.dropWhile isDigit)

/-- Whether a minus stands in front, and what is behind the sign. -/
def signFrom : Bytes → Bool × Bytes
  | [] => (false, [])
  | b :: r => if b = minus then (true, r) else if b = plus then (false, r) else (false, b :: r)

/-- Digits at the front of the input, at least one; `atEnd` is the fault of an input that ends
    before the first. -/
def digitsFrom (atEnd : Fault) (s : Bytes) : Except Fault (List Char × Bytes) :=
  match spanDigits s with
  | ([], []) => .error atEnd
  | ([], _ :: _) => .error .malformed
  | (d :: ds, t) => .ok (d :: ds, t)

/-- The exponent at the front of the input, if one is written; `atEnd` is the fault of an input
    that ends inside it. -/
def exponentFrom (atEnd : Fault) (s : Bytes) : Except Fault (Option Int × Bytes) :=
  match s with
  | b :: r =>
    if b = byte 'e' ∨ b = byte 'E' then
      match digitsFrom atEnd (signFrom r).2 with
      | .error e => .error e
      | .ok (ds, t) =>
        let value := Nat.ofDigitChars 10 ds 0
        .ok (some (if (signFrom r).1 then -value else value), t)
    else .ok (none, s)
  | [] => .ok (none, s)

/-- The fraction at the front of the input, empty if none is written. -/
def fractionFrom (atEnd : Fault) (s : Bytes) : Except Fault (List Char × Bytes) :=
  match s with
  | b :: r =>
    if b = dot then digitsFrom atEnd r else .ok ([], s)
  | [] => .ok ([], s)

/-- The whole digits at the front of the input: a zero stands alone. -/
def wholeFrom (atEnd : Fault) (s : Bytes) : Except Fault (List Char × Bytes) :=
  match digitsFrom atEnd s with
  | .error e => .error e
  | .ok (ds, t) => if ds.head? = some '0' ∧ ds ≠ ['0'] then .error .malformed else .ok (ds, t)

/-- The numeral at the front of the input; `atEnd` is the fault of an input that ends inside it. -/
def numeralFrom (atEnd : Fault) (s : Bytes) : Except Fault (Numeral × Bytes) := do
  let negative := s.head? == some minus
  let (whole, r) ← wholeFrom atEnd (if negative then s.tail else s)
  let (fraction, t) ← fractionFrom atEnd r
  let (exponent, u) ← exponentFrom atEnd t
  return (⟨negative, whole, fraction, exponent.getD 0, fraction = [] ∧ exponent = none⟩, u)

/-- What is left behind digits is no longer than what there was. -/
theorem length_spanDigits_le (s : Bytes) : (spanDigits s).2.length ≤ s.length :=
  (List.dropWhile_sublist _).length_le

/-- A sign takes one byte or none. -/
theorem length_signFrom_le (s : Bytes) : (signFrom s).2.length ≤ s.length := by
  unfold signFrom
  split
  · exact Nat.le_refl _
  · split
    · exact Nat.le_succ _
    · split
      · exact Nat.le_succ _
      · exact Nat.le_refl _

/-- Nor do digits that must be there leave more than there was. -/
theorem digitsFrom_length_le {atEnd : Fault} {s : Bytes} {ds : List Char} {r : Bytes}
    (h : digitsFrom atEnd s = .ok (ds, r)) : r.length ≤ s.length := by
  have hle := length_spanDigits_le s
  unfold digitsFrom at h
  split at h
  · cases h
  · cases h
  · next hs =>
    cases h
    rw [hs] at hle
    exact hle

/-- An exponent leaves no more than there was. -/
theorem exponentFrom_length_le {atEnd : Fault} {s : Bytes} {a : Option Int} {r : Bytes}
    (h : exponentFrom atEnd s = .ok (a, r)) : r.length ≤ s.length := by
  unfold exponentFrom at h
  split at h
  · split at h
    · split at h
      · cases h
      · next t _ _ _ hd =>
        cases h
        exact Nat.le_succ_of_le
          (Nat.le_trans (digitsFrom_length_le hd) (length_signFrom_le _))
    · cases h
      exact Nat.le_refl _
  · cases h
    exact Nat.le_refl _

/-- Nor does a fraction. -/
theorem fractionFrom_length_le {atEnd : Fault} {s : Bytes} {a : List Char} {r : Bytes}
    (h : fractionFrom atEnd s = .ok (a, r)) : r.length ≤ s.length := by
  unfold fractionFrom at h
  split at h
  · split at h
    · exact Nat.le_succ_of_le (digitsFrom_length_le h)
    · cases h
      exact Nat.le_refl _
  · cases h
    exact Nat.le_refl _

/-- Nor does the whole part of a number. -/
theorem wholeFrom_length_le {atEnd : Fault} {s : Bytes} {a : List Char} {r : Bytes}
    (h : wholeFrom atEnd s = .ok (a, r)) : r.length ≤ s.length := by
  unfold wholeFrom at h
  split at h
  · cases h
  · next hd =>
    split at h
    · cases h
    · cases h
      exact digitsFrom_length_le hd

/-- A numeral is read part by part, and each of them leaves no more than there was. -/
theorem numeralFrom_length_le {atEnd : Fault} {s : Bytes} {n : Numeral} {r : Bytes}
    (h : numeralFrom atEnd s = .ok (n, r)) : r.length ≤ s.length := by
  unfold numeralFrom at h
  simp only [bind, Except.bind] at h
  split at h
  · cases h
  next p hw =>
  split at h
  · cases h
  next q hf =>
  split at h
  · cases h
  next u he =>
  cases h
  have h1 := wholeFrom_length_le (a := p.1) (r := p.2) hw
  have h2 := fractionFrom_length_le (a := q.1) (r := q.2) hf
  have h3 := exponentFrom_length_le (a := u.1) (r := u.2) he
  have h4 : (if (s.head? == some minus) = true then s.tail else s).length ≤ s.length := by
    split <;> simp
  omega

namespace Reader

/-- A numeral. -/
def numeral (atEnd : Fault) : Reader Numeral := ⟨numeralFrom atEnd, numeralFrom_length_le⟩

/-- A number. -/
def number : Reader Number := do
  match Number.ofNumeral? (← numeral .truncated) with
  | some n => return n
  | none => fail .malformed

end Reader

/-! ### Strings -/

/-- The character a letter stands for behind a backslash. -/
def simpleEscape? (b : UInt8) : Option Char :=
  if b = quote then some '"'
  else if b = backslash then some '\\'
  else if b = byte '/' then some '/'
  else if b = byte 'b' then some '\x08'
  else if b = byte 'f' then some '\x0c'
  else if b = byte 'n' then some '\n'
  else if b = byte 'r' then some '\r'
  else if b = byte 't' then some '\t'
  else none

/-- The number that four hexadecimal digits spell. -/
def fourHexFrom : Bytes → Except Fault (Nat × Bytes)
  | a :: b :: c :: d :: r =>
    match Hex.value? (char a), Hex.value? (char b), Hex.value? (char c), Hex.value? (char d) with
    | some w, some x, some y, some z => .ok (((w * 16 + x) * 16 + y) * 16 + z, r)
    | _, _, _, _ => .error .malformed
  | _ => .error .truncated

/-- A leading surrogate. -/
def isHighSurrogate (n : Nat) : Bool := 0xD800 ≤ n && n ≤ 0xDBFF

/-- A trailing surrogate. -/
def isLowSurrogate (n : Nat) : Bool := 0xDC00 ≤ n && n ≤ 0xDFFF

/-- The digits behind `\u` at the front of the input. -/
def escapedHexFrom : Bytes → Except Fault (Nat × Bytes)
  | [] => .error .truncated
  | b :: r =>
    if b ≠ backslash then .error .malformed
    else
      match r with
      | [] => .error .truncated
      | c :: t => if c ≠ byte 'u' then .error .malformed else fourHexFrom t

/-- The trailing surrogate that must follow a leading one. -/
def lowSurrogateFrom (s : Bytes) : Except Fault (Nat × Bytes) :=
  match escapedHexFrom s with
  | .error e => .error e
  | .ok (n, r) => if isLowSurrogate n then .ok (n, r) else .error .malformed

/-- The character that the digits behind `\u` spell; surrogates must come in pairs. -/
def unicodeFrom (s : Bytes) : Except Fault (Char × Bytes) :=
  match fourHexFrom s with
  | .error e => .error e
  | .ok (n, r) =>
    if isLowSurrogate n then .error .malformed
    else if isHighSurrogate n then
      match lowSurrogateFrom r with
      | .error e => .error e
      | .ok (m, t) => .ok (Char.ofNat ((n - 0xD800) * 0x400 + (m - 0xDC00) + 0x10000), t)
    else .ok (Char.ofNat n, r)

/-- The character an escape stands for, behind its backslash. -/
def escapeFrom : Bytes → Except Fault (Char × Bytes)
  | [] => .error .truncated
  | b :: r =>
    match simpleEscape? b with
    | some c => .ok (c, r)
    | none => if b = byte 'u' then unicodeFrom r else .error .malformed

/-- An escape that nobody looks at: its digits are checked, its value is not. -/
def skipEscapeFrom : Bytes → Except Fault (Unit × Bytes)
  | [] => .error .truncated
  | b :: r =>
    match simpleEscape? b with
    | some _ => .ok ((), r)
    | none =>
      if b = byte 'u' then
        match fourHexFrom r with
        | .error e => .error e
        | .ok (_, t) => .ok ((), t)
      else .error .malformed

/-- Four hexadecimal digits leave no more than there was. -/
theorem fourHexFrom_length_le {s : Bytes} {n : Nat} {r : Bytes}
    (h : fourHexFrom s = .ok (n, r)) : r.length ≤ s.length := by
  unfold fourHexFrom at h
  split at h
  · split at h
    · cases h
      simp only [List.length_cons]
      omega
    · cases h
  · cases h

/-- So do four such digits behind the escape that announces them. -/
theorem escapedHexFrom_length_le {s : Bytes} {n : Nat} {r : Bytes}
    (h : escapedHexFrom s = .ok (n, r)) : r.length ≤ s.length := by
  unfold escapedHexFrom at h
  split at h
  · cases h
  split at h
  · cases h
  split at h
  · cases h
  split at h
  · cases h
  · exact Nat.le_succ_of_le (Nat.le_succ_of_le (fourHexFrom_length_le h))

/-- The second half of a pair is such an escape. -/
theorem lowSurrogateFrom_length_le {s : Bytes} {n : Nat} {r : Bytes}
    (h : lowSurrogateFrom s = .ok (n, r)) : r.length ≤ s.length := by
  unfold lowSurrogateFrom at h
  split at h
  · cases h
  next hu =>
  split at h
  · cases h
    exact escapedHexFrom_length_le hu
  · cases h

/-- A character of the escapes `\u` takes one of them or two. -/
theorem unicodeFrom_length_le {s : Bytes} {c : Char} {r : Bytes}
    (h : unicodeFrom s = .ok (c, r)) : r.length ≤ s.length := by
  unfold unicodeFrom at h
  split at h
  · cases h
  next n t ht =>
  have h1 := fourHexFrom_length_le ht
  split at h
  · cases h
  split at h
  · split at h
    · cases h
    next m u hu =>
    simp only [Except.ok.injEq, Prod.mk.injEq] at h
    obtain ⟨_, rfl⟩ := h
    exact Nat.le_trans (lowSurrogateFrom_length_le hu) h1
  · cases h
    exact h1

/-- Every escape takes a byte, so that reading the body of a string comes to an end. -/
theorem escapeFrom_length_lt {s : Bytes} {c : Char} {r : Bytes}
    (h : escapeFrom s = .ok (c, r)) : r.length < s.length := by
  unfold escapeFrom at h
  split at h
  · cases h
  split at h
  · cases h
    exact Nat.lt_succ_self _
  split at h
  · exact Nat.lt_succ_of_le (unicodeFrom_length_le h)
  · cases h

/-- Also where an escape is only skipped. -/
theorem skipEscapeFrom_length_lt {s : Bytes} {a : Unit} {r : Bytes}
    (h : skipEscapeFrom s = .ok (a, r)) : r.length < s.length := by
  unfold skipEscapeFrom at h
  split at h
  · cases h
  split at h
  · cases h
    exact Nat.lt_succ_self _
  split at h
  · split at h
    · cases h
    next ht =>
    cases h
    exact Nat.lt_succ_of_le (fourHexFrom_length_le ht)
  · cases h

/-- The bytes of a string up to its closing quote, escapes replaced. -/
def bodyFrom (s : Bytes) : Except Fault (Bytes × Bytes) :=
  match s with
  | [] => .error .truncated
  | b :: r =>
    if b = quote then .ok ([], r)
    else if b = backslash then
      match _he : escapeFrom r with
      | .error e => .error e
      | .ok (c, t) =>
        match bodyFrom t with
        | .error e => .error e
        | .ok (bs, u) => .ok (String.utf8EncodeChar c ++ bs, u)
    else if b < space then .error .malformed
    else
      match bodyFrom r with
      | .error e => .error e
      | .ok (bs, u) => .ok (b :: bs, u)
termination_by s.length
decreasing_by
  · exact Nat.lt_succ_of_lt (escapeFrom_length_lt _he)
  · exact Nat.lt_succ_self _

/-- Skip the bytes of a string up to its closing quote. -/
def skipBodyFrom (s : Bytes) : Except Fault (Unit × Bytes) :=
  match s with
  | [] => .error .truncated
  | b :: r =>
    if b = quote then .ok ((), r)
    else if b = backslash then
      match _he : skipEscapeFrom r with
      | .error e => .error e
      | .ok (_, t) => skipBodyFrom t
    else if b < space then .error .malformed
    else skipBodyFrom r
termination_by s.length
decreasing_by
  · exact Nat.lt_succ_of_lt (skipEscapeFrom_length_lt _he)
  · exact Nat.lt_succ_self _

/-- The body of a string takes its closing quote, at least. -/
theorem bodyFrom_length_lt {s bs r : Bytes} (h : bodyFrom s = .ok (bs, r)) :
    r.length < s.length := by
  fun_induction bodyFrom s generalizing bs r with
  | case2 =>
    cases h
    exact Nat.lt_succ_self _
  | case5 _ _ _ he _ _ hrec _ ih =>
    cases h
    exact Nat.lt_succ_of_lt (Nat.lt_trans (ih hrec) (escapeFrom_length_lt he))
  | case8 _ _ _ _ _ _ _ hrec ih =>
    cases h
    exact Nat.lt_succ_of_lt (ih hrec)
  | _ => cases h

/-- Also where it is only skipped. -/
theorem skipBodyFrom_length_lt {s : Bytes} {a : Unit} {r : Bytes}
    (h : skipBodyFrom s = .ok (a, r)) : r.length < s.length := by
  fun_induction skipBodyFrom s generalizing r with
  | case2 =>
    cases h
    exact Nat.lt_succ_self _
  | case4 _ _ _ he _ ih =>
    exact Nat.lt_succ_of_lt (Nat.lt_trans (ih h) (skipEscapeFrom_length_lt he))
  | case6 _ _ _ _ _ ih => exact Nat.lt_succ_of_lt (ih h)
  | _ => cases h

namespace Reader

/-- The rest of a string behind its opening quote; what it spells must be UTF-8. -/
def text : Reader String := do
  let bs : Bytes ← ⟨bodyFrom, fun h => Nat.le_of_lt (bodyFrom_length_lt h)⟩
  match Bytes.text? bs with
  | some s => return s
  | none => fail .malformed

/-- Skip the rest of a string behind its opening quote. -/
def skipText : Reader Unit := ⟨skipBodyFrom, fun h => Nat.le_of_lt (skipBodyFrom_length_lt h)⟩

end Reader

end TokenCatalog.Json
