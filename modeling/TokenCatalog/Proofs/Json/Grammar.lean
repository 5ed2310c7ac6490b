import TokenCatalog.Proofs.Json.Lexeme

namespace TokenCatalog.Json

open Ascii Reader

/-!
# The grammar of documents — what bytes spell, before anybody asks for a type

A reader that is after a type skips what it does not ask for, and there it looks at the form alone:
a numeral may be too large for a double, and the escapes of a string may spell no text.

* `Outline` — a value as it is written, with members in document order, repeated ones included;
* `Spelling` — the grammar: the value in front of some bytes, and what follows it;
* `Spells` — a whole document;
* `fits` — a value opens no more containers at once than it has bytes.
-/

/-- A value as it is written. -/
inductive Outline where
  | null
  | bool (b : Bool)
  /-- None for a numeral that is too large for a double. -/
  | number (n : Option Number)
  /-- None for a string that spells no text. -/
  | string (s : Option String)
  | sequence (items : List Outline)
  | map (members : List (Option String × Outline))

mutual

/-- The value in front of some bytes, and what follows it; blanks before it do not count. -/
inductive Spelling : Bytes → Outline → Bytes → Prop
  | null {s r : Bytes} (front : s.dropWhile isBlank = Bytes.ofText "null" ++ r) : Spelling s .null r
  | true {s r : Bytes} (front : s.dropWhile isBlank = Bytes.ofText "true" ++ r) :
      Spelling s (.bool .true) r
  | false {s r : Bytes} (front : s.dropWhile isBlank = Bytes.ofText "false" ++ r) :
      Spelling s (.bool .false) r
  | number {s t r : Bytes} {b : UInt8} {n : Numeral} (front : s.dropWhile isBlank = b :: t)
      (sign : b = minus ∨ isDigit b) (numeral : numeralFrom .malformed (b :: t) = .ok (n, r)) :
      Spelling s (.number (Number.ofNumeral? n)) r
  | string {s t r : Bytes} (front : s.dropWhile isBlank = quote :: t)
      (body : skipBodyFrom t = .ok ((), r)) : Spelling s (.string (spelled? t)) r
  | sequence {s t r : Bytes} {os : List Outline} (front : s.dropWhile isBlank = openBracket :: t)
      (items : Items t os r) : Spelling s (.sequence os) r
  | map {s t r : Bytes} {ms : List (Option String × Outline)}
      (front : s.dropWhile isBlank = openBrace :: t) (members : Members t ms r) :
      Spelling s (.map ms) r

/-- The elements behind an opening bracket, and what follows the closing one. -/
inductive Items : Bytes → List Outline → Bytes → Prop
  | none {s r : Bytes} (front : s.dropWhile isBlank = closeBracket :: r) : Items s [] r
  | some {s t r : Bytes} {o : Outline} {os : List Outline} (first : Spelling s o t)
      (later : LaterItems t os r) : Items s (o :: os) r

/-- The elements behind the first, each behind a comma. -/
inductive LaterItems : Bytes → List Outline → Bytes → Prop
  | done {s r : Bytes} (front : s.dropWhile isBlank = closeBracket :: r) : LaterItems s [] r
  | next {s t u r : Bytes} {o : Outline} {os : List Outline}
      (front : s.dropWhile isBlank = comma :: t) (item : Spelling t o u)
      (later : LaterItems u os r) :
      LaterItems s (o :: os) r

/-- The members behind an opening brace, and what follows the closing one. -/
inductive Members : Bytes → List (Option String × Outline) → Bytes → Prop
  | none {s r : Bytes} (front : s.dropWhile isBlank = closeBrace :: r) : Members s [] r
  | some {s t u r : Bytes} {m : Option String × Outline} {ms : List (Option String × Outline)}
      (front : s.dropWhile isBlank = quote :: t) (first : Member t m u)
      (later : LaterMembers u ms r) : Members s (m :: ms) r

/-- The members behind the first, each behind a comma. -/
inductive LaterMembers : Bytes → List (Option String × Outline) → Bytes → Prop
  | done {s r : Bytes} (front : s.dropWhile isBlank = closeBrace :: r) : LaterMembers s [] r
  | next {s t u v r : Bytes} {m : Option String × Outline} {ms : List (Option String × Outline)}
      (front : s.dropWhile isBlank = comma :: t) (key : t.dropWhile isBlank = quote :: u)
      (member : Member u m v) (later : LaterMembers v ms r) : LaterMembers s (m :: ms) r

/-- A member behind the quote that opens its key. -/
inductive Member : Bytes → Option String × Outline → Bytes → Prop
  | intro {s t u r : Bytes} {o : Outline} (key : skipBodyFrom s = .ok ((), t))
      (front : t.dropWhile isBlank = Ascii.colon :: u) (value : Spelling u o r) :
      Member s (spelled? s, o) r

end

/-- A whole document: one value, and blanks. -/
def Spells (raw : Bytes) (o : Outline) : Prop := ∃ r, Spelling raw o r ∧ r.all isBlank

/-! ### Depth -/

/-- Whether at most `depth` containers are open at once. -/
def Outline.within : Nat → Outline → Bool
  | 0, .sequence _ | 0, .map _ => false
  | d + 1, .sequence os => os.all fun o => o.within d
  | d + 1, .map ms => ms.all fun m => m.2.within d
  | _, _ => true

/-! ### What stands in front -/

/-- Whether a value may begin with a byte. -/
def Outline.begins (b : UInt8) : Outline → Bool
  | .null => b = byte 'n'
  | .bool .true => b = byte 't'
  | .bool .false => b = byte 'f'
  | .number _ => b = minus ∨ isDigit b
  | .string _ => b = quote
  | .sequence _ => b = openBracket
  | .map _ => b = openBrace

variable {s t r : Bytes} {o : Outline} {b : UInt8}

/-- No value begins with a closing bracket. -/
theorem Outline.ne_closeBracket_of_begins (h : o.begins b) : b ≠ closeBracket := by
  rintro rfl
  cases o with
  | bool c => cases c <;> exact absurd h (by decide)
  | null | number | string | sequence | map => exact absurd h (by simp only [begins]; decide)

/-- A value that begins with `n` is null. -/
theorem Outline.eq_null_of_begins (h : o.begins (byte 'n')) : o = .null := by
  cases o with
  | null => rfl
  | bool c => cases c <;> exact absurd h (by decide)
  | number | string | sequence | map => exact absurd h (by simp only [begins]; decide)

/-- Blanks apart, a spelling begins with a byte its outline may begin with. -/
theorem Spelling.exists_front (h : Spelling s o r) :
    ∃ b t, s.dropWhile isBlank = b :: t ∧ o.begins b := by
  cases h with
  | null front | true front | false front => exact ⟨_, _, front, rfl⟩
  | number front sign => exact ⟨_, _, front, decide_eq_true sign⟩
  | string front | sequence front | map front => exact ⟨_, _, front, rfl⟩

/-- Blanks are skipped once and for all. -/
@[simp] theorem dropWhile_isBlank_idem (s : Bytes) :
    (s.dropWhile isBlank).dropWhile isBlank = s.dropWhile isBlank := by
  induction s with
  | nil => rfl
  | cons b s ih =>
    cases hb : isBlank b with
    | true => simpa [hb] using ih
    | false => simp [hb]

/-- Blanks before a value do not count. -/
theorem spelling_dropWhile : Spelling (s.dropWhile isBlank) o r ↔ Spelling s o r := by
  constructor <;> intro h <;> cases h with
  | null front => exact .null (by simpa using front)
  | true front => exact .true (by simpa using front)
  | false front => exact .false (by simpa using front)
  | number front sign numeral => exact .number (by simpa using front) sign numeral
  | string front body => exact .string (by simpa using front) body
  | sequence front items => exact .sequence (by simpa using front) items
  | map front members => exact .map (by simpa using front) members

/-! ### How deep values nest -/

/-- What follows a byte is shorter than what was there before it, blanks and all. -/
theorem length_lt_of_front {b : UInt8} {t : Bytes} (h : s.dropWhile isBlank = b :: t) :
    t.length < s.length := length_lt_of_skipBlanks h

/-- What follows a word is no longer than what was there before it. -/
theorem length_le_of_word {w : Bytes} (h : s.dropWhile isBlank = w ++ r) :
    r.length ≤ s.length := by
  have hle := (List.dropWhile_sublist isBlank (l := s)).length_le
  rw [h, List.length_append] at hle
  omega

/-- What a value can be that stands in at most `n` bytes. -/
def Fits (n : Nat) : Prop :=
  ∀ {s o r}, s.length ≤ n → Spelling s o r → o.within n = true ∧ r.length ≤ s.length

/-- The items after the first are no deeper than their spelling is long. -/
theorem Fits.laterItems {n : Nat} (h : Fits n) {os : List Outline} (hs : s.length ≤ n)
    (hos : LaterItems s os r) : os.all (·.within n) = true ∧ r.length ≤ s.length := by
  induction os generalizing s with
  | nil =>
    cases hos with
    | done front => exact ⟨rfl, Nat.le_of_lt (length_lt_of_front front)⟩
  | cons o os ih =>
    cases hos with
    | next front item later =>
      have hcomma := length_lt_of_front front
      obtain ⟨ho, hitem⟩ := h (by omega) item
      obtain ⟨hall, hlater⟩ := ih (by omega) later
      exact ⟨by rw [List.all_cons, ho, hall]; rfl, by omega⟩

/-- The items of an array are no deeper than their spelling is long. -/
theorem Fits.items {n : Nat} (h : Fits n) {os : List Outline} (hs : s.length ≤ n)
    (hos : Items s os r) : os.all (·.within n) = true ∧ r.length ≤ s.length := by
  cases hos with
  | none front => exact ⟨rfl, Nat.le_of_lt (length_lt_of_front front)⟩
  | some first later =>
    obtain ⟨ho, hfirst⟩ := h hs first
    obtain ⟨hall, hlater⟩ := h.laterItems (by omega) later
    exact ⟨by rw [List.all_cons, ho, hall]; rfl, by omega⟩

/-- The value of a member is no deeper than the member's spelling is long. -/
theorem Fits.member {n : Nat} (h : Fits n) {m : Option String × Outline} (hs : s.length ≤ n)
    (hm : Member s m r) : m.2.within n = true ∧ r.length ≤ s.length := by
  cases hm with
  | intro key front value =>
    have hkey := skipBodyFrom_length_lt key
    have hcolon := length_lt_of_front front
    obtain ⟨ho, hvalue⟩ := h (by omega) value
    exact ⟨ho, by omega⟩

/-- The members after the first are no deeper than their spelling is long. -/
theorem Fits.laterMembers {n : Nat} (h : Fits n) {ms : List (Option String × Outline)}
    (hs : s.length ≤ n) (hms : LaterMembers s ms r) :
    ms.all (·.2.within n) = true ∧ r.length ≤ s.length := by
  induction ms generalizing s with
  | nil =>
    cases hms with
    | done front => exact ⟨rfl, Nat.le_of_lt (length_lt_of_front front)⟩
  | cons m ms ih =>
    cases hms with
    | next front key member later =>
      have hcomma := length_lt_of_front front
      have hquote := length_lt_of_front key
      obtain ⟨hm, hmember⟩ := h.member (by omega) member
      obtain ⟨hall, hlater⟩ := ih (by omega) later
      exact ⟨by rw [List.all_cons, hm, hall]; rfl, by omega⟩

/-- The members of an object are no deeper than their spelling is long. -/
theorem Fits.members {n : Nat} (h : Fits n) {ms : List (Option String × Outline)}
    (hs : s.length ≤ n) (hms : Members s ms r) :
    ms.all (·.2.within n) = true ∧ r.length ≤ s.length := by
  cases hms with
  | none front => exact ⟨rfl, Nat.le_of_lt (length_lt_of_front front)⟩
  | some front first later =>
    have hquote := length_lt_of_front front
    obtain ⟨hm, hfirst⟩ := h.member (by omega) first
    obtain ⟨hall, hlater⟩ := h.laterMembers (by omega) later
    exact ⟨by rw [List.all_cons, hm, hall]; rfl, by omega⟩

/-- A value nests no deeper than it is long. -/
theorem fits (n : Nat) : Fits n := by
  -- On the number of bytes: inside a container there is at least one less.
  induction n with
  | zero =>
    intro s o r hs ho
    obtain ⟨b, t, hfront, -⟩ := ho.exists_front
    have := length_lt_of_front hfront
    omega
  | succ n ih =>
    intro s o r hs ho
    cases ho with
    | null front | true front | false front => exact ⟨rfl, length_le_of_word front⟩
    | number front _ hm =>
      have hfront := (List.dropWhile_sublist isBlank (l := s)).length_le
      rw [front] at hfront
      exact ⟨rfl, Nat.le_trans (numeralFrom_length_le hm) hfront⟩
    | string front body =>
      have hquote := length_lt_of_front front
      have hbody := skipBodyFrom_length_lt body
      exact ⟨rfl, by omega⟩
    | sequence front items =>
      have hbracket := length_lt_of_front front
      obtain ⟨hall, hitems⟩ := ih.items (by omega) items
      exact ⟨hall, by omega⟩
    | map front members =>
      have hbrace := length_lt_of_front front
      obtain ⟨hall, hmembers⟩ := ih.members (by omega) members
      exact ⟨hall, by omega⟩

end TokenCatalog.Json
