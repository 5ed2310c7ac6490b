import Mathlib.Data.List.Forall2
import TokenCatalog.Proofs.Json.Shape

namespace TokenCatalog.Json

open Ascii Reader

/-!
# Denoting — which value a document denotes

Bytes spell one value at most, so readers of different types that take a document have read the
same one.

* `Unambiguous`, `Spells.unique` — what is spelled, and where it ends;
* `Outline.Denotes` — the value of what is spelled, where its numbers and strings have values;
* `Denoted`, `parse_eq_ok_iff` — **main result**: documents are read that denote a value and do not
  nest too deep.
-/

variable {s t r r' : Bytes} {o o' : Outline}

/-! ### The grammar is unambiguous -/

/-- What at most `n` bytes spell, they spell in one way. -/
def Unambiguous (n : Nat) : Prop :=
  ∀ {s o o' r r'}, s.length ≤ n → Spelling s o r → Spelling s o' r' → o = o' ∧ r = r'

/-- Where an element begins there is no closing bracket. -/
theorem Spelling.not_closeBracket (h : Spelling s o r) : s.dropWhile isBlank ≠ closeBracket :: t := by
  intro hclose
  obtain ⟨b, u, hfront, hbegins⟩ := h.exists_front
  cases hfront.symm.trans hclose
  exact Outline.ne_closeBracket_of_begins hbegins rfl

/-- One spelling leaves one reading of the items after the first. -/
theorem Unambiguous.laterItems {n : Nat} (h : Unambiguous n) {os os' : List Outline}
    (hs : s.length ≤ n) (hos : LaterItems s os r) (hos' : LaterItems s os' r') :
    os = os' ∧ r = r' := by
  -- By induction on the first reading; the next byte says whether the second goes on as well.
  induction os generalizing s os' with
  | nil =>
    cases hos with
    | done front =>
      cases hos' with
      | done front' =>
        cases front.symm.trans front'
        exact ⟨rfl, rfl⟩
      | next front' => exact absurd (front.symm.trans front') (by simp [closeBracket, comma])
  | cons o os ih =>
    cases hos with
    | next front item later =>
      cases hos' with
      | done front' => exact absurd (front.symm.trans front') (by simp [closeBracket, comma])
      | next front' item' later' =>
        -- Each item leaves less to read, so the readings of what is left agree too.
        have hcomma := length_lt_of_front front
        have hitem := (fits _ (Nat.le_refl _) item).2
        cases front.symm.trans front'
        obtain ⟨rfl, rfl⟩ := h (by omega) item item'
        obtain ⟨rfl, rfl⟩ := ih (by omega) later later'
        exact ⟨rfl, rfl⟩

/-- One spelling leaves one reading of an array. -/
theorem Unambiguous.items {n : Nat} (h : Unambiguous n) {os os' : List Outline}
    (hs : s.length ≤ n) (hos : Items s os r) (hos' : Items s os' r') : os = os' ∧ r = r' := by
  cases hos with
  | none front =>
    cases hos' with
    | none front' =>
      cases front.symm.trans front'
      exact ⟨rfl, rfl⟩
    | some first' => exact absurd front first'.not_closeBracket
  | some first later =>
    cases hos' with
    | none front' => exact absurd front' first.not_closeBracket
    | some first' later' =>
      have hfirst := (fits _ (Nat.le_refl _) first).2
      obtain ⟨rfl, rfl⟩ := h hs first first'
      obtain ⟨rfl, rfl⟩ := h.laterItems (by omega) later later'
      exact ⟨rfl, rfl⟩

/-- One spelling leaves one reading of a member: its key and its value. -/
theorem Unambiguous.member {n : Nat} (h : Unambiguous n) {m m' : Option String × Outline}
    (hs : s.length ≤ n) (hm : Member s m r) (hm' : Member s m' r') : m = m' ∧ r = r' := by
  cases hm with
  | intro key front value =>
    cases hm' with
    | intro key' front' value' =>
      have hkey := skipBodyFrom_length_lt key
      have hcolon := length_lt_of_front front
      cases key.symm.trans key'
      cases front.symm.trans front'
      obtain ⟨rfl, rfl⟩ := h (by omega) value value'
      exact ⟨rfl, rfl⟩

/-- One spelling leaves one reading of the members after the first. -/
theorem Unambiguous.laterMembers {n : Nat} (h : Unambiguous n)
    {ms ms' : List (Option String × Outline)} (hs : s.length ≤ n) (hms : LaterMembers s ms r)
    (hms' : LaterMembers s ms' r') : ms = ms' ∧ r = r' := by
  -- By induction on the first reading; the next byte says whether the second goes on as well.
  induction ms generalizing s ms' with
  | nil =>
    cases hms with
    | done front =>
      cases hms' with
      | done front' =>
        cases front.symm.trans front'
        exact ⟨rfl, rfl⟩
      | next front' => exact absurd (front.symm.trans front') (by simp [closeBrace, comma])
  | cons m ms ih =>
    cases hms with
    | next front key member later =>
      cases hms' with
      | done front' => exact absurd (front.symm.trans front') (by simp [closeBrace, comma])
      | next front' key' member' later' =>
        have hcomma := length_lt_of_front front
        have hquote := length_lt_of_front key
        have hmember := (Fits.member (fits _) (Nat.le_refl _) member).2
        cases front.symm.trans front'
        cases key.symm.trans key'
        obtain ⟨rfl, rfl⟩ := h.member (by omega) member member'
        obtain ⟨rfl, rfl⟩ := ih (by omega) later later'
        exact ⟨rfl, rfl⟩

/-- One spelling leaves one reading of an object. -/
theorem Unambiguous.members {n : Nat} (h : Unambiguous n)
    {ms ms' : List (Option String × Outline)} (hs : s.length ≤ n) (hms : Members s ms r)
    (hms' : Members s ms' r') : ms = ms' ∧ r = r' := by
  -- The next byte says whether there is a first member.
  cases hms with
  | none front =>
    cases hms' with
    | none front' =>
      cases front.symm.trans front'
      exact ⟨rfl, rfl⟩
    | some front' => exact absurd (front.symm.trans front') (by simp [closeBrace, quote])
  | some front first later =>
    cases hms' with
    | none front' => exact absurd (front.symm.trans front') (by simp [closeBrace, quote])
    | some front' first' later' =>
      have hquote := length_lt_of_front front
      have hfirst := (Fits.member (fits _) (Nat.le_refl _) first).2
      cases front.symm.trans front'
      obtain ⟨rfl, rfl⟩ := h.member (by omega) first first'
      obtain ⟨rfl, rfl⟩ := h.laterMembers (by omega) later later'
      exact ⟨rfl, rfl⟩

/-- The kind of a value, as the byte tells that it begins with. -/
def kindOf (b : UInt8) : Nat :=
  if b = minus ∨ isDigit b then 0
  else if b = byte 'n' then 1
  else if b = byte 't' then 2
  else if b = byte 'f' then 3
  else if b = quote then 4
  else if b = openBracket then 5
  else 6

/-- The kind of a value. -/
def Outline.kind : Outline → Nat
  | .number _ => 0
  | .null => 1
  | .bool true => 2
  | .bool false => 3
  | .string _ => 4
  | .sequence _ => 5
  | .map _ => 6

/-- The first byte of a value tells what kind of value it is. -/
theorem Outline.kind_of_begins {b : UInt8} (h : o.begins b) : o.kind = kindOf b := by
  cases o with
  | number n => exact (if_pos (of_decide_eq_true h)).symm
  | bool c => cases c <;> cases of_decide_eq_true h <;> decide
  | null | string | sequence | map =>
    cases of_decide_eq_true h
    simp only [kind]
    decide

/-- What at most so many bytes spell, they spell in one way. -/
theorem unambiguous (n : Nat) : Unambiguous n := by
  -- On the number of bytes, as for the depth of values.
  induction n with
  | zero =>
    intro s o o' r r' hs ho _
    obtain ⟨b, t, hfront, -⟩ := ho.exists_front
    have := length_lt_of_front hfront
    omega
  | succ n ih =>
    intro s o o' r r' hs ho ho'
    -- Both begin with the same byte, which tells the kind.
    have hkind : o.kind = o'.kind := by
      obtain ⟨b, t, hfront, hbegins⟩ := ho.exists_front
      obtain ⟨b', t', hfront', hbegins'⟩ := ho'.exists_front
      cases hfront.symm.trans hfront'
      rw [Outline.kind_of_begins hbegins, Outline.kind_of_begins hbegins']
    cases ho with
    | null front =>
      cases ho' with
      | null front' => exact ⟨rfl, List.append_cancel_left (front.symm.trans front')⟩
      | true | false | number | string | sequence | map => cases hkind
    | true front =>
      cases ho' with
      | true front' => exact ⟨rfl, List.append_cancel_left (front.symm.trans front')⟩
      | null | false | number | string | sequence | map => cases hkind
    | false front =>
      cases ho' with
      | false front' => exact ⟨rfl, List.append_cancel_left (front.symm.trans front')⟩
      | null | true | number | string | sequence | map => cases hkind
    | number front _ numeral =>
      cases ho' with
      | number front' _ numeral' =>
        cases front.symm.trans front'
        cases numeral.symm.trans numeral'
        exact ⟨rfl, rfl⟩
      | null | true | false | string | sequence | map => cases hkind
    | string front body =>
      cases ho' with
      | string front' body' =>
        cases front.symm.trans front'
        cases body.symm.trans body'
        exact ⟨rfl, rfl⟩
      | null | true | false | number | sequence | map => cases hkind
    | sequence front items =>
      cases ho' with
      | sequence front' items' =>
        have hbracket := length_lt_of_front front
        cases front.symm.trans front'
        obtain ⟨rfl, rfl⟩ := ih.items (by omega) items items'
        exact ⟨rfl, rfl⟩
      | null | true | false | number | string | map => cases hkind
    | map front members =>
      cases ho' with
      | map front' members' =>
        have hbrace := length_lt_of_front front
        cases front.symm.trans front'
        obtain ⟨rfl, rfl⟩ := ih.members (by omega) members members'
        exact ⟨rfl, rfl⟩
      | null | true | false | number | string | sequence => cases hkind

/-- **A document spells one value.** -/
theorem Spells.unique {raw : Bytes} (h : Spells raw o) (h' : Spells raw o') : o = o' := by
  obtain ⟨r, ho, -⟩ := h
  obtain ⟨r', ho', -⟩ := h'
  exact (unambiguous _ (Nat.le_refl _) ho ho').1

/-! ### Values -/

mutual

/-- What is spelled has a value: all its numbers fit, and all its strings are texts. -/
inductive Outline.Denotes : Outline → Json → Prop
  | null : Denotes .null .null
  | bool (b : Bool) : Denotes (.bool b) (.bool b)
  | number (n : Number) : Denotes (.number (some n)) (.number n)
  | string (s : String) : Denotes (.string (some s)) (.string s)
  | sequence {os : List Outline} {items : List Json} (values : List.Forall₂ Outline.Denotes os items) :
      Denotes (.sequence os) (.array items)
  | map {ms : List (Option String × Outline)} {fields : List (String × Json)}
      (members : List.Forall₂ Outline.DenotesField ms fields) : Denotes (.map ms) (.object fields)

/-- A member has a value if its key is a text. -/
inductive Outline.DenotesField : Option String × Outline → String × Json → Prop
  | intro {key : String} {o : Outline} {j : Json} (value : Outline.Denotes o j) :
      DenotesField (some key, o) (key, j)

end

/-- A list is mapped through exactly when each of its elements is. -/
theorem mapM_eq_some_iff {α β : Type} {f : α → Option β} {as : List α} {bs : List β} :
    as.mapM f = some bs ↔ List.Forall₂ (fun a b => f a = some b) as bs := by
  induction as generalizing bs with
  | nil =>
    constructor
    · intro h
      cases h
      exact .nil
    · intro h
      cases h
      rfl
  | cons a as ih =>
    rw [mapM_cons_eq_some_iff]
    constructor
    · rintro ⟨b, cs, hb, hcs, rfl⟩
      exact .cons hb (ih.1 hcs)
    · intro h
      cases h with
      | cons hb hcs => exact ⟨_, _, hb, ih.2 hcs, rfl⟩

/-- A member gives a field exactly when its key is text and its value is read. -/
theorem Outline.pair?_eq_some_iff {f : Outline → Option Json} {m : Option String × Outline}
    {e : String × Json} : pair? f m = some e ↔ m.1 = some e.1 ∧ f m.2 = some e.2 := by
  obtain ⟨k, o⟩ := m
  obtain ⟨l, j⟩ := e
  simp only [pair?, Option.bind_eq_bind, Option.bind_eq_some_iff, Option.pure_def,
    Option.some.injEq, Prod.mk.injEq]
  constructor
  · rintro ⟨_, hk, _, hj, rfl, rfl⟩
    exact ⟨hk, hj⟩
  · rintro ⟨hk, hj⟩
    exact ⟨l, hk, j, hj, rfl, rfl⟩

/-- A member stands for a field exactly when its key is the field's name and its value denotes the
    field's. -/
theorem Outline.denotesField_iff {m : Option String × Outline} {e : String × Json} :
    DenotesField m e ↔ m.1 = some e.1 ∧ m.2.Denotes e.2 := by
  constructor
  · rintro ⟨value⟩
    exact ⟨rfl, value⟩
  · obtain ⟨k, o⟩ := m
    rintro ⟨rfl, value⟩
    exact .intro value

namespace Outline

variable {d : Nat} {j : Json}

/-- The word for null denotes null and nothing else. -/
theorem denotes_null_iff : null.Denotes j ↔ j = .null := by
  constructor
  · rintro ⟨⟩
    rfl
  · rintro rfl
    exact .null

/-- The words for the truth values denote them and nothing else. -/
theorem denotes_bool_iff {b : Bool} : (bool b).Denotes j ↔ j = .bool b := by
  constructor
  · rintro ⟨⟩
    rfl
  · rintro rfl
    exact .bool b

/-- A number's outline denotes the number it carries, when it carries one. -/
theorem denotes_number_iff {n : Option Number} :
    (number n).Denotes j ↔ n.map .number = some j := by
  constructor
  · rintro ⟨⟩
    rfl
  · intro h
    obtain ⟨m, rfl, rfl⟩ := Option.map_eq_some_iff.1 h
    exact .number m

/-- A string's outline denotes the text it carries, when it carries any. -/
theorem denotes_string_iff {s : Option String} : (string s).Denotes j ↔ s.map .string = some j := by
  constructor
  · rintro ⟨⟩
    rfl
  · intro h
    obtain ⟨t, rfl, rfl⟩ := Option.map_eq_some_iff.1 h
    exact .string t

/-- What is neither a sequence nor a map. -/
def isScalar : Outline → Bool
  | .sequence _ | .map _ => false
  | _ => true

/-- Scalars do not nest. -/
theorem within_of_scalar (h : o.isScalar = true) : o.within d = true := by
  cases o with
  | sequence | map => cases h
  | null | bool | number | string => cases d <;> rfl

/-- A scalar is read if it has a value. -/
theorem json?_eq_some_iff_of_scalar (h : o.isScalar = true) :
    o.json? d = some j ↔ o.within d = true ∧ o.Denotes j := by
  rw [within_of_scalar h, and_iff_right rfl]
  cases o with
  | sequence | map => cases h
  | null => rw [json?_null, denotes_null_iff, Option.some.injEq, eq_comm]
  | bool b => rw [json?_bool, denotes_bool_iff, Option.some.injEq, eq_comm]
  | number n => rw [json?_number, denotes_number_iff]
  | string s => rw [json?_string, denotes_string_iff]

/-- **A document is read** if it has a value and does not nest too deep. -/
theorem json?_eq_some_iff : o.json? d = some j ↔ o.within d = true ∧ o.Denotes j := by
  induction d generalizing o j with
  | zero =>
    -- Without any depth left there is room for scalars only.
    cases o with
    | sequence os | map ms => simp [json?, within]
    | null | bool | number | string => exact json?_eq_some_iff_of_scalar rfl
  | succ d ih =>
    cases o with
    | null | bool | number | string => exact json?_eq_some_iff_of_scalar rfl
    | sequence os =>
      have hitems : ∀ items, os.mapM (json? d) = some items ↔
          (∀ o ∈ os, o.within d = true) ∧ List.Forall₂ Denotes os items := by
        intro items
        simp only [mapM_eq_some_iff, ih, List.forall₂_and_left]
      simp only [json?, Option.map_eq_some_iff, hitems, within, List.all_eq_true]
      constructor
      · rintro ⟨items, ⟨hwithin, hdenotes⟩, rfl⟩
        exact ⟨hwithin, .sequence hdenotes⟩
      · rintro ⟨hwithin, hdenotes⟩
        cases hdenotes with
        | sequence values => exact ⟨_, ⟨hwithin, values⟩, rfl⟩
    | map ms =>
      have hfields : ∀ fields, ms.mapM (pair? (json? d)) = some fields ↔
          (∀ m ∈ ms, m.2.within d = true) ∧ List.Forall₂ DenotesField ms fields := by
        intro fields
        have hfield : ∀ m e, pair? (json? d) m = some e ↔
            m.2.within d = true ∧ DenotesField m e := by
          intro m e
          rw [pair?_eq_some_iff, ih, denotesField_iff, and_left_comm]
        simp only [mapM_eq_some_iff, hfield, List.forall₂_and_left]
      simp only [json?, Option.map_eq_some_iff, hfields, within, List.all_eq_true]
      constructor
      · rintro ⟨fields, ⟨hwithin, hdenotes⟩, rfl⟩
        exact ⟨hwithin, .map hdenotes⟩
      · rintro ⟨hwithin, hdenotes⟩
        cases hdenotes with
        | map members => exact ⟨_, ⟨hwithin, members⟩, rfl⟩

end Outline

/-- A document has a value and does not nest too deep. -/
def Denoted (raw : Bytes) (j : Json) : Prop :=
  ∃ o, Spells raw o ∧ o.within maxNesting = true ∧ o.Denotes j

/-- **Documents are read as the values that they denote.** -/
theorem parse_eq_ok_iff {raw : Bytes} {j : Json} : parse raw = .ok j ↔ Denoted raw j := by
  have hread : parse raw = .ok j ↔ ∃ o, Spells raw o ∧ o.json? maxNesting = some j :=
    Means.decode_eq_ok_iff (means_json maxNesting)
  simp only [Outline.json?_eq_some_iff] at hread
  exact hread

end TokenCatalog.Json
