import Mathlib.Tactic.ByContra
import TokenCatalog.Schema
import TokenCatalog.Proofs.Json.Canonical

namespace TokenCatalog.Schema

open Json (lookup)

/-!
# Schemas — what they mean

What a schema asks of a value is said here without the order in which it is checked, and the order
without the checks.

* `IsOfType`, `Sat` — when a value satisfies a schema;
* `Check`, `Check.Before`, `Check.path` — the single checks, their order, and the part of a value that
  each is about;
* `Fails`, `IsFirst` — which checks fail, and which one of them is the first;
* `Fails.not_sat`, `sat_of_forall_not_fails` — a schema is satisfied if no check fails;
* `IsFirst.unique` — only one failure is the first.
-/

/-! ### When a value satisfies a schema -/

/-- What the name of a type says of a value; a name that is none of these says nothing. -/
structure IsOfType (type : String) (value : Json) : Prop where
  object : type = "object" → ∃ fields, value = .object fields
  array : type = "array" → ∃ items, value = .array items
  string : type = "string" → ∃ s, value = .string s
  number : type = "number" → ∃ n, value = .number n
  integer : type = "integer" →
    (∃ n, value = .number (.natural n)) ∨ ∃ k, value = .number (.negSucc k)
  boolean : type = "boolean" → ∃ b, value = .bool b
  null : type = "null" → value = .null

/-- A value satisfies a schema: everything does if the schema is no object, and else every keyword
    of the right type holds of it. -/
inductive Sat : Json → Json → Prop
  | exotic {schema value : Json} (free : ∀ rules, schema ≠ .object rules) : Sat schema value
  | object {rules : List (String × Json)} {value : Json}
      (type : ∀ t, lookup rules "type" = some (.string t) → IsOfType t value)
      (types : ∀ ts, lookup rules "type" = some (.array ts) →
        ∃ t, .string t ∈ ts ∧ IsOfType t value)
      (enum : ∀ allowed, lookup rules "enum" = some (.array allowed) →
        ∃ a ∈ allowed, a.withoutZeroSigns = value.withoutZeroSigns)
      (required : ∀ names fields, lookup rules "required" = some (.array names) →
        value = .object fields → ∀ name, .string name ∈ names → ∃ v, lookup fields name = some v)
      (properties : ∀ props fields, lookup rules "properties" = some (.object props) →
        value = .object fields → ∀ name sub v, lookup props name = some sub →
          lookup fields name = some v → Sat sub v)
      (minItems : ∀ least items, lookup rules "minItems" = some (.nat least) →
        value = .array items → least.toNat ≤ items.length)
      (items : ∀ sub items, lookup rules "items" = some sub → value = .array items →
        ∀ v ∈ items, Sat sub v) :
      Sat (.object rules) value

/-! ### The checks and their order -/

/-- A check that a schema makes: a keyword, or a check of a property or of an item. -/
inductive Check where
  | type
  | enum
  | required (index : Nat)
  | property (name : String) (sub : Check)
  | minItems
  | item (index : Nat) (sub : Check)

namespace Check

/-- The place of a check among those of one object. -/
def stage : Check → Nat
  | type => 0
  | enum => 1
  | required _ => 2
  | property _ _ => 3
  | minItems => 4
  | item _ _ => 5

/-- The part of a value that a check is about. -/
def path : Check → Path
  | property name sub => .property name :: sub.path
  | item index sub => .item index :: sub.path
  | _ => []

/-- The order of checks: keyword by keyword, names in the order in which they are required,
    properties by the bytes of their names, items by index, and each before the next. -/
inductive Before : Check → Check → Prop
  | stage {c d : Check} (earlier : c.stage < d.stage) : Before c d
  | required {i j : Nat} (earlier : i < j) : Before (.required i) (.required j)
  | name {k l : String} {c d : Check} (earlier : Bytes.ofText k < Bytes.ofText l) :
      Before (.property k c) (.property l d)
  | property {k : String} {c d : Check} (within : Before c d) :
      Before (.property k c) (.property k d)
  | index {i j : Nat} {c d : Check} (earlier : i < j) : Before (.item i c) (.item j d)
  | item {i : Nat} {c d : Check} (within : Before c d) : Before (.item i c) (.item i d)

end Check

/-- A check fails, and why. -/
inductive Fails : Json → Json → Check → Reason → Prop
  | type {rules : List (String × Json)} {value : Json} {t : String}
      (rule : lookup rules "type" = some (.string t)) (other : ¬ IsOfType t value) :
      Fails (.object rules) value .type (.expectedType t)
  | types {rules : List (String × Json)} {value : Json} {ts : List Json}
      (rule : lookup rules "type" = some (.array ts))
      (other : ∀ t, .string t ∈ ts → ¬ IsOfType t value) :
      Fails (.object rules) value .type (.expectedOneOf ts)
  | enum {rules : List (String × Json)} {value : Json} {allowed : List Json}
      (rule : lookup rules "enum" = some (.array allowed))
      (other : ∀ a ∈ allowed, a.withoutZeroSigns ≠ value.withoutZeroSigns) :
      Fails (.object rules) value .enum .notInEnum
  | required {rules fields : List (String × Json)} {names : List Json} {i : Nat} {name : String}
      (rule : lookup rules "required" = some (.array names)) (place : names[i]? = some (.string name))
      (absent : lookup fields name = none) :
      Fails (.object rules) (.object fields) (.required i) (.missingProperty name)
  | property {rules props fields : List (String × Json)} {name : String} {sub v : Json} {c : Check}
      {r : Reason} (rule : lookup rules "properties" = some (.object props))
      (schema : lookup props name = some sub) (field : lookup fields name = some v)
      (fails : Fails sub v c r) : Fails (.object rules) (.object fields) (.property name c) r
  | minItems {rules : List (String × Json)} {items : List Json} {least : UInt64}
      (rule : lookup rules "minItems" = some (.nat least)) (few : items.length < least.toNat) :
      Fails (.object rules) (.array items) .minItems (.tooFewItems least)
  | item {rules : List (String × Json)} {items : List Json} {i : Nat} {sub v : Json} {c : Check}
      {r : Reason} (rule : lookup rules "items" = some sub) (place : items[i]? = some v)
      (fails : Fails sub v c r) : Fails (.object rules) (.array items) (.item i c) r

/-- Of the checks that fail, this one is made first. -/
structure IsFirst (schema value : Json) (c : Check) (r : Reason) : Prop where
  fails : Fails schema value c r
  first : ∀ d q, Fails schema value d q → d = c ∨ c.Before d

variable {schema value : Json} {rules : List (String × Json)} {c d : Check}
  {r : Reason}

/-! ### Satisfaction -/

/-- A value that fails a check does not satisfy the schema. -/
theorem Fails.not_sat (h : Fails schema value c r) : ¬ Sat schema value := by
  intro hsat
  -- A rule that a check was made for is one that the value has to satisfy.
  induction h with
  | type rule other =>
    cases hsat with
    | exotic free => exact free _ rfl
    | object type => exact other (type _ rule)
  | types rule other =>
    cases hsat with
    | exotic free => exact free _ rfl
    | object _ types =>
      obtain ⟨t, ht, htype⟩ := types _ rule
      exact other t ht htype
  | enum rule other =>
    cases hsat with
    | exotic free => exact free _ rfl
    | object _ _ enum =>
      obtain ⟨a, ha, heq⟩ := enum _ rule
      exact other a ha heq
  | required rule hat absent =>
    cases hsat with
    | exotic free => exact free _ rfl
    | object _ _ _ required =>
      obtain ⟨v, hv⟩ := required _ _ rule rfl _ (List.mem_of_getElem? hat)
      exact absurd (absent.symm.trans hv) (by simp)
  | property rule sub field _ ih =>
    cases hsat with
    | exotic free => exact free _ rfl
    | object _ _ _ _ properties => exact ih (properties _ _ rule rfl _ _ _ sub field)
  | minItems rule few =>
    cases hsat with
    | exotic free => exact free _ rfl
    | object _ _ _ _ _ minItems => exact absurd (minItems _ _ rule rfl) (by omega)
  | item rule hat _ ih =>
    cases hsat with
    | exotic free => exact free _ rfl
    | object _ _ _ _ _ _ items => exact ih (items _ _ rule rfl _ (List.mem_of_getElem? hat))

/-- A value that fails no check satisfies the schema. -/
theorem sat_of_forall_not_fails (path : Path) (h : ∀ c r, ¬ Fails schema value c r) :
    Sat schema value := by
  induction schema, value, path using violation?.induct with
  | case1 value path rules ihprops ihitems =>
    -- Every keyword holds, for else its check would fail.
    refine .object (fun t hrule => ?_) (fun ts hrule => ?_) (fun allowed hrule => ?_) ?_ ?_ ?_ ?_
    · by_contra hother
      exact h _ _ (.type hrule hother)
    · by_contra hother
      exact h _ _ (.types hrule fun t ht htype => hother ⟨t, ht, htype⟩)
    · by_contra hother
      exact h _ _ (.enum hrule fun a ha heq => hother ⟨a, ha, heq⟩)
    · rintro names fields hrule rfl name hname
      obtain ⟨i, hat⟩ := List.getElem?_of_mem hname
      cases habsent : lookup fields name with
      | none => exact absurd (.required hrule hat habsent) (h _ _)
      | some v => exact ⟨v, rfl⟩
    · rintro props fields hrule rfl name sub v hsub hfield
      exact ihprops props hrule name sub (Json.mem_of_lookup hsub) v fun c r hfails =>
        h _ _ (.property hrule hsub hfield hfails)
    · rintro least items hrule rfl
      by_contra hfew
      exact h _ _ (.minItems hrule (by omega))
    · rintro sub items hrule rfl v hv
      obtain ⟨i, hat⟩ := List.getElem?_of_mem hv
      exact ihitems sub hrule v i fun c r hfails => h _ _ (.item hrule hat hfails)
  | case2 schema value path hexotic => exact .exotic fun rules hrules => hexotic rules hrules

/-! ### The first failure -/

/-- Of two checks only one comes before the other. -/
theorem Check.Before.asymm (h : c.Before d) : ¬ d.Before c := by
  -- Checks of different stages are ordered by these alone, and those of one stage by what they are
  -- about.
  induction h with
  | stage hlt =>
    intro hd
    cases hd with
    | stage hgt => omega
    | required | name | property | index | item => simp [Check.stage] at hlt
  | required hlt =>
    intro hd
    cases hd with
    | stage hgt => simp [Check.stage] at hgt
    | required hgt => omega
  | name hlt =>
    intro hd
    cases hd with
    | stage hgt => simp [Check.stage] at hgt
    | name hgt => exact List.lt_asymm hlt hgt
    | property => exact List.lt_irrefl _ hlt
  | property _ ih =>
    intro hd
    cases hd with
    | stage hgt => simp [Check.stage] at hgt
    | name hgt => exact List.lt_irrefl _ hgt
    | property hd => exact ih hd
  | index hlt =>
    intro hd
    cases hd with
    | stage hgt => simp [Check.stage] at hgt
    | index hgt => omega
    | item => omega
  | item _ ih =>
    intro hd
    cases hd with
    | stage hgt => simp [Check.stage] at hgt
    | index hgt => omega
    | item hd => exact ih hd

/-- A check fails for one reason. -/
theorem Fails.reason_eq {q : Reason} (h : Fails schema value c r) (h' : Fails schema value c q) :
    r = q := by
  -- A document has one rule under a keyword, and so both failures are of the same one.
  induction h with
  | type rule => cases h' with
    | type rule' => cases rule.symm.trans rule'; rfl
    | types rule' => cases rule.symm.trans rule'
  | types rule => cases h' with
    | type rule' => cases rule.symm.trans rule'
    | types rule' => cases rule.symm.trans rule'; rfl
  | enum => cases h'; rfl
  | required rule hat => cases h' with
    | required rule' hat' =>
      cases rule.symm.trans rule'
      cases hat.symm.trans hat'
      rfl
  | property rule sub field _ ih => cases h' with
    | property rule' sub' field' h' =>
      cases rule.symm.trans rule'
      cases sub.symm.trans sub'
      cases field.symm.trans field'
      exact ih h'
  | minItems rule => cases h' with
    | minItems rule' => cases rule.symm.trans rule'; rfl
  | item rule hat _ ih => cases h' with
    | item rule' hat' h' =>
      cases rule.symm.trans rule'
      cases hat.symm.trans hat'
      exact ih h'

/-- Only one failure is the first. -/
theorem IsFirst.unique {q : Reason} (h : IsFirst schema value c r) (h' : IsFirst schema value d q) :
    c = d ∧ r = q := by
  have hcd : c = d := by
    rcases h.first d q h'.fails with heq | hbefore
    · exact heq.symm
    · rcases h'.first c r h.fails with heq | hafter
      · exact heq
      · exact absurd hafter hbefore.asymm
  subst hcd
  exact ⟨rfl, h.fails.reason_eq h'.fails⟩

end TokenCatalog.Schema
