import TokenCatalog.Proofs.Json.Writing
import TokenCatalog.Proofs.Schema.Search

namespace TokenCatalog.Schema

open Json (lookup)

/-!
# Validation — what is accepted, and which violation is reported

* `violation?_eq_none_iff`, `violation?_eq_some_iff` — what satisfies a schema is not violated
  anywhere, and else the first failure is reported;
* `part?`, `Fails.exists_part` — the steps to a violation lead to what violates the schema;
* `validate_of_parse`, `validate_eq_ok_iff` — and so with documents and schemas that are read;
* `structural_validation` — **main result**: the validator accepts what satisfies the schema, and
  reports the first violation of anything else.
-/

variable {schema value : Json} {rules : List (String × Json)} {path : Path} {c d : Check}
  {r : Reason}

/-! ### Verdicts -/

/-- **What satisfies a schema** is not violated anywhere. -/
theorem violation?_eq_none_iff (hs : schema.IsCanonical) :
    violation? schema value path = none ↔ Sat schema value := by
  have hreports := reports_violation? hs value path
  constructor
  · intro h
    exact sat_of_forall_not_fails path (hreports.nothing h)
  · intro hsat
    cases h : violation? schema value path with
    | none => rfl
    | some w =>
      obtain ⟨c, hc, -⟩ := hreports.found w h
      exact absurd hsat hc.not_sat

/-- **The violation that is reported** is that of the first check that fails. -/
theorem violation?_eq_some_iff (hs : schema.IsCanonical) {w : Violation} :
    violation? schema value path = some w ↔
      ∃ c, IsFirst schema value c w.reason ∧ w.path = path ++ c.path := by
  have hreports := reports_violation? hs value path
  constructor
  · intro h
    obtain ⟨c, hc, hpath, hfirst⟩ := hreports.found w h
    exact ⟨c, ⟨hc, hfirst⟩, hpath⟩
  · rintro ⟨c, hc, hpath⟩
    cases h : violation? schema value path with
    | none => exact absurd hc.fails (hreports.nothing h c _)
    | some w' =>
      -- What is found is a first failure too, and there is only one.
      obtain ⟨d, hd, hpath', hfirst⟩ := hreports.found w' h
      obtain ⟨rfl, hreason⟩ := hc.unique ⟨hd, hfirst⟩
      obtain ⟨p, q⟩ := w
      obtain ⟨p', q'⟩ := w'
      cases hpath.trans hpath'.symm
      cases hreason
      rfl

/-! ### Where a violation lies -/

/-- The part of a value that steps lead to. -/
def part? : Json → Path → Option Json
  | v, [] => some v
  | .object fields, .property name :: p => (lookup fields name).bind fun v => part? v p
  | .array items, .item index :: p => items[index]?.bind fun v => part? v p
  | _, _ :: _ => none

/-- A schema has something against a value itself, and not only against a part of it. -/
def Objects (schema value : Json) (r : Reason) : Prop :=
  ∃ c : Check, c.path = [] ∧ Fails schema value c r

/-- The steps to a violation lead to the value that violates a schema. -/
theorem Fails.exists_part (h : Fails schema value c r) :
    ∃ sub part, part? value c.path = some part ∧ Objects sub part r := by
  induction h with
  | type rule other => exact ⟨_, _, by simp [part?, Check.path], _, rfl, .type rule other⟩
  | types rule other => exact ⟨_, _, by simp [part?, Check.path], _, rfl, .types rule other⟩
  | enum rule other => exact ⟨_, _, by simp [part?, Check.path], _, rfl, .enum rule other⟩
  | required rule hat absent =>
    exact ⟨_, _, by simp [part?, Check.path], _, rfl, .required rule hat absent⟩
  | minItems rule few => exact ⟨_, _, by simp [part?, Check.path], _, rfl, .minItems rule few⟩
  | property _ _ field _ ih =>
    obtain ⟨sub, part, hpart, hobjects⟩ := ih
    exact ⟨sub, part, by rw [Check.path, part?, field]; exact hpart, hobjects⟩
  | item _ hat _ ih =>
    obtain ⟨sub, part, hpart, hobjects⟩ := ih
    exact ⟨sub, part, by rw [Check.path, part?, hat]; exact hpart, hobjects⟩

/-- The characters of a step. -/
def Step.chars : Step → List Char
  | .property name => '.' :: name.toList
  | .item index => '[' :: Nat.toDigits 10 index ++ [']']

/-- A step's text is its characters. -/
theorem Step.toList_toText (step : Step) : step.toText.toList = step.chars := by
  cases step with
  | property name => simp [toText, chars]
  | item index =>
    show ("[" ++ Nat.repr index ++ "]").toList = _
    simp [chars]

/-- A path is shown as a dollar sign and its steps. -/
theorem Path.toList_toText (p : Path) : p.toText.toList = '$' :: p.flatMap Step.chars := by
  have hsteps : ∀ s : String, (p.foldl (fun s step => s ++ step.toText) s).toList =
      s.toList ++ p.flatMap Step.chars := by
    induction p with
    | nil => simp
    | cons step p ih =>
      intro s
      rw [List.foldl_cons, ih, String.toList_append, step.toList_toText, List.flatMap_cons,
        List.append_assoc]
  rw [toText, hsteps]
  rfl

/-- What a verdict on a value says. -/
structure Judged (schema value : Json) (verdict : Option Violation) : Prop where
  accepted : verdict = none ↔ Sat schema value
  rejected : ∀ w, verdict = some w ↔ ∃ c, IsFirst schema value c w.reason ∧ w.path = c.path
  located : ∀ w, verdict = some w →
    ∃ sub part, part? value w.path = some part ∧ Objects sub part w.reason
  shown : ∀ w, verdict = some w → w.path.toText.toList = '$' :: w.path.flatMap Step.chars

/-- What the search finds is judged rightly, by the checks in their order. -/
theorem judged_violation? (hs : schema.IsCanonical) (value : Json) :
    Judged schema value (violation? schema value []) where
  accepted := violation?_eq_none_iff hs
  rejected w := violation?_eq_some_iff hs
  located w hw := by
    obtain ⟨c, hc, hpath⟩ := (violation?_eq_some_iff hs).1 hw
    rw [hpath]
    exact hc.fails.exists_part
  shown w _ := w.path.toList_toText

/-- A document that can be read is judged by a schema that is an object. -/
theorem validate_of_parse {document schema : Bytes} {rules : List (String × Json)} {value : Json}
    (hschema : Json.parse schema = .ok (.object rules))
    (hdocument : Json.parse document = .ok value) :
    validate document schema =
      (violation? (Json.object rules).canonical value.canonical []).elim (.ok ())
        fun w => .error (.violation w) := by
  simp only [validate, hschema, hdocument]
  cases violation? (Json.object rules).canonical value.canonical [] <;> rfl

/-- A document is valid if it can be read and satisfies the schema. -/
theorem validate_eq_ok_iff {document schema : Bytes} {rules : List (String × Json)}
    (hschema : Json.parse schema = .ok (.object rules)) :
    validate document schema = .ok () ↔ ∃ value, Json.parse document = .ok value ∧
      Sat (Json.object rules).canonical value.canonical := by
  cases hdocument : Json.parse document with
  | error f => simp [validate, hschema, hdocument]
  | ok value =>
    have hvalid := validate_of_parse hschema hdocument
    have hsat : violation? (Json.object rules).canonical value.canonical [] = none ↔
        Sat (Json.object rules).canonical value.canonical :=
      violation?_eq_none_iff (Json.isCanonical_canonical _)
    simp only [Except.ok.injEq, exists_eq_left', ← hsat, hvalid]
    cases violation? (Json.object rules).canonical value.canonical [] <;> simp

/-- **Structural validation.**  A value is accepted exactly if it satisfies the schema, and else the
    first check that fails is reported, with the steps to the value that it is about.  Documents
    that can be read are judged so, by schemas that are objects. -/
theorem structural_validation :
    (∀ schema value : Json, schema.IsCanonical →
      Judged schema value (violation? schema value [])) ∧
    (∀ (document schema : Bytes) (rules : List (String × Json)) (value : Json),
      Json.parse schema = .ok (.object rules) → Json.parse document = .ok value →
      ∃ verdict, Judged (Json.object rules).canonical value.canonical verdict ∧
        Validator.structural.validate document schema =
          verdict.elim (.ok ()) fun w => .error (.violation w)) := by
  refine ⟨fun schema value hs => judged_violation? hs value, ?_⟩
  intro document schema rules value hschema hdocument
  exact ⟨_, judged_violation? (Json.isCanonical_canonical _) _,
    validate_of_parse hschema hdocument⟩

/-! ### Items that must have a name -/

/-- The schema of items that must have a name. -/
def named : Json := .object [("items", .object [("required", .array [.string "name"])])]

/-- Three items, the second and the third of them without a name. -/
def nameless : Json := .array [.object [("name", .null)], .object [], .object []]

/-- The schema that asks for a name is canonical. -/
theorem isCanonical_named : named.IsCanonical := by
  simp [named, Json.isCanonical_object_iff, Json.IsCanonical.array, Json.IsCanonical.string]

/-- The list with a nameless record is canonical. -/
theorem isCanonical_nameless : nameless.IsCanonical :=
  .array (by simp [Json.isCanonical_object_iff, Json.IsCanonical.null])

/-- The schema is read back from its text. -/
theorem parse_named : Json.parse (.ofText named.toText) = .ok named :=
  Json.parse_toText (.object (by
    simp [Json.FloatFree.object, Json.FloatFree.array, Json.FloatFree.string])) rfl

/-- The list is read back from its text. -/
theorem parse_nameless : Json.parse (.ofText nameless.toText) = .ok nameless :=
  Json.parse_toText (.array (by simp [Json.FloatFree.object, Json.FloatFree.null])) rfl

/-- The second record is found, at its path and in the words of the rule it breaks. -/
theorem violation?_nameless :
    (violation? named nameless []).map (fun w => (w.path.toText, w.reason.message)) =
      some ("$[1]", "missing required property \"name\"") := by
  decide +kernel

/-- Of two items without a name, the first is reported. -/
theorem structural_validation_nameless : named.IsCanonical ∧
    ∃ w c, IsFirst named nameless c w.reason ∧ w.path = c.path ∧ w.path.toText = "$[1]" ∧
      Validator.structural.validate (.ofText nameless.toText) (.ofText named.toText) =
        .error (.violation w) := by
  obtain ⟨hvalues, hdocuments⟩ := structural_validation
  obtain ⟨w, hw, hfacts⟩ := Option.map_eq_some_iff.1 violation?_nameless
  have hfirst := ((hvalues named nameless isCanonical_named).rejected w).1 hw
  obtain ⟨verdict, hjudged, hvalidate⟩ := hdocuments _ _ _ _ parse_named parse_nameless
  -- A verdict on the documents is one on the values, which are in order already.
  have hverdict : verdict = some w := by
    have hcanonical := Json.canonical_eq_self isCanonical_named
    rw [named] at hcanonical
    rw [hcanonical, Json.canonical_eq_self isCanonical_nameless] at hjudged
    exact (hjudged.rejected w).2 hfirst
  obtain ⟨c, hc, hpath⟩ := hfirst
  rw [hverdict] at hvalidate
  exact ⟨isCanonical_named, w, c, hc, hpath, (Prod.mk.inj hfacts).1, hvalidate⟩

end TokenCatalog.Schema
