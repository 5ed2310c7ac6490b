import TokenCatalog.Json.Document
import TokenCatalog.Json.Printer

namespace TokenCatalog

/-!
# Schemas — the structural part of JSON Schema

The keywords `type`, `enum`, `required`, `properties`, `minItems` and `items` are understood; any
other keyword, a keyword of the wrong type, and a schema that is no object demand nothing.

* `Schema.violation?` — the first violation, in the order of the keywords above, properties by name
  and items by index, each before the next;
* `Schema.validate` — a document against a schema, both as bytes; the schema is read first;
* `Validator` — what the catalogue asks of any validator.
-/

namespace Schema

/-- One step into a document. -/
inductive Step where
  | property (name : String)
  | item (index : Nat)
  deriving DecidableEq, Repr

/-- The steps from the root of a document to a value in it. -/
abbrev Path := List Step

/-- What a value violates. -/
inductive Reason where
  | expectedType (type : String)
  | expectedOneOf (types : List Json)
  | notInEnum
  | missingProperty (name : String)
  | tooFewItems (least : UInt64)
  deriving Repr

/-- A violation and the value it lies at. -/
structure Violation where
  path : Path
  reason : Reason
  deriving Repr

/-- Why a document was not validated. -/
inductive Error where
  | documentUnreadable (fault : Json.Fault)
  | schemaUnreadable (fault : Json.Fault)
  | schemaNotObject
  | violation (v : Violation)

/-! ### Texts -/

/-- A step as a path shows it. -/
def Step.toText : Step → String
  | .property name => "." ++ name
  | .item index => s!"[{index}]"

/-- The root and the steps from it. -/
def Path.toText (p : Path) : String := p.foldl (fun s step => s ++ step.toText) "$"

/-- The text of a reason. -/
def Reason.message : Reason → String
  | .expectedType type => "expected " ++ type
  | .expectedOneOf types => "expected one of " ++ (Json.array types).toText
  | .notInEnum => "value not in enum"
  | .missingProperty name => "missing required property " ++ Quoted.encode name
  | .tooFewItems least => s!"expected at least {least.toNat} items"

/-- The text of an error, where it does not depend on the fault of a document. -/
def Error.message? : Error → Option String
  | .documentUnreadable _ => none
  | .schemaUnreadable _ => none
  | .schemaNotObject => some "schema is not usable: schema root must be an object"
  | .violation v => some s!"{v.path.toText}: {v.reason.message}"

/-! ### Checking -/

/-- Whether a value has the type of that name; an unknown name fits every value. -/
def hasType (type : String) (value : Json) : Bool :=
  match type, value with
  | "object", .object _ => true
  | "array", .array _ => true
  | "string", .string _ => true
  | "number", .number _ => true
  | "integer", .number (.float _) => false
  | "integer", .number _ => true
  | "boolean", .bool _ => true
  | "null", .null => true
  | "object", _ | "array", _ | "string", _ | "number", _ | "integer", _ | "boolean", _
  | "null", _ => false
  | _, _ => true

/-- What `type` has against a value. -/
def typeReason? (rules : List (String × Json)) (value : Json) : Option Reason :=
  match Json.lookup rules "type" with
  | some (.string type) => if hasType type value then none else some (.expectedType type)
  | some (.array types) =>
    if types.any fun t => t.text?.any (hasType · value) then none else some (.expectedOneOf types)
  | _ => none

/-- What `enum` has against a value. -/
def enumReason? (rules : List (String × Json)) (value : Json) : Option Reason :=
  match Json.lookup rules "enum" with
  | some (.array allowed) => if allowed.any value.same then none else some .notInEnum
  | _ => none

/-- What `required` has against a value. -/
def requiredReason? (rules : List (String × Json)) (value : Json) : Option Reason :=
  match Json.lookup rules "required", value with
  | some (.array names), .object fields =>
    (names.filterMap Json.text?).find? (fun name => (Json.lookup fields name).isNone)
      |>.map .missingProperty
  | _, _ => none

/-- What `minItems` has against a value. -/
def minItemsReason? (rules : List (String × Json)) (value : Json) : Option Reason :=
  match Json.lookup rules "minItems", value with
  | some (.number (.natural least)), .array items =>
    if items.length < least.toNat then some (.tooFewItems least) else none
  | _, _ => none

/-- A field is smaller than the fields it stands among, so that the search for a violation ends. -/
theorem sizeOf_lookup {fields : List (String × Json)} {key : String} {v : Json}
    (h : Json.lookup fields key = some v) : sizeOf v < sizeOf fields := by
  induction fields with
  | nil => simp [Json.lookup] at h
  | cons e rest ih =>
    obtain ⟨k, w⟩ := e
    simp only [Json.lookup] at h
    cases hr : Json.lookup rest key with
    | some u =>
      rw [hr] at h
      cases h
      have := ih hr
      simp only [List.cons.sizeOf_spec]
      omega
    | none =>
      rw [hr] at h
      simp only [Option.orElse_none] at h
      split at h
      · cases h
        simp only [List.cons.sizeOf_spec, Prod.mk.sizeOf_spec]
        omega
      · cases h

/-- The first violation of a schema by a value at a path. -/
def violation? (schema value : Json) (path : Path) : Option Violation :=
  match schema with
  | .object rules =>
    let own := ((typeReason? rules value).or ((enumReason? rules value).or
      (requiredReason? rules value))).map (Violation.mk path)
    let inProperties : Option Violation :=
      match _hp : Json.lookup rules "properties", value with
      | some (.object properties), .object fields =>
        properties.attach.findSome? fun ⟨(name, sub), _⟩ =>
          match Json.lookup fields name with
          | some v => violation? sub v (path ++ [.property name])
          | none => none
      | _, _ => none
    let length := (minItemsReason? rules value).map (Violation.mk path)
    let inItems : Option Violation :=
      match _hi : Json.lookup rules "items", value with
      | some sub, .array items =>
        items.zipIdx.findSome? fun (v, i) => violation? sub v (path ++ [.item i])
      | _, _ => none
    own.or (inProperties.or (length.or inItems))
  | _ => none
termination_by sizeOf schema
decreasing_by
  · have h1 := sizeOf_lookup _hp
    have h2 := List.sizeOf_lt_of_mem ‹_›
    simp only [Json.object.sizeOf_spec, Prod.mk.sizeOf_spec] at *
    omega
  · have h1 := sizeOf_lookup _hi
    simp only [Json.object.sizeOf_spec]
    omega

/-- Check a document against a schema.  The schema is read first and must be an object. -/
def validate (document schema : Bytes) : Except Error Unit :=
  match Json.parse schema with
  | .error e => .error (.schemaUnreadable e)
  | .ok s =>
    match s with
    | .object _ =>
      match Json.parse document with
      | .error e => .error (.documentUnreadable e)
      | .ok d =>
        match violation? s.canonical d.canonical [] with
        | some v => .error (.violation v)
        | none => .ok ()
    | _ => .error .schemaNotObject

end Schema

/-- Checks a document against a schema, both as bytes. -/
structure Validator where
  validate : (document schema : Bytes) → Except Schema.Error Unit

namespace Validator

/-- The validator of the structural part of JSON Schema. -/
def structural : Validator := ⟨Schema.validate⟩

instance : Inhabited Validator := ⟨structural⟩

end Validator

end TokenCatalog
