import TokenCatalog.Json.Document
import TokenCatalog.SortedMap

namespace TokenCatalog.Json

open Ascii

/-!
# Records — reading values of a known type

A reader for a known type takes the number of containers that may still be opened.

* scalars — `Reader.string`, `Reader.bool`, `Reader.unsigned`;
* containers — `Reader.optional`, `Reader.list`, `Reader.dictionary`;
* `Record` — a structure, written as an object or as the sequence of its fields: unknown members
  are skipped, a repeated one is a mismatch, a missing one falls back if its field says so.
-/

namespace Reader

/-! ### Scalars -/

/-- What stands in front, as a mismatch names it: a scalar is read, a container is only seen. -/
def found : Reader Found := do
  match ← peek with
  | none => fail .truncated
  | some b =>
    if b = quote then
      skip
      return .string (← text)
    else if b = minus ∨ isDigit b then return .number (← number)
    else if b = byte 'n' then
      word "null"
      return .null
    else if b = byte 't' then
      word "true"
      return .bool true
    else if b = byte 'f' then
      word "false"
      return .bool false
    else if b = openBracket then return .sequence
    else if b = openBrace then return .map
    else fail .malformed

/-- Report that what stands in front is not what was expected. -/
def wrongType (expected : String) : Reader α := do
  mismatch (.wrongType (← found) expected)

/-- A string. -/
def string : Reader String := do
  match ← peek with
  | none => fail .truncated
  | some b =>
    if b = quote then
      skip
      text
    else wrongType "a string"

/-- A truth value. -/
def bool : Reader Bool := do
  match ← peek with
  | none => fail .truncated
  | some b =>
    if b = byte 't' then
      word "true"
      return true
    else if b = byte 'f' then
      word "false"
      return false
    else wrongType "a boolean"

/-- An unsigned integer below `limit`. -/
def unsigned (limit : Nat) (expected : String) : Reader Nat := do
  match ← peek with
  | none => fail .truncated
  | some b =>
    if b = minus ∨ isDigit b then
      match ← number with
      | .natural n =>
        if n.toNat < limit then return n.toNat
        else mismatch (.outOfRange (.number (.natural n)) expected)
      | .negSucc k => mismatch (.outOfRange (.number (.negSucc k)) expected)
      | .float x => mismatch (.wrongType (.number (.float x)) expected)
    else wrongType expected

/-- An unsigned integer of 64 bits. -/
def uint64 : Reader UInt64 := do return UInt64.ofNat (← unsigned UInt64.size "u64")

/-- An unsigned integer of 32 bits. -/
def uint32 : Reader UInt32 := do return UInt32.ofNat (← unsigned UInt32.size "u32")

/-- An unsigned integer of 8 bits. -/
def uint8 : Reader UInt8 := do return UInt8.ofNat (← unsigned UInt8.size "u8")

/-! ### Containers -/

/-- A value or null. -/
def optional (value : Reader α) : Reader (Option α) := do
  if (← peek) = some (byte 'n') then
    word "null"
    return none
  else return some (← value)

/-- A sequence. -/
def list (item : Nat → Reader α) (depth : Nat) : Reader (List α) := do
  match ← peek with
  | none => fail .truncated
  | some b =>
    if b = openBracket then
      match depth with
      | 0 => fail .malformed
      | d + 1 =>
        skip
        items (item d)
    else wrongType "a sequence"

/-- An object with values of one type; of several equal keys the last one counts. -/
def dictionary (value : Nat → Reader α) (depth : Nat) : Reader (SortedMap String α) := do
  match ← peek with
  | none => fail .truncated
  | some b =>
    if b = openBrace then
      match depth with
      | 0 => fail .malformed
      | d + 1 =>
        skip
        return SortedMap.ofList (← members (member (value d)) []).reverse
    else wrongType "a map"

/-- Whether another element follows in a sequence, its comma taken. -/
def hasNext (isFirst : Bool) : Reader Bool := do
  match ← peek with
  | none => fail .truncated
  | some b =>
    if b = closeBracket then return false
    else if isFirst then return true
    else if b = comma then
      skip
      match ← peek with
      | none => fail .truncated
      | some c => if c = closeBracket then fail .malformed else return true
    else fail .malformed

/-- The closing bracket, and nothing in front of it. -/
def closeList : Reader Unit := do
  match ← peek with
  | none => fail .truncated
  | some b => if b = closeBracket then skip else fail .malformed

end Reader

/-! ### Records -/

/-- A field of a record: its name, how its value is read, and what stands for it when absent. -/
structure Field (α : Type) where
  name : String
  read : Nat → Reader α
  fallback : Option α

/-- A field that must be written. -/
def Field.required (name : String) (read : Nat → Reader α) : Field α := ⟨name, read, none⟩

/-- A field that may be absent. -/
def Field.withDefault (name : String) (read : Nat → Reader α) (value : α) : Field α :=
  ⟨name, read, some value⟩

/-- Fields in order of declaration. -/
inductive Fields : List Type → Type 1 where
  | nil : Fields []
  | cons (field : Field α) (rest : Fields αs) : Fields (α :: αs)

/-- One value for every field. -/
def Values : List Type → Type
  | [] => Unit
  | α :: αs => α × Values αs

/-- The fields read so far. -/
def Partial : List Type → Type
  | [] => Unit
  | α :: αs => Option α × Partial αs

namespace Fields

/-- No field read yet. -/
def blank : Fields αs → Partial αs
  | .nil => ()
  | .cons _ rest => (none, rest.blank)

/-- How many fields there are. -/
def count : Fields αs → Nat
  | .nil => 0
  | .cons _ rest => rest.count + 1

/-- The reader of the member called `key`, behind its key, if a field has that name. -/
def accept? (depth : Nat) (key : String) : (fs : Fields αs) → Partial αs → Option (Reader (Partial αs))
  | .nil, _ => none
  | .cons f rest, (slot, done) =>
    if f.name = key then
      some <|
        match slot with
        | some _ => Reader.mismatch (.repeatedField f.name)
        | none => do
          Reader.colon
          let v ← f.read depth
          return (some v, done)
    else (accept? depth key rest done).map fun r => do return (slot, ← r)

/-- One member of a record, behind the quote that opens its key. -/
def member (fs : Fields αs) (depth : Nat) (done : Partial αs) : Reader (Partial αs) := do
  let key ← Reader.text
  match fs.accept? depth key done with
  | some r => r
  | none =>
    Reader.colon
    Reader.skipValue
    return done

/-- Every field's value, the absent ones by their defaults. -/
def complete : (fs : Fields αs) → Partial αs → Except Mismatch (Values αs)
  | .nil, _ => .ok ()
  | .cons f rest, (slot, done) =>
    match slot.or f.fallback with
    | none => .error (.missingField f.name)
    | some v => (complete rest done).map (v, ·)

/-- The fields from the one at `index` on, as elements of a sequence. -/
def elements (depth : Nat) (expected : String) : (fs : Fields αs) → Nat → Reader (Values αs)
  | .nil, _ => return ()
  | .cons f rest, index => do
    let v ←
      if ← Reader.hasNext (index == 0) then f.read depth
      else
        match f.fallback with
        | some v => pure v
        | none => Reader.mismatch (.wrongLength index expected)
    return (v, ← elements depth expected rest (index + 1))

end Fields

/-- A structure: its name, its fields, and how it is made of their values. -/
structure Record (αs : List Type) (β : Type) where
  name : String
  fields : Fields αs
  make : Values αs → β

namespace Record

/-- The structure as a mismatch names it. -/
def expected (r : Record αs β) : String := "struct " ++ r.name

/-- The structure and its length as a mismatch names it. -/
def expectedLength (r : Record αs β) : String :=
  s!"{r.expected} with {r.fields.count} elements"

/-- Read a record, written as an object or as the sequence of its fields. -/
def read (r : Record αs β) (depth : Nat) : Reader β := do
  match ← Reader.peek with
  | none => Reader.fail .truncated
  | some b =>
    if b = openBrace then
      match depth with
      | 0 => Reader.fail .malformed
      | d + 1 =>
        Reader.skip
        let done ← Reader.members (r.fields.member d) r.fields.blank
        match r.fields.complete done with
        | .ok vs => return r.make vs
        | .error m => Reader.mismatch m
    else if b = openBracket then
      match depth with
      | 0 => Reader.fail .malformed
      | d + 1 =>
        Reader.skip
        let vs ← r.fields.elements d r.expectedLength 0
        Reader.closeList
        return r.make vs
    else Reader.wrongType r.expected

end Record

end TokenCatalog.Json
