import TokenCatalog.Settings.Value

namespace TokenCatalog.Settings

/-!
# Paths — a top key that reaches into tables and lists

A top key such as `a.b[2]` says where its value belongs; a key that is no path stands for itself.

* `pathOf` — the steps of a key;
* `assign` — put a value at the end of a path, making tables and lists on the way;
* `settle` — a file's fields with every top key taken as a path.
-/

/-- One step into a value. -/
inductive Step where
  | field (key : String)
  /-- An element; a negative index counts from the end. -/
  | element (index : Int)
  deriving DecidableEq, Repr

/-- A character of a step's name. -/
def isNameChar (c : Char) : Bool := c.isAlphanum || c == ' ' || c == '_' || c == '-'

/-- A character that may stand around an index. -/
def isSpace (c : Char) : Bool := c == ' ' || c == '\t'

/-- An index in brackets behind the opening one, and what follows. -/
def indexFrom? (cs : List Char) : Option (Int × List Char) :=
  let body := cs.dropWhile isSpace
  let (negative, body) := if body.head? = some '-' then (true, body.tail) else (false, body)
  let digits := body.takeWhile Char.isDigit
  match (body.dropWhile Char.isDigit).dropWhile isSpace with
  | ']' :: rest =>
    let n : Int := Nat.ofDigitChars 10 digits 0
    let index := if negative then -n else n
    if digits = [] ∨ index < -9223372036854775808 ∨ 9223372036854775807 < index then none
    else some (index, rest)
  | _ => none

/-- The steps behind the first one; `fuel` bounds their count. -/
def stepsFrom? (fuel : Nat) (cs : List Char) : Option (List Step) :=
  match fuel, cs with
  | 0, _ => none
  | _, [] => some []
  | fuel + 1, '.' :: rest =>
    let name := rest.takeWhile isNameChar
    if name = [] then none
    else (stepsFrom? fuel (rest.dropWhile isNameChar)).map (.field (String.ofList name) :: ·)
  | fuel + 1, '[' :: rest => do
    let (index, rest) ← indexFrom? rest
    (stepsFrom? fuel rest).map (.element index :: ·)
  | _, _ => none

/-- The steps of a key. -/
def pathOf (key : String) : List Step :=
  (stepsFrom? (key.length + 2) ('.' :: key.toList)).getD [.field key]

/-! ### Assigning -/

/-- The fields of a table; anything else has none. -/
def fieldsOrNone : Option Value → List (String × Value)
  | some (.table fields) => fields
  | _ => []

/-- The elements of a list; anything else has none. -/
def itemsOrNone : Option Value → List Value
  | some (.list items) => items
  | _ => []

/-- Change the value under a key, or add one at the end. -/
def alterField (key : String) (f : Option Value → Value) :
    List (String × Value) → List (String × Value)
  | [] => [(key, f none)]
  | (k, v) :: rest => if k = key then (k, f (some v)) :: rest else (k, v) :: alterField key f rest

/-- Change the element at an index, with absent ones up to it in a shorter list. -/
def alterElement (index : Int) (f : Value → Value) (items : List Value) : List Value :=
  let i := if 0 ≤ index then index.natAbs else items.length - index.natAbs
  let items := items ++ List.replicate (i + 1 - items.length) .absent
  items.modify i f

mutual

/-- Put a value in the place of an old one.  The fields of a table are put one by one, so that a table
    without fields changes nothing but makes a table where nothing was. -/
def Value.inPlaceOf (new : Value) (old : Option Value) : Value :=
  match new, old with
  | .table [], some old => old
  | .table fields, old => .table (Value.fieldsInPlaceOf fields (fieldsOrNone old))
  | new, _ => new

/-- Put every field in its place. -/
def Value.fieldsInPlaceOf : List (String × Value) → List (String × Value) → List (String × Value)
  | [], done => done
  | (k, v) :: rest, done => Value.fieldsInPlaceOf rest (alterField k v.inPlaceOf done)

end

/-- Put a value at the end of a path; an element is replaced as a whole. -/
def assign (v : Value) (path : List Step) (old : Option Value) : Value :=
  match path with
  | [] => v.inPlaceOf old
  | [.element i] => .list (alterElement i (fun _ => v) (itemsOrNone old))
  | .field k :: path => .table (alterField k (assign v path) (fieldsOrNone old))
  | .element i :: path => .list (alterElement i (fun v' => assign v path (some v')) (itemsOrNone old))

/-- The fields of a file with every top key taken as a path. -/
def settle (fields : List (String × Value)) : List (String × Value) :=
  fieldsOrNone (some (fields.foldl (fun done (k, v) => assign v (pathOf k) (some done)) (.table [])))

/-! ### Examples -/

-- The second key has an empty name in it and the third a line break, so they are no paths.
example : pathOf "a.b[ -1\t]" = [.field "a", .field "b", .element (-1)] ∧
    pathOf "a..b" = [.field "a..b"] ∧ pathOf "a[\n0]" = [.field "a[\n0]"] := by decide +kernel

end TokenCatalog.Settings
