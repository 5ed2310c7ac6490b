import TokenCatalog.Toml.Datetime

namespace TokenCatalog.Toml

open Settings (Value)

/-!
# TOML documents — keys, tables and lines

A document is read line by line into a tree of tables.  A table may be opened once, a key may be set
once, and the tables that dotted keys made are extended by dotted keys only.

* `valueFrom?` — a value of any kind;
* `Tree` — the tables read so far;
* `parse?` — a whole document.
-/

/-- A key: bare, or a string on one line. -/
def keyFrom? (cs : List Char) : Option (String × List Char) :=
  let word := cs.takeWhile isBare
  if word ≠ [] then some (String.ofList word, cs.dropWhile isBare)
  else
    match stringFrom? cs with
    | some (s, false, rest) => some (String.ofList s, rest)
    | _ => none

/-- Keys with dots between them; `fuel` bounds their count. -/
def dottedKeyFrom? (fuel : Nat) (cs : List Char) : Option (List String × List Char) :=
  match fuel with
  | 0 => none
  | fuel + 1 => do
    let (key, rest) ← keyFrom? cs
    match skipBlanks rest with
    | '.' :: more =>
      let (keys, rest) ← dottedKeyFrom? fuel (skipBlanks more)
      return (key :: keys, rest)
    | rest => return ([key], rest)

/-- What follows a comment, if one stands in front. -/
def skipComment (cs : List Char) : List Char :=
  match cs with
  | '#' :: rest => rest.dropWhile fun c => c == '\t' || 0x20 ≤ c.toNat
  | _ => cs

/-- Skip blanks, comments and line ends. -/
def skipLines (fuel : Nat) (cs : List Char) : List Char :=
  match fuel with
  | 0 => cs
  | fuel + 1 =>
    match skipComment (skipBlanks cs) with
    | '\n' :: rest => skipLines fuel rest
    | rest => rest

/-- What follows the end of a line, which a comment may precede. -/
def lineEnd? (cs : List Char) : Option (List Char) :=
  match skipComment (skipBlanks cs) with
  | [] => some []
  | '\n' :: rest => some rest
  | _ => none

/-! ### Trees -/

/-- How a table came to be. -/
inductive Origin where
  /-- A header below it named it on its way. -/
  | passed
  /-- Its own header opened it, or an inline value wrote it. -/
  | opened
  /-- Dotted keys made it. -/
  | dotted
  deriving DecidableEq

/-- Values and tables by key. -/
inductive Tree where
  | value (v : Value)
  | table (origin : Origin) (fields : List (String × Tree))
  /-- Tables under one header with double brackets, the last one first. -/
  | tables (items : List (List (String × Tree)))

/-- The fields of a tree. -/
abbrev Tree.Fields := List (String × Tree)

/-- Replace what stands under a key, or add it at the end. -/
def Tree.Fields.alter? (fields : Fields) (key : String) (f : Option Tree → Option Tree) :
    Option Fields :=
  match fields with
  | [] => (f none).map fun t => [(key, t)]
  | (k, t) :: rest =>
    if k = key then (f (some t)).map fun t => (k, t) :: rest
    else (alter? rest key f).map ((k, t) :: ·)

/-- Set a dotted key in a table. -/
def setKey? (path : List String) (v : Value) (fields : Tree.Fields) : Option Tree.Fields :=
  match path with
  | [] => none
  | [key] => fields.alter? key fun
    | none => some (.value v)
    | some _ => none
  | key :: path => fields.alter? key fun
    | none => (setKey? path v []).map (.table .dotted)
    | some (.table .dotted inner) => (setKey? path v inner).map (.table .dotted)
    | some _ => none

/-- Change the table under a path.  A header makes the tables on its way, but enters none that dotted
    keys made, and of several tables under one header it means the last. -/
def within? (path : List String) (f : Tree.Fields → Option Tree.Fields) (fields : Tree.Fields) :
    Option Tree.Fields :=
  match path with
  | [] => f fields
  | key :: path => fields.alter? key fun
    | none => (within? path f []).map (.table .passed)
    | some (.table .dotted _) => none
    | some (.table origin inner) => (within? path f inner).map (.table origin)
    | some (.tables (last :: earlier)) =>
      (within? path f last).map fun last => .tables (last :: earlier)
    | some _ => none

/-- Open the table of a header. -/
def openTable? (path : List String) (fields : Tree.Fields) : Option Tree.Fields :=
  match path.getLast? with
  | none => none
  | some key => within? path.dropLast (fun inner => inner.alter? key fun
      | none => some (.table .opened [])
      | some (.table .passed deeper) => some (.table .opened deeper)
      | some _ => none) fields

/-- Open another table under a header with double brackets. -/
def openItem? (path : List String) (fields : Tree.Fields) : Option Tree.Fields :=
  match path.getLast? with
  | none => none
  | some key => within? path.dropLast (fun inner => inner.alter? key fun
      | none => some (.tables [[]])
      | some (.tables items) => some (.tables ([] :: items))
      | some _ => none) fields

mutual

/-- A tree as a value. -/
def Tree.toValue : Tree → Value
  | .value v => v
  | .table _ fields => .table (fieldValues fields)
  | .tables items => .list (itemValues items).reverse

/-- Fields as values. -/
def Tree.fieldValues : List (String × Tree) → List (String × Value)
  | [] => []
  | (k, t) :: rest => (k, t.toValue) :: fieldValues rest

/-- Tables as values. -/
def Tree.itemValues : List (List (String × Tree)) → List Value
  | [] => []
  | fields :: rest => .table (fieldValues fields) :: itemValues rest

end

/-! ### Values -/

/-- A word as a value: a truth value, a date or a number. -/
def wordFrom? (word rest : List Char) : Option (Value × List Char) :=
  if word = ['t', 'r', 'u', 'e'] then some (.truth true, rest)
  else if word = ['f', 'a', 'l', 's', 'e'] then some (.truth false, rest)
  else if word = ['i', 'n', 'f'] ∨ word = ['n', 'a', 'n'] then numberFrom? word rest
  else if word.head?.any fun c => c.isDigit || c == '-' then
    if startsDatetime word rest then
      let (text, rest) := datetimeSpan word rest
      (Datetime.ofChars? text).map fun t => (.text t.toText, rest)
    else numberFrom? word rest
  else none

mutual

/-- A value in front; `fuel` bounds the characters taken. -/
def valueFrom? (fuel : Nat) (cs : List Char) : Option (Value × List Char) :=
  match fuel, cs with
  | 0, _ => none
  | _, [] => none
  | fuel + 1, c :: rest =>
    if c = '"' ∨ c = '\'' then
      (stringFrom? cs).map fun (s, _, rest) => (.text (String.ofList s), rest)
    else if c = '[' then
      (itemsFrom? fuel rest).map fun (items, rest) => (.list items, rest)
    else if c = '\x7b' then do
      let body := skipBlanks rest
      if body.head? = some '\x7d' then return (.table [], body.tail)
      let (fields, rest) ← pairsFrom? fuel [] body
      return (.table (Tree.fieldValues fields), rest)
    else if c = '+' then
      let word := rest.takeWhile isBare
      if word = [] then none else numberFrom? word (rest.dropWhile isBare)
    else if isBare c then wordFrom? (cs.takeWhile isBare) (cs.dropWhile isBare)
    else none

/-- The elements of an array behind its opening bracket, which may run over several lines. -/
def itemsFrom? (fuel : Nat) (cs : List Char) : Option (List Value × List Char) :=
  match fuel with
  | 0 => none
  | fuel + 1 =>
    match skipLines cs.length cs with
    | ']' :: rest => some ([], rest)
    | body => do
      let (v, rest) ← valueFrom? fuel body
      match skipLines rest.length rest with
      | ',' :: rest =>
        let (vs, rest) ← itemsFrom? fuel rest
        return (v :: vs, rest)
      | ']' :: rest => return ([v], rest)
      | _ => none

/-- The pairs of an inline table behind its opening brace, added to `fields`. -/
def pairsFrom? (fuel : Nat) (fields : Tree.Fields) (cs : List Char) :
    Option (Tree.Fields × List Char) :=
  match fuel with
  | 0 => none
  | fuel + 1 => do
    let (key, rest) ← dottedKeyFrom? fuel cs
    let rest ← mark? '=' (skipBlanks rest)
    let (v, rest) ← valueFrom? fuel (skipBlanks rest)
    let fields ← setKey? key v fields
    match skipBlanks rest with
    | '\x7d' :: rest => return (fields, rest)
    | ',' :: rest => pairsFrom? fuel fields (skipBlanks rest)
    | _ => none

end

/-! ### Documents -/

/-- A header in front: its path, whether it has double brackets, and what follows its line. -/
def headerFrom? (cs : List Char) : Option (List String × Bool × List Char) := do
  let cs ← mark? '[' cs
  let double := cs.head? == some '['
  let (path, rest) ← dottedKeyFrom? cs.length (skipBlanks (if double then cs.tail else cs))
  let rest ← mark? ']' rest
  let rest ← if double then mark? ']' rest else some rest
  return (path, double, ← lineEnd? rest)

/-- A pair in front: its key, its value, and what follows its line. -/
def pairFrom? (cs : List Char) : Option (List String × Value × List Char) := do
  let (key, rest) ← dottedKeyFrom? cs.length cs
  let rest ← mark? '=' (skipBlanks rest)
  let (v, rest) ← valueFrom? cs.length (skipBlanks rest)
  return (key, v, ← lineEnd? rest)

/-- The lines of a document, added to the tree under the header of that path. -/
def linesInto? (fuel : Nat) (header : List String) (tree : Tree.Fields) (cs : List Char) :
    Option Tree.Fields :=
  match fuel with
  | 0 => none
  | fuel + 1 =>
    match skipLines cs.length cs with
    | [] => some tree
    | '[' :: rest => do
      let (path, double, rest) ← headerFrom? ('[' :: rest)
      let tree ← if double then openItem? path tree else openTable? path tree
      linesInto? fuel path tree rest
    | body => do
      let (key, v, rest) ← pairFrom? body
      let tree ← within? header (setKey? key v) tree
      linesInto? fuel header tree rest

/-- Line ends as line feeds. -/
def foldLineEnds : List Char → List Char
  | '\r' :: '\n' :: cs => '\n' :: foldLineEnds cs
  | c :: cs => c :: foldLineEnds cs
  | [] => []

/-- The table of a document. -/
def parse? (s : String) : Option (List (String × Value)) :=
  let text := match s.toList with
    | '\uFEFF' :: cs => foldLineEnds cs
    | cs => foldLineEnds cs
  (linesInto? (text.length + 1) [] [] text).map Tree.fieldValues

end TokenCatalog.Toml
