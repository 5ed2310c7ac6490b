namespace TokenCatalog.Text

/-!
# Splitting — the parts of a text between separators

* `split` — all parts, empty ones too;
* `words` — the parts between blanks and line feeds that are not empty.
-/

/-- The parts of a text between separators. -/
def split (isSeparator : Char → Bool) (cs : List Char) : List (List Char) :=
  cs.foldr (fun c parts =>
    if isSeparator c then [] :: parts
    else
      match parts with
      | [] => [[c]]
      | part :: rest => (c :: part) :: rest) [[]]

/-- The parts between blanks and line feeds that are not empty. -/
def words (cs : List Char) : List (List Char) :=
  (split (fun c => c == ' ' || c == '\n') cs).filter (· ≠ [])

-- Two separators side by side have an empty part between them.
example : split (· == '.') ['a', '.', '.', 'b'] = [['a'], [], ['b']] := by decide +kernel

end TokenCatalog.Text
