import TokenCatalog.Text.CaseTable
import TokenCatalog.Text.Table

namespace TokenCatalog.Text

/-!
# Case — full uppercase and lowercase forms

One character may become several, and the capital sigma has a form of its own at the end of a word.

* `upper` — the uppercase form of a text;
* `lower` — its lowercase form.
-/

/-- The shift of the run that a code point belongs to. -/
def CaseRun.shift? (runs : List CaseRun) (n : Nat) : Option Int :=
  (runs.find? fun r => r.first ≤ n && n ≤ r.last && (n - r.first) % r.stride == 0).map (·.shift)

/-- The full case form of a character beyond ASCII. -/
def mapCase (runs : List CaseRun) (specials : List (Nat × List Nat)) (c : Char) : List Char :=
  match specials.lookup c.toNat with
  | some form => form.map Char.ofNat
  | none =>
    match CaseRun.shift? runs c.toNat with
    | some shift => [Char.ofNat (c.toNat + shift).toNat]
    | none => [c]

/-- The uppercase form of a character. -/
def upperChar (c : Char) : List Char :=
  if c.toNat < 0x80 then [c.toUpper] else mapCase upperRuns upperSpecials c

/-- The lowercase form of a character away from the end of a word. -/
def lowerChar (c : Char) : List Char :=
  if c.toNat < 0x80 then [c.toLower] else mapCase lowerRuns lowerSpecials c

/-- The uppercase form of a text. -/
def upper (s : String) : String := String.ofList (s.toList.flatMap upperChar)

/-- Whether the next character that is not skipped carries case. -/
def startsCased (cs : List Char) : Bool :=
  match cs.dropWhile (inRanges caseIgnorableRanges) with
  | [] => false
  | c :: _ => inRanges casedRanges c

/-- The lowercase form of what follows `before`, which is in reverse. -/
def lowerChars (before : List Char) : List Char → List Char
  | [] => []
  | c :: rest =>
    let form :=
      if c = 'Σ' then [if startsCased before && !startsCased rest then 'ς' else 'σ']
      else lowerChar c
    form ++ lowerChars (c :: before) rest

/-- The lowercase form of a text. -/
def lower (s : String) : String := String.ofList (lowerChars [] s.toList)

/-! ### Examples -/

-- One character may become two, and a sigma at the end of a word is a final one.
example : upper "ß" = "SS" ∧ lower "ΑΣ" = "ας" ∧ lower "ΑΣΑ" = "ασα" := by decide +kernel

end TokenCatalog.Text
