import TokenCatalog.Json.Lexeme

namespace TokenCatalog.Json

open Ascii

/-!
# Documents — reading a value of any shape

* `Reader.json` — a document, with a bound on how deep containers may nest;
* `Reader.skipValue` — a value that nobody looks at: its numerals and escapes are checked for
  their form alone, and it may nest as deep as it likes;
* `Json.parse` — a whole document from its bytes, at most `maxNesting` deep.
-/

/-- How many containers may be open at once. -/
def maxNesting : Nat := 127

namespace Reader

/-- One member of an object, behind the quote that opens its key. -/
def member (value : Reader α) (acc : List (String × α)) : Reader (List (String × α)) := do
  let key ← text
  colon
  let v ← value
  return (key, v) :: acc

/-- A document with at most `depth` containers open at once. -/
def json (depth : Nat) : Reader Json := do
  match ← peek with
  | none => fail .truncated
  | some b =>
    if b = quote then
      skip
      return .string (← text)
    else if b = minus ∨ isDigit b then return .number (← number)
    else if b = byte 'n' then
      word "null"
      return .null
    else if b = byte 't' then
      word "true"
      return .bool true
    else if b = byte 'f' then
      word "false"
      return .bool false
    else if b = openBracket then
      match depth with
      | 0 => fail .malformed
      | d + 1 =>
        skip
        return .array (← items (json d))
    else if b = openBrace then
      match depth with
      | 0 => fail .malformed
      | d + 1 =>
        skip
        return .object (← members (member (json d)) []).reverse
    else fail .malformed

/-- One member of an object that nobody looks at, behind the quote that opens its key. -/
def skipMember (value : Reader Unit) : Reader Unit := do
  skipText
  colon
  value

/-- Skip a value with at most `depth` containers open at once. -/
def skipNested (depth : Nat) : Reader Unit := do
  match ← peek with
  | none => fail .truncated
  | some b =>
    if b = quote then
      skip
      skipText
    else if b = minus ∨ isDigit b then
      let _ ← numeral .malformed
      return ()
    else if b = byte 'n' then word "null"
    else if b = byte 't' then word "true"
    else if b = byte 'f' then word "false"
    else if b = openBracket then
      match depth with
      | 0 => fail .truncated
      | d + 1 =>
        skip
        let _ ← items (skipNested d)
        return ()
    else if b = openBrace then
      match depth with
      | 0 => fail .truncated
      | d + 1 =>
        skip
        members (fun _ => skipMember (skipNested d)) ()
    else fail .malformed

/-- Skip a value: as many containers may be open as there are bytes. -/
def skipValue : Reader Unit := ⟨fun s => (skipNested s.length).run s, (skipNested _).length_le⟩

end Reader

/-- Read a whole document. -/
def parse (s : Bytes) : Except Fault Json := (Reader.json maxNesting).decode s

end TokenCatalog.Json
