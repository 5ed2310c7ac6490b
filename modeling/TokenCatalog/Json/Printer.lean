import TokenCatalog.Json.Basic

namespace TokenCatalog.Json

/-!
# JSON text — compact printing

No blank between tokens.  In a string only the quote, the backslash and the control characters are
escaped, the common ones by a letter and the rest by four hexadecimal digits.

* `render` — a document as characters;
* `toText` — the same as a string.
-/

/-- A character as it stands in a string. -/
def escape (c : Char) : List Char :=
  if c = '"' then ['\\', '"']
  else if c = '\\' then ['\\', '\\']
  else if c = '\x08' then ['\\', 'b']
  else if c = '\x0c' then ['\\', 'f']
  else if c = '\n' then ['\\', 'n']
  else if c = '\r' then ['\\', 'r']
  else if c = '\t' then ['\\', 't']
  else if c.toNat < 0x20 then
    ['\\', 'u', '0', '0', (c.toNat / 16).digitChar, (c.toNat % 16).digitChar]
  else [c]

/-- A string in quotes. -/
def renderString (s : String) : List Char := '"' :: s.toList.flatMap escape ++ ['"']

/-- A number: integers in decimal, doubles in their shortest form. -/
def Number.render : Number → List Char
  | .natural n => Nat.toDigits 10 n.toNat
  | .negSucc k => '-' :: Nat.toDigits 10 (k + 1)
  | .float x => x.toText.toList

mutual

/-- A document without blanks. -/
def render : Json → List Char
  | .null => ['n', 'u', 'l', 'l']
  | .bool true => ['t', 'r', 'u', 'e']
  | .bool false => ['f', 'a', 'l', 's', 'e']
  | .number n => n.render
  | .string s => renderString s
  | .array [] => ['[', ']']
  | .array (j :: rest) => '[' :: render j ++ renderItems rest ++ [']']
  | .object [] => ['\x7b', '\x7d']
  | .object ((k, v) :: rest) =>
    '\x7b' :: renderString k ++ ':' :: render v ++ renderFields rest ++ ['\x7d']

/-- The elements after the first, a comma before each. -/
def renderItems : List Json → List Char
  | [] => []
  | j :: rest => ',' :: render j ++ renderItems rest

/-- The fields after the first, a comma before each. -/
def renderFields : List (String × Json) → List Char
  | [] => []
  | (k, v) :: rest => ',' :: renderString k ++ ':' :: render v ++ renderFields rest

end

/-- A document as text. -/
def toText (j : Json) : String := String.ofList j.render

-- No blank between tokens, and a control character by its number.
example : (Json.object [("a", .array [.nat 1, .null]), ("b", .string "\x01\"")]).toText =
    "\x7b\"a\":[1,null],\"b\":\"\\u0001\\\"\"\x7d" := by decide +kernel

end TokenCatalog.Json
