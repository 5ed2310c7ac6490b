import TokenCatalog.Text.Hidden

namespace TokenCatalog.Quoted

/-!
# Quoted text — how messages quote what they were given

A quote and a backslash are escaped, the common controls by a letter, and every other hidden
character by its number in braces.

* `encode` — a text in double quotes.
-/

/-- The number of a character, as `\u` with lowercase hexadecimal digits in braces. -/
def byNumber (c : Char) : List Char :=
  ['\\', 'u', '\x7b'] ++ Nat.toDigits 16 c.toNat ++ ['\x7d']

/-- A character as it stands between the quotes. -/
def escape (c : Char) : List Char :=
  if c = '"' then ['\\', '"']
  else if c = '\\' then ['\\', '\\']
  else if c = '\x00' then ['\\', '0']
  else if c = '\t' then ['\\', 't']
  else if c = '\n' then ['\\', 'n']
  else if c = '\r' then ['\\', 'r']
  else if Text.isHidden c then byNumber c
  else [c]

/-- A text in double quotes. -/
def encode (s : String) : String :=
  String.ofList ('"' :: s.toList.flatMap escape ++ ['"'])

-- A quote, a backslash, a line feed and an escape character.
example : encode "\"\\\n\x1b" = "\"\\\"\\\\\\n\\u\x7b1b\x7d\"" := by decide +kernel

end TokenCatalog.Quoted
