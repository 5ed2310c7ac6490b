import TokenCatalog.Json.Basic
import TokenCatalog.Text.Quoted

namespace TokenCatalog.Json

/-!
# Faults — why a document could not be read

Reading is one pass over the bytes, so the first fault met is the one reported.

* `Mismatch` — the document is well formed so far, but not what the type asks for;
* `Fault` — the input ended inside a value, or it is not JSON, or it mismatches.
-/

/-- What stood where something else was expected. -/
inductive Found where
  | null
  | bool (b : Bool)
  | number (n : Number)
  | string (s : String)
  | sequence
  | map
  deriving DecidableEq, Repr

/-- A well-formed value that the type being read does not admit. -/
inductive Mismatch where
  | wrongType (found : Found) (expected : String)
  | outOfRange (found : Found) (expected : String)
  | wrongLength (length : Nat) (expected : String)
  | missingField (name : String)
  | repeatedField (name : String)
  /-- A character at an index of hexadecimal text that is no hexadecimal digit. -/
  | notHexadecimal (c : Char) (index : Nat)
  deriving DecidableEq, Repr

/-- Why a document could not be read. -/
inductive Fault where
  /-- The input ended inside a value. -/
  | truncated
  /-- The input is not JSON, or exceeds a limit of the reader. -/
  | malformed
  | mismatch (m : Mismatch)
  deriving DecidableEq, Repr

/-- An integer as a message quotes it. -/
def Number.inMessage : Number → String
  | .natural n => s!"integer `{n.toNat}`"
  | .negSucc k => s!"integer `-{k.val + 1}`"
  | .float x => s!"floating point `{x.toText}`"

/-- A found value as a message names it. -/
def Found.inMessage : Found → String
  | .null => "null"
  | .bool b => s!"boolean `{b}`"
  | .number n => n.inMessage
  | .string s => "string " ++ Quoted.encode s
  | .sequence => "sequence"
  | .map => "map"

/-- The text of a mismatch. -/
def Mismatch.message : Mismatch → String
  | .wrongType found expected => s!"invalid type: {found.inMessage}, expected {expected}"
  | .outOfRange found expected => s!"invalid value: {found.inMessage}, expected {expected}"
  | .wrongLength length expected => s!"invalid length {length}, expected {expected}"
  | .missingField name => s!"missing field `{name}`"
  | .repeatedField name => s!"duplicate field `{name}`"
  | .notHexadecimal c index => s!"invalid hex character: {c}, at {index}"

end TokenCatalog.Json
