import TokenCatalog.Text.Hex
import TokenCatalog.Text.Numeral
import TokenCatalog.Json.Record

namespace TokenCatalog

open Json (Reader)

/-!
# Addresses and keys — what identifies a token

A token is identified by its chain and its address there; its key spells both in one string.

* `Address.parse?` / `Address.toText` — `0x` or `0X` and forty hexadecimal digits, written with
  `0x` and in lowercase;
* `Key.encode` / `Key.decode?` — chain, a minus, address.
-/

/-- A chain, by its number. -/
abbrev ChainId := UInt64

/-- An address on a chain: twenty bytes. -/
structure Address where
  bytes : List UInt8
  length_bytes : bytes.length = 20
  deriving DecidableEq

namespace Address

/-- The address of a chain's native asset. -/
def zero : Address := ⟨List.replicate 20 0, rfl⟩

instance : Inhabited Address := ⟨zero⟩

/-- The address of twenty bytes. -/
def ofBytes? (bytes : List UInt8) : Option Address :=
  if h : bytes.length = 20 then some ⟨bytes, h⟩ else none

/-- The digits behind the `0x` of an address text. -/
def digits? : List Char → Option (List Char)
  | '0' :: 'x' :: ds => some ds
  | '0' :: 'X' :: ds => some ds
  | _ => none

/-- Whether characters are `0x` or `0X` and exactly forty hexadecimal digits. -/
def isHexChars (cs : List Char) : Bool :=
  match digits? cs with
  | some ds => ds.length == 40 && ds.all Hex.isDigit
  | none => false

/-- Whether a text is `0x` or `0X` and exactly forty hexadecimal digits. -/
def isHexText (s : String) : Bool := isHexChars s.toList

/-- The address that characters spell. -/
def ofChars? (cs : List Char) : Option Address := do
  let ds ← digits? cs
  let bytes ← Hex.decode? ds
  ofBytes? bytes

/-- The address that a text spells. -/
def parse? (s : String) : Option Address := ofChars? s.toList

/-- The characters of an address. -/
def toChars (a : Address) : List Char := '0' :: 'x' :: Hex.encode a.bytes

/-- The text of an address. -/
def toText (a : Address) : String := String.ofList a.toChars

/-- An address is read as it was written. -/
theorem ofChars?_toChars (a : Address) : ofChars? a.toChars = some a := by
  simp [ofChars?, toChars, digits?, Hex.decode?_encode, ofBytes?, a.length_bytes]

/-! ### As JSON -/

/-- An address as a document. -/
def toJson (a : Address) : Json := .string a.toText

/-- What an address is called where another value stands. -/
def expected : String :=
  "a (both 0x-prefixed or not) hex string or byte array containing 20 bytes"

/-- The address of forty hexadecimal digits; `offset` characters stood in front of them. -/
def ofDigits (ds : List Char) (offset : Nat) : Except Json.Mismatch Address :=
  if ds.length ≠ 40 then .error (.wrongLength ds.length expected)
  else
    match ds.find? (fun c => !Hex.isDigit c) with
    | some c => .error (.notHexadecimal c (offset + ds.idxOf c))
    | none =>
      match Hex.decode? ds >>= ofBytes? with
      | some a => .ok a
      | none => .error (.wrongLength ds.length expected)

/-- The address of a string with or without its `0x`. -/
def ofJsonText (s : String) : Except Json.Mismatch Address :=
  match s.toList with
  | '0' :: 'x' :: ds => ofDigits ds 2
  | ds => ofDigits ds 0

/-- Read an address. -/
def read : Reader Address := do
  match ← Reader.peek with
  | none => Reader.fail .truncated
  | some b =>
    if b = Ascii.quote then
      Reader.skip
      match ofJsonText (← Reader.text) with
      | .ok a => return a
      | .error m => Reader.mismatch m
    else Reader.wrongType expected

end Address

/-! ### Keys -/

namespace Key

/-- The characters of a key. -/
def chars (chain : ChainId) (a : Address) : List Char :=
  Numeral.ofNatural chain ++ '-' :: a.toChars

/-- The key of a token. -/
def encode (chain : ChainId) (a : Address) : String := String.ofList (chars chain a)

/-- What stands before the first minus, and behind it. -/
def split? : List Char → Option (List Char × List Char)
  | [] => none
  | c :: cs => if c = '-' then some ([], cs) else (split? cs).map fun p => (c :: p.1, p.2)

/-- The chain and address of a key. -/
def decodeChars? (cs : List Char) : Option (ChainId × Address) := do
  let (chain, address) ← split? cs
  return (← Numeral.naturalOfChars? chain, ← Address.ofChars? address)

/-- The chain and address of a key. -/
def decode? (s : String) : Option (ChainId × Address) := decodeChars? s.toList

/-- A chain has no dash in its number, so a key is split at the first one. -/
theorem split?_append {cs : List Char} (h : cs.all Char.isDigit) (ds : List Char) :
    split? (cs ++ '-' :: ds) = some (cs, ds) := by
  induction cs with
  | nil => simp [split?]
  | cons c cs ih =>
    have hc : c ≠ '-' := by
      rintro rfl
      simp [Char.isDigit] at h
    simp only [List.all_cons, Bool.and_eq_true] at h
    simp [split?, hc, ih h.2]

/-- A key is read as it was written. -/
theorem decode?_encode (chain : ChainId) (a : Address) :
    decode? (encode chain a) = some (chain, a) := by
  simp [decode?, encode, decodeChars?, chars, split?_append (Numeral.all_isDigit_ofNatural chain),
    Numeral.naturalOfChars?_ofNatural, Address.ofChars?_toChars]

/-- Different tokens have different keys. -/
theorem encode_inj {c d : ChainId} {a b : Address} (h : encode c a = encode d b) :
    c = d ∧ a = b := by
  have := congrArg decode? h
  simpa [decode?_encode] using this

-- Reading is more lenient than writing: a plus sign, leading zeros and capitals are fine.
example : decode? "+007-0X00000000000000000000000000000000000000AA" =
    some (7, ⟨List.replicate 19 0 ++ [0xAA], rfl⟩) := by decide +kernel

end Key

end TokenCatalog
