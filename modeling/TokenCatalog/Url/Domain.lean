import TokenCatalog.Text.Bytes
import TokenCatalog.Url.Address
import TokenCatalog.Url.Label

namespace TokenCatalog.Url

/-!
# Domains — the form of a host name in which it is looked up

A host name is percent-decoded, each character is mapped to what it stands for, the result is
normalized, and each of its labels must be one that may stand in a domain.

* `percentDecode` — bytes with their percent escapes replaced;
* `mapText?` — the mapped and normalized form of a text;
* `domain?` — the form of a host name on which addresses are recognised.
-/

/-- Replace every percent sign with two hexadecimal digits behind it by the byte they spell. -/
def percentDecode : Bytes → Bytes
  | [] => []
  | b :: rest =>
    if b = 0x25 then
      match rest with
      | hi :: lo :: rest' =>
        match Hex.value? (Ascii.char hi), Hex.value? (Ascii.char lo) with
        | some h, some l => UInt8.ofNat (16 * h + l) :: percentDecode rest'
        | _, _ => b :: percentDecode (hi :: lo :: rest')
      | short => b :: percentDecode short
    else b :: percentDecode rest

/-- The mapped and normalized form of a text, if each of its characters may stand in a host name. -/
def mapText? (cs : List Char) : Option (List Char) :=
  (cs.mapM mapChar?).map fun forms => Text.normalize forms.flatten

/-- Whether labels can be read side by side; only text from right to left asks more of them. -/
def keepDirections (labels : List (List Char)) : Bool :=
  !labels.any (·.any isRightToLeft) || labels.all keepsDirection

/-- The form of a host name on which addresses are recognised, if it is a domain. -/
def domain? (host : List Char) : Option (List Char) := do
  let text ← Bytes.text? (percentDecode (Bytes.ofText (String.ofList host)))
  let domain ← mapText? text.toList
  let labels ← (Text.split (· == '.') domain).mapM label?
  if keepDirections labels then some domain else none

/-! ### Examples -/

-- Escapes and capitals are replaced first.
example : domain? "EX%41mple.%6Frg".toList = some "example.org".toList ∧
    domain? "a%2Fb".toList = none := by decide +kernel

end TokenCatalog.Url
