import TokenCatalog.Text.Hex
import TokenCatalog.Text.Split

namespace TokenCatalog.Url

/-!
# Internet addresses in URLs — IPv4 numbers and IPv6 pieces

* `endsInNumber`, `isIpv4` — whether a host must be an IPv4 address, and whether it is one;
* `isIpv6` — whether the text between brackets is an IPv6 address.
-/

/-! ### IPv4 -/

/-- The value of digits in a base, if all of them are digits of it. -/
def valueInBase? (base : Nat) (cs : List Char) : Option Nat :=
  cs.foldlM (fun n c => do
    let d ← Hex.value? c
    if d < base then some (n * base + d) else none) 0

/-- A number of an IPv4 address: hexadecimal behind `0x`, octal behind `0`, else decimal. -/
def ipv4Number? : List Char → Option Nat
  | [] => none
  | '0' :: 'x' :: cs => valueInBase? 16 cs
  | '0' :: 'X' :: cs => valueInBase? 16 cs
  | '0' :: c :: cs => valueInBase? 8 (c :: cs)
  | cs => valueInBase? 10 cs

/-- The parts of a domain between its dots, without an empty one at the end. -/
def domainParts (domain : List Char) : List (List Char) :=
  match (Text.split (· == '.') domain).reverse with
  | [] :: rest => rest.reverse
  | parts => parts.reverse

/-- Whether the last part of a domain is a number, so that the domain must be an IPv4 address. -/
def endsInNumber (domain : List Char) : Bool :=
  match (domainParts domain).getLast? with
  | none => false
  | some part => (part ≠ [] && part.all Char.isDigit) || (ipv4Number? part).isSome

/-- Whether numbers fit an IPv4 address: the last one fills the bytes that the others leave. -/
def fitIpv4 : List Nat → Nat → Bool
  | [], _ => false
  | [last], free => last < Nat.pow 256 free
  | n :: rest, free => n ≤ 255 && fitIpv4 rest (free - 1)

/-- Whether a domain is an IPv4 address. -/
def isIpv4 (domain : List Char) : Bool :=
  let parts := domainParts domain
  parts.length ≤ 4 &&
    match parts.mapM ipv4Number? with
    | some numbers => fitIpv4 numbers 4
    | none => false

/-! ### IPv6 -/

/-- Whether a text is four decimal numbers below 256 with dots between, none with a zero in front. -/
def isDottedQuad (cs : List Char) : Bool :=
  let parts := Text.split (· == '.') cs
  parts.length == 4 && parts.all fun p =>
    p ≠ [] && p.all Char.isDigit && (p.head? ≠ some '0' || p.length == 1) &&
      p.length ≤ 3 && Nat.ofDigitChars 10 p 0 ≤ 255

/-- Whether the pieces from `pieces` on fill an IPv6 address; `compressed` tells that a gap was
    seen, and `fuel` bounds the pieces. -/
def isIpv6From (fuel pieces : Nat) (compressed : Bool) (cs : List Char) : Bool :=
  match fuel with
  | 0 => false
  | fuel + 1 =>
    match cs with
    | [] => compressed || pieces == 8
    | ':' :: rest =>
      pieces < 8 && !compressed && isIpv6From fuel (pieces + 1) true rest
    | _ =>
      if pieces ≥ 8 then false
      else
        let digits := (cs.take 4).takeWhile Hex.isDigit
        match cs.drop digits.length with
        | [] => isIpv6From fuel (pieces + 1) compressed []
        | '.' :: _ =>
          digits ≠ [] && pieces ≤ 6 && isDottedQuad cs && (compressed || pieces + 2 == 8)
        | ':' :: rest => rest ≠ [] && isIpv6From fuel (pieces + 1) compressed rest
        | _ => false

/-- Whether the text between brackets is an IPv6 address. -/
def isIpv6 (cs : List Char) : Bool :=
  match cs with
  | [] | [_] => false
  | ':' :: ':' :: rest => isIpv6From (cs.length + 1) 1 true rest
  | ':' :: _ => false
  | _ => isIpv6From (cs.length + 1) 0 false cs

end TokenCatalog.Url
