import TokenCatalog.Settings.Value
import TokenCatalog.Text.Hex

namespace TokenCatalog.Toml

open Settings (Real Value)

/-!
# TOML scalars — strings and numbers

A reader takes characters from the front of a text whose line ends are line feeds, and gives none if
they are ill formed.

* `stringFrom?` — a string in double or single quotes, on one line or on several;
* `numberFrom?` — an integer of 64 bits or a real.
-/

/-- A character of a bare key, and of numbers and words. -/
def isBare (c : Char) : Bool := c.isAlphanum || c == '-' || c == '_'

/-- Skip spaces and tabs. -/
def skipBlanks (cs : List Char) : List Char := cs.dropWhile fun c => c == ' ' || c == '\t'

/-- A character that may stand in a string as itself. -/
def isPlain (c : Char) : Bool := c == '\t' || (0x20 ≤ c.toNat && c.toNat ≠ 0x7F)

/-! ### Strings -/

/-- The character of a hexadecimal number with exactly `n` digits. -/
def scalarFrom? (n : Nat) (cs : List Char) : Option (Char × List Char) :=
  let ds := cs.take n
  if ds.length = n then do
    let code ← ds.foldlM (fun v c => (Hex.value? c).map (v * 16 + ·)) 0
    if code.isValidChar then some (Char.ofNat code, cs.drop n) else none
  else none

/-- The character that an escape stands for, behind its backslash. -/
def escapeFrom? : List Char → Option (Char × List Char)
  | '"' :: cs => some ('"', cs)
  | '\\' :: cs => some ('\\', cs)
  | 'b' :: cs => some ('\x08', cs)
  | 'f' :: cs => some ('\x0c', cs)
  | 'n' :: cs => some ('\n', cs)
  | 'r' :: cs => some ('\r', cs)
  | 't' :: cs => some ('\t', cs)
  | 'u' :: cs => scalarFrom? 4 cs
  | 'U' :: cs => scalarFrom? 8 cs
  | _ => none

/-- What follows a backslash at the end of a line: blanks and line ends are dropped. -/
def joinedLine? (cs : List Char) : Option (List Char) :=
  match skipBlanks cs with
  | '\n' :: rest => some (rest.dropWhile fun c => c == ' ' || c == '\t' || c == '\n')
  | _ => none

/-- The rest of a string on one line; `fuel` bounds its characters. -/
def lineFrom? (fuel : Nat) (mark : Char) (cs : List Char) : Option (List Char × List Char) :=
  match fuel, cs with
  | 0, _ => none
  | _, [] => none
  | fuel + 1, c :: rest =>
    if c = mark then some ([], rest)
    else if c = '\\' ∧ mark = '"' then do
      let (d, rest) ← escapeFrom? rest
      let (ds, rest) ← lineFrom? fuel mark rest
      return (d :: ds, rest)
    else if isPlain c then do
      let (ds, rest) ← lineFrom? fuel mark rest
      return (c :: ds, rest)
    else none

/-- The rest of a string on several lines; up to two marks may stand before the closing three. -/
def linesFrom? (fuel : Nat) (mark : Char) (cs : List Char) : Option (List Char × List Char) :=
  match fuel, cs with
  | 0, _ => none
  | _, [] => none
  | fuel + 1, c :: rest =>
    if c = mark ∧ rest.take 2 = [mark, mark] then
      let extra := min 2 ((rest.drop 2).takeWhile (· == mark)).length
      some (List.replicate extra mark, rest.drop (2 + extra))
    else if c = '\\' ∧ mark = '"' then
      match joinedLine? rest with
      | some rest => linesFrom? fuel mark rest
      | none => do
        let (d, rest) ← escapeFrom? rest
        let (ds, rest) ← linesFrom? fuel mark rest
        return (d :: ds, rest)
    else if c = '\n' ∨ isPlain c then do
      let (ds, rest) ← linesFrom? fuel mark rest
      return (c :: ds, rest)
    else none

/-- A string, and whether it may run over several lines. -/
def stringFrom? (cs : List Char) : Option (List Char × Bool × List Char) :=
  match cs with
  | mark :: rest =>
    if mark = '"' ∨ mark = '\'' then
      if rest.take 2 = [mark, mark] then
        let body := match rest.drop 2 with
          | '\n' :: body => body
          | body => body
        (linesFrom? (cs.length + 1) mark body).map fun (s, rest) => (s, true, rest)
      else (lineFrom? (cs.length + 1) mark rest).map fun (s, rest) => (s, false, rest)
    else none
  | [] => none

/-! ### Numbers -/

/-- Where a run of digits stands: nothing yet, after a digit, after an underscore. -/
inductive DigitState where
  | start
  | digit
  | underscore
  deriving DecidableEq

/-- Digits of a base with single underscores between them, and what follows. -/
def digitRun? (base : Nat) (state : DigitState) : List Char → Option (List Char × List Char)
  | [] => if state = .digit then some ([], []) else none
  | c :: cs =>
    if (Hex.value? c).any (· < base) then
      (digitRun? base .digit cs).map fun (ds, rest) => (c :: ds, rest)
    else if state = .digit then
      if c = '_' then digitRun? base .underscore cs else some ([], c :: cs)
    else none

/-- Digits of base ten, where a zero in front stands alone, and what follows. -/
def wholeRun? (cs : List Char) : Option (List Char × List Char) :=
  match digitRun? 10 .start cs with
  | some ('0' :: _ :: _, _) => none
  | run => run

/-- Whether a minus sign is written, and what follows. -/
def splitSign : List Char → Bool × List Char
  | '-' :: cs => (true, cs)
  | cs => (false, cs)

/-- The integer of 64 bits with these digits. -/
def boundedInteger? (base : Nat) (negative : Bool) (ds : List Char) : Option Value := do
  let n ← ds.foldlM (fun v c => (Hex.value? c).map (v * base + ·)) 0
  let value : Int := if negative then -n else n
  if -9223372036854775808 ≤ value ∧ value ≤ 9223372036854775807 then some (.integer value) else none

/-- The integer of a word in base ten, which may have a minus sign. -/
def decimal? (word : List Char) : Option Value :=
  let (negative, ds) := splitSign word
  match wholeRun? ds with
  | some (ds, []) => boundedInteger? 10 negative ds
  | _ => none

/-- The integer of a word in a base, without a sign. -/
def inBase? (base : Nat) (word : List Char) : Option Value :=
  match digitRun? base .start word with
  | some (ds, []) => boundedInteger? base false ds
  | _ => none

/-- The double nearest to `± digits · 10^exponent`, none when it is too large. -/
def real? (negative : Bool) (digits : Nat) (exponent : Int) : Option Value :=
  let length : Int := (Nat.toDigits 10 digits).length
  let units :=
    if digits = 0 ∨ exponent + length < -400 then 0
    else if 400 < exponent + length then Binary64.unitsLimit
    else if 0 ≤ exponent then
      Binary64.nearest (digits * Nat.pow 10 exponent.natAbs * Binary64.unitsPerOne) 1
    else Binary64.nearest (digits * Binary64.unitsPerOne) (Nat.pow 10 exponent.natAbs)
  if units < Binary64.unitsLimit then some (.real (.finite ⟨negative, units⟩)) else none

/-- The exponent in `suffix`, where a plus sign may split it from its digits in `rest`. -/
def exponentFrom? (suffix rest : List Char) : Option (Int × List Char) :=
  match suffix with
  | [] => some (0, rest)
  | e :: digits =>
    if e = 'e' ∨ e = 'E' then
      let (word, rest) :=
        if digits ≠ [] then (digits, rest)
        else
          let rest := if rest.head? = some '+' then rest.tail else rest
          (rest.takeWhile isBare, rest.dropWhile isBare)
      let (negative, ds) := if digits ≠ [] then splitSign word else (false, word)
      match digitRun? 10 .start ds with
      | some (ds, []) =>
        let n : Int := Nat.ofDigitChars 10 ds 0
        some (if negative then -n else n, rest)
      | _ => none
    else none

/-- The real of a word that may have a fraction and an exponent behind it. -/
def realFrom? (word : List Char) (fraction : Option (List Char)) (rest : List Char) :
    Option (Value × List Char) := do
  let (negative, ds) := splitSign word
  let (whole, suffix) ← wholeRun? ds
  let (places, suffix) ← match fraction with
    | none => some ([], suffix)
    | some f => if suffix = [] then digitRun? 10 .start f else none
  let (exponent, rest) ← exponentFrom? suffix rest
  let value ← real? negative (Nat.ofDigitChars 10 (whole ++ places) 0) (exponent - places.length)
  return (value, rest)

/-- The number that starts with a word; what follows may belong to it. -/
def numberFrom? (word rest : List Char) : Option (Value × List Char) :=
  let plain (v : Option Value) := v.map (·, rest)
  match word with
  | '0' :: 'x' :: ds => plain (inBase? 16 ds)
  | '0' :: 'o' :: ds => plain (inBase? 8 ds)
  | '0' :: 'b' :: ds => plain (inBase? 2 ds)
  | _ =>
    if word.contains 'e' ∨ word.contains 'E' then realFrom? word none rest
    else
      match rest with
      | '.' :: more =>
        let fraction := more.takeWhile isBare
        if fraction = [] then none
        else realFrom? word (some fraction) (more.dropWhile isBare)
      | _ =>
        let (negative, name) := splitSign word
        if name = ['i', 'n', 'f'] then plain (some (.real (.infinite negative)))
        else if name = ['n', 'a', 'n'] then plain (some (.real .undefined))
        else plain (decimal? word)

/-! ### Examples -/

-- A zero in front stands alone, also before an underscore; other bases do not mind.
example : (wholeRun? ['0', '_', '1']).isNone ∧ (digitRun? 16 .start ['0', '_', '1']).isSome ∧
    (wholeRun? ['1', '_', '_', '0']).isNone ∧ (wholeRun? ['0']).isSome := by decide +kernel

end TokenCatalog.Toml
