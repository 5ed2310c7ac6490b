import TokenCatalog.Url.Domain

namespace TokenCatalog.Url

/-!
# URLs — which texts are absolute URLs

A text is read as a browser reads it: surrounding blanks and all tabs and line breaks are dropped, a
backslash counts as a slash behind the common schemes, and only the scheme, the host and the port
can be wrong.

* `check` — none, or the first thing that is wrong;
* `Error.message` — its text.
-/

/-- What is wrong with a URL. -/
inductive Error where
  | emptyHost
  | invalidDomain
  | invalidPort
  | invalidIpv4
  | invalidIpv6
  | invalidHostCharacter
  | noScheme
  deriving DecidableEq, Repr

/-- The text of an error. -/
def Error.message : Error → String
  | .emptyHost => "empty host"
  | .invalidDomain => "invalid international domain name"
  | .invalidPort => "invalid port number"
  | .invalidIpv4 => "invalid IPv4 address"
  | .invalidIpv6 => "invalid IPv6 address"
  | .invalidHostCharacter => "invalid domain character"
  | .noScheme => "relative URL without a base"

/-- How the rest of a URL is read. -/
inductive Scheme where
  | file
  /-- One of the schemes of the web. -/
  | web
  | other
  deriving DecidableEq, Repr

/-- Drop surrounding controls and spaces, and every tab and line break. -/
def clean (cs : List Char) : List Char :=
  let outer := ((cs.dropWhile (·.toNat ≤ 0x20)).reverse.dropWhile (·.toNat ≤ 0x20)).reverse
  outer.filter fun c => c ≠ '\t' && c ≠ '\n' && c ≠ '\r'

/-- The scheme before the first colon, in lowercase, and what is behind the colon. -/
def splitScheme? (cs : List Char) : Option (List Char × List Char) :=
  let name := cs.takeWhile (· ≠ ':')
  let isPart (c : Char) := c.isAlphanum || c == '+' || c == '-' || c == '.'
  if name.length < cs.length ∧ (name.head?.any Char.isAlpha) ∧ name.all isPart then
    some (name.map Char.toLower, cs.drop (name.length + 1))
  else none

/-- How a URL of the scheme of that name is read. -/
def Scheme.ofName (name : List Char) : Scheme :=
  let name := String.ofList name
  if name = "file" then .file
  else if ["http", "https", "ws", "wss", "ftp"].contains name then .web
  else .other

/-- A slash, or a backslash where it counts as one. -/
def isSlash (s : Scheme) (c : Char) : Bool := c == '/' || (c == '\\' && s ≠ .other)

/-- A character that ends the authority. -/
def endsAuthority (s : Scheme) (c : Char) : Bool := isSlash s c || c == '?' || c == '#'

/-- The host in front, which a colon ends outside brackets, and what is behind it. -/
def splitHost (inBrackets : Bool) : List Char → List Char × List Char
  | [] => ([], [])
  | c :: cs =>
    if c = ':' ∧ !inBrackets then ([], c :: cs)
    else
      let within := if c = '[' then true else if c = ']' then false else inBrackets
      let (host, rest) := splitHost within cs
      (c :: host, rest)

/-- Whether a host in brackets is an IPv6 address. -/
def checkBrackets (inner : List Char) : Option Error :=
  match inner.reverse with
  | ']' :: rest => if isIpv6 rest.reverse then none else some .invalidIpv6
  | _ => some .invalidIpv6

/-- What is wrong with a host behind a known scheme. -/
def checkDomain (host : List Char) : Option Error :=
  match host with
  | '[' :: inner => checkBrackets inner
  | _ =>
    match domain? host with
    | none => some .invalidDomain
    | some [] => some .emptyHost
    | some domain => if endsInNumber domain && !isIpv4 domain then some .invalidIpv4 else none

/-- What is wrong with a host behind an unknown scheme. -/
def checkOpaque (host : List Char) : Option Error :=
  match host with
  | '[' :: inner => checkBrackets inner
  | _ =>
    let isInvalid (c : Char) :=
      ['\x00', '\t', '\n', '\r', ' ', '#', '/', ':', '<', '>', '?', '@', '[', '\\', ']', '^',
        '|'].contains c
    if host.any isInvalid then some .invalidHostCharacter else none

/-- What is wrong with a port, which a backslash ends too. -/
def checkPort (text : List Char) : Option Error :=
  let port := text.takeWhile (· ≠ '\\')
  if port.all Char.isDigit ∧ Nat.ofDigitChars 10 port 0 ≤ 65535 then none else some .invalidPort

/-- The user in front of the last `@`, if there is one, and what is behind it. -/
def splitUser (authority : List Char) : Option (List Char) × List Char :=
  let host := (authority.reverse.takeWhile (· ≠ '@')).reverse
  if host.length < authority.length then
    (some (authority.take (authority.length - host.length - 1)), host)
  else (none, authority)

/-- Whether a user has a name or a password. -/
def namesUser (user : Option (List Char)) : Bool :=
  match user with
  | none => false
  | some cs => cs ≠ [] && cs ≠ [':']

/-- What is wrong with what stands between the slashes and the path. -/
def checkAuthority (s : Scheme) (cs : List Char) : Option Error :=
  let authority := cs.takeWhile fun c => !endsAuthority s c
  let rest := cs.drop authority.length
  let (user, place) := splitUser authority
  let (host, port) := splitHost false place
  if user = some [] ∧ place = [] ∧ rest ≠ [] then some .emptyHost
  else if host = [] ∧ s = .web then some .emptyHost
  else
    -- The host is judged before the port, and a user without a host last.
    (if s = .web then checkDomain host else checkOpaque host).or <|
      if host = [] ∧ port ≠ [] then some .emptyHost
      else (checkPort (port.drop 1)).or (if host = [] ∧ namesUser user then some .emptyHost else none)

/-- Whether a text is a drive letter. -/
def isDriveLetter : List Char → Bool
  | [c, d] => c.isAlpha && (d == ':' || d == '|')
  | _ => false

/-- What is wrong behind `file:`. -/
def checkFile : List Char → Option Error
  | c :: d :: rest =>
    if isSlash .file c && isSlash .file d then
      let host := rest.takeWhile fun c => !endsAuthority .file c
      if host = [] ∨ isDriveLetter host then none else checkDomain host
    else none
  | _ => none

/-- The first thing that is wrong with a URL. -/
def check (url : String) : Option Error :=
  match splitScheme? (clean url.toList) with
  | none => some .noScheme
  | some (name, rest) =>
    match Scheme.ofName name with
    | .file => checkFile rest
    | .web => checkAuthority .web (rest.dropWhile (isSlash .web))
    | .other =>
      match rest with
      | '/' :: '/' :: rest => checkAuthority .other rest
      | _ => none

/-- What is wrong with a URL, in words. -/
def problem? (url : String) : Option String := (check url).map Error.message

/-! ### Examples -/

-- Only the scheme, the host and the port can be wrong.
example : check "https://example.org:443/a b?y#z" = none ∧ check "http://x:99999" = some .invalidPort ∧
    check "http://[::1" = some .invalidIpv6 ∧ check "example.org/x" = some .noScheme := by
  decide +kernel

end TokenCatalog.Url
