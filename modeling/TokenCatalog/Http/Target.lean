import TokenCatalog.Text.Bytes
import TokenCatalog.Url.Basic

namespace TokenCatalog.Http

/-!
# Targets — what a request names on a host, and where a redirection leads

* `Target.text` — a target as it is sent, with everything else than plain characters escaped;
* `Target.ofSuffix?` — the target of a URL, from what stands behind its port;
* `Link.follow` — where a reference leads that is met at a target.

A reference is resolved as a browser does: a backslash is a slash, `.` and `..` are steps, and a
fragment is never sent.
-/

/-- The path, by segments, and the query of a URL. -/
structure Target where
  path : List (List Char)
  query : Option (List Char) := none
  deriving DecidableEq, Repr

/-! ### Escapes -/

/-- A byte behind a percent sign, with uppercase digits. -/
def escape (b : UInt8) : List Char := '%' :: (Hex.encode [b]).map Char.toUpper

/-- The bytes of a text, each escaped if it is no printable ASCII character or one of `special`. -/
def escapeAll (special : List Char) (cs : List Char) : List Char :=
  (Bytes.ofText (String.ofList cs)).flatMap fun b =>
    let c := Ascii.char b
    if b ≤ Ascii.space ∨ 0x7F ≤ b ∨ c ∈ special then escape b else [c]

/-- A target as it is sent. -/
def Target.text (t : Target) : String :=
  let segment := escapeAll ['"', '<', '>', '`', '#', '?', '{', '}']
  let path := '/' :: ['/'].intercalate (t.path.map segment)
  let query := match t.query with
    | some q => '?' :: escapeAll ['"', '<', '>', '#', '\''] q
    | none => []
  String.ofList (path ++ query)

/-! ### Resolution -/

/-- The dots that a segment spells, plain or escaped; none for any other segment. -/
def dots? : List Char → Option Nat
  | [] => some 0
  | '.' :: rest => (dots? rest).map (· + 1)
  | '%' :: '2' :: 'e' :: rest => (dots? rest).map (· + 1)
  | '%' :: '2' :: 'E' :: rest => (dots? rest).map (· + 1)
  | _ => none

/-- Walk down from the directory `at` by segments; a last step `.` or `..` names a directory. -/
def walk (directory : List (List Char)) : List (List Char) → List (List Char)
  | [] => directory
  | s :: rest =>
    let further (d : List (List Char)) := if rest = [] then d ++ [[]] else walk d rest
    match dots? s with
    | some 1 => further directory
    | some 2 => further directory.dropLast
    | _ => walk (directory ++ [s]) rest

/-- The segments of a path; a backslash is a slash. -/
def segments (cs : List Char) : List (List Char) :=
  Text.split (· == '/') (cs.map fun c => if c = '\\' then '/' else c)

/-- Where a reference without a host leads, met at `origin`. -/
def Target.resolve (origin : Target) (reference : List Char) : Target :=
  let cs := reference.takeWhile (· ≠ '#')
  let path := cs.takeWhile (· ≠ '?')
  let query := if path.length < cs.length then some (cs.drop (path.length + 1)) else none
  match path with
  | [] => { path := origin.path, query := query.or (if cs = [] then origin.query else none) }
  | c :: rest =>
    if Url.isSlash .web c then { path := walk [] (segments rest), query }
    else { path := walk origin.path.dropLast (segments path), query }

/-- The root of a host. -/
def Target.root : Target := { path := [[]] }

/-- The target of a URL, from the text behind its port; none if that text would change the port. -/
def Target.ofSuffix? (text : String) : Option Target :=
  let cs := (Url.clean ('0' :: text.toList)).drop 1
  if cs.head?.all (Url.endsAuthority .web) then some (Target.root.resolve cs) else none

/-- Where a reference leads. -/
inductive Link where
  | here (target : Target)
  /-- To another host. -/
  | elsewhere
  /-- Nowhere, as it cannot be read. -/
  | broken
  deriving DecidableEq, Repr

/-- Where a reference leads that is met at `origin`. -/
def Link.follow (origin : Target) (reference : String) : Link :=
  let away (url : String) : Link := if (Url.check url).isNone then .elsewhere else .broken
  let ofRest (url : String) (rest : List Char) : Link :=
    if 2 ≤ (rest.takeWhile (Url.isSlash .web)).length then away url
    else .here (origin.resolve rest)
  let cs := Url.clean reference.toList
  match Url.splitScheme? cs with
  | none => ofRest ("http:" ++ String.ofList cs) cs
  | some (name, rest) =>
    if name = "http".toList then ofRest (String.ofList cs) rest else away (String.ofList cs)

/-! ### Examples -/

-- A step back, a character beyond ASCII, a step on the spot, a blank and a fragment.
example : (Target.ofSuffix? "/a/b").map (fun t => (t.resolve "../é/./x y?q#f".toList).text) =
    some "/%C3%A9/x%20y?q" := by decide +kernel

end TokenCatalog.Http
