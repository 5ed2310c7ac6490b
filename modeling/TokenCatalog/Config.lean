import TokenCatalog.Duration
import TokenCatalog.ListFormat.Basic
import TokenCatalog.Schema
import TokenCatalog.Text.Blank
import TokenCatalog.Url.Basic

namespace TokenCatalog

/-!
# Configuration — what a catalogue is made of

* `Draft` — a configuration under construction, with one function for each thing to set;
* `Draft.validate` — the finished configuration, or the first thing that is missing or wrong;
* `Config` — a finished configuration; it never changes.

A list that ships with the application has a format under its own id; a list without one has the
default format.
-/

/-- What a catalogue works with but does not provide. -/
inductive Collaborator where
  | contentStore
  | customTokenStore
  | lastRefreshTimeStore
  | privacyGuard
  deriving DecidableEq, Repr

/-- A collaborator as a message names it. -/
def Collaborator.name : Collaborator → String
  | contentStore => "content store"
  | customTokenStore => "custom token store"
  | lastRefreshTimeStore => "last refresh time store"
  | privacyGuard => "privacy guard"

/-- Every collaborator, in the order in which they are missed. -/
def Collaborator.all : List Collaborator :=
  [contentStore, customTokenStore, lastRefreshTimeStore, privacyGuard]

/-- What is wrong with a configuration. -/
inductive ConfigError where
  | missingCollaborator (c : Collaborator)
  | missingMainList
  | missingFormat (id : String)
  | noChains
  | zeroInterval
  | checkIntervalTooLong (interval check : Duration)
  | invalidManifestUrl (url reason : String)
  deriving DecidableEq, Repr

/-- The text of a configuration error. -/
def ConfigError.message : ConfigError → String
  | .missingCollaborator c => s!"missing collaborator: {c.name}"
  | .missingMainList => "main token list id is empty"
  | .missingFormat id => s!"missing parser for token list {id}"
  | .noChains => "no chains configured"
  | .zeroInterval => "auto refresh intervals must be non-zero"
  | .checkIntervalTooLong interval check =>
    s!"auto refresh check interval ({check.seconds}s) exceeds auto refresh interval " ++
      s!"({interval.seconds}s)"
  | .invalidManifestUrl url reason => s!"invalid manifest url {url}: {reason}"

/-- A finished configuration. -/
structure Config where
  mainListId : String
  /-- The bytes of the main list that ship with the application. -/
  mainList : Bytes
  /-- The other lists that ship with the application. -/
  initialLists : SortedMap String Bytes
  formats : SortedMap String ListFormat
  defaultFormat : ListFormat
  /-- Ascending. -/
  chains : List ChainId
  manifestUrl : Option String
  interval : Duration
  checkInterval : Duration
  validator : Validator
  deriving Inhabited

/-- A configuration under construction. -/
structure Draft where
  mainListId : String
  mainList : Bytes
  initialLists : SortedMap String Bytes := ∅
  formats : SortedMap String ListFormat
  defaultFormat : ListFormat := .standard
  chains : List ChainId := []
  manifestUrl : Option String := none
  interval : Duration := .ofSeconds 1800
  checkInterval : Duration := .ofSeconds 60
  httpTimeout : Duration := .ofSeconds 10
  supplied : List Collaborator := []
  validator : Validator := .structural
  deriving Inhabited

/-! ### Building -/

namespace Draft

/-- A draft with a main list, its bytes and its format. -/
def ofMainList (id : String) (raw : Bytes) (format : ListFormat) : Draft where
  mainListId := id
  mainList := raw
  formats := (∅ : SortedMap String ListFormat).insert id format

/-- Ship another list with the application. -/
def withInitialList (d : Draft) (id : String) (raw : Bytes) (format : ListFormat) : Draft :=
  { d with formats := d.formats.insert id format, initialLists := d.initialLists.insert id raw }

/-- Ship another list whose format is set separately. -/
def withInitialListBytes (d : Draft) (id : String) (raw : Bytes) : Draft :=
  { d with initialLists := d.initialLists.insert id raw }

/-- Set the format of a list. -/
def withFormat (d : Draft) (id : String) (format : ListFormat) : Draft :=
  { d with formats := d.formats.insert id format }

/-- Set the format of lists without one. -/
def withDefaultFormat (d : Draft) (format : ListFormat) : Draft := { d with defaultFormat := format }

/-- Set the chains. -/
def withChains (d : Draft) (chains : List ChainId) : Draft := { d with chains := chains }

/-- Set where the manifest is. -/
def withManifestUrl (d : Draft) (url : String) : Draft := { d with manifestUrl := some url }

/-- Set how old a refresh may become, and how often its age is checked. -/
def withAutoRefresh (d : Draft) (interval checkInterval : Duration) : Draft :=
  { d with interval := interval, checkInterval := checkInterval }

/-- Set how long a request may take. -/
def withHttpTimeout (d : Draft) (timeout : Duration) : Draft := { d with httpTimeout := timeout }

/-- Supply a collaborator. -/
def withCollaborator (d : Draft) (c : Collaborator) : Draft := { d with supplied := c :: d.supplied }

/-- Set the validator of manifests and list bodies. -/
def withValidator (d : Draft) (v : Validator) : Draft := { d with validator := v }

/-! ### Validating -/

/-- Put a chain where it belongs, once. -/
def insertChain (c : ChainId) : List ChainId → List ChainId
  | [] => [c]
  | d :: ds => if c < d then c :: d :: ds else if c = d then d :: ds else d :: insertChain c ds

/-- The chains ascending, each once. -/
def sortedChains (chains : List ChainId) : List ChainId := chains.foldr insertChain []

/-- The first of the given ids without a format. -/
def missingFormat? (d : Draft) (ids : List String) : Option String :=
  ids.find? fun id => !d.formats.contains id

/-- The manifest URL, none if it is absent or blank; the parser says what is wrong with any other. -/
def manifestUrl? (d : Draft) (problem? : String → Option String := Url.problem?) :
    Except ConfigError (Option String) :=
  match d.manifestUrl with
  | none => .ok none
  | some url =>
    if Text.isBlankText url then .ok none
    else
      match problem? url with
      | some reason => .error (.invalidManifestUrl url reason)
      | none => .ok (some url)

/-- The finished configuration, else the first thing that is missing or wrong; the parser of URLs is
    a library's. -/
def validate (d : Draft) (problem? : String → Option String := Url.problem?) :
    Except ConfigError Config := do
  if let some c := Collaborator.all.find? (!d.supplied.contains ·) then
    throw (.missingCollaborator c)
  if d.mainListId = "" then throw .missingMainList
  if let some id := d.missingFormat? (d.mainListId :: d.initialLists.keys) then
    throw (.missingFormat id)
  if d.chains = [] then throw .noChains
  if d.interval.nanoseconds = 0 ∨ d.checkInterval.nanoseconds = 0 then throw .zeroInterval
  if d.interval < d.checkInterval then
    throw (.checkIntervalTooLong d.interval d.checkInterval)
  let manifestUrl ← d.manifestUrl? problem?
  return {
    mainListId := d.mainListId, mainList := d.mainList, initialLists := d.initialLists,
    formats := d.formats, defaultFormat := d.defaultFormat, chains := sortedChains d.chains,
    manifestUrl, interval := d.interval, checkInterval := d.checkInterval,
    validator := d.validator }

end Draft

namespace Config

/-- The format of a list. -/
def formatOf (c : Config) (id : String) : ListFormat := (c.formats.get? id).getD c.defaultFormat

/-- A configuration as a diagnostic shows it. -/
def toText (c : Config) : String :=
  let quoted (ids : List String) := String.intercalate ", " (ids.map Quoted.encode)
  let chains := String.intercalate ", " (c.chains.map fun n => s!"{n.toNat}")
  let url := match c.manifestUrl with
    | some url => "Some(" ++ Quoted.encode url ++ ")"
    | none => "None"
  "ValidatedConfig \x7b main_list_id: " ++ Quoted.encode c.mainListId ++
    ", initial_lists: [" ++ quoted c.initialLists.keys ++ "], chains: [" ++ chains ++
    "], manifest_url: " ++ url ++ ", auto_refresh_interval: " ++ c.interval.toText ++
    ", auto_refresh_check_interval: " ++ c.checkInterval.toText ++ " \x7d"

end Config

end TokenCatalog
