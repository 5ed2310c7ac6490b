import TokenCatalog.Chain
import TokenCatalog.Config
import TokenCatalog.Json.Document
import TokenCatalog.Settings.Path
import TokenCatalog.Toml.Document

namespace TokenCatalog

/-!
# Settings — what an operator may tune, from a file and the environment

* `Settings` — the chains, the manifest, the intervals and the platforms of a CoinGecko dump;
* `fileFor?` — the file of a folder that is read where a name is looked for;
* `Settings.ofFile` — the settings in a file; a file that is absent says nothing;
* `Settings.override` — variables of the environment that replace them one by one;
* `Settings.load` — both, in that order;
* `Settings.apply` — the settings put into a draft of a configuration.
-/

/-- What an operator may tune. -/
structure Settings where
  chains : List ChainId := Chain.defaultChains
  manifestUrl : Option String := none
  /-- In seconds, like the two below. -/
  interval : UInt64 := 1800
  checkInterval : UInt64 := 60
  httpTimeout : UInt64 := 10
  platforms : ListFormat.CoinGecko.Platforms := Chain.defaultPlatforms
  deriving Inhabited

namespace Settings

/-- Why a file holds no settings. -/
inductive Unusable where
  /-- It is not a document of its format. -/
  | notADocument
  /-- A setting has a value of the wrong type. -/
  | wrongType
  deriving DecidableEq, Repr

/-! ### Files -/

/-- A named file. -/
structure File where
  name : String
  bytes : Bytes

/-- Where settings are looked for if no file is named. -/
def defaultFileName : String := "TokenLists.toml"

/-- The extensions of the formats that settings are read in. -/
def knownExtensions : List String := ["toml", "json"]

/-- The file of a folder that is read where a name is looked for: the one of that name, else one with
    the extension of a format behind it. -/
def fileFor? (name : String) (folder : List File) : Option File :=
  (folder.find? (·.name = name)).or
    (folder.find? fun f => knownExtensions.any fun e => f.name = name ++ "." ++ e)

/-- What stands behind the last point of a file's name; a point in front does not count. -/
def File.extension (f : File) : String :=
  let cs := f.name.toList
  let after := (cs.reverse.takeWhile (· ≠ '.')).reverse
  if after.length + 1 < cs.length then String.ofList after else ""

/-- The fields of a file, in the format that its extension names; a file of no known format, or one
    that is not text, says nothing, and neither does a document that is no object. -/
def File.fields (f : File) : Except Unusable (List (String × Value)) :=
  match f.extension, Bytes.text? f.bytes with
  | "toml", some text =>
    match Toml.parse? text with
    | some fields => .ok fields
    | none => .error .notADocument
  | "json", some _ =>
    match (Json.parse f.bytes).map Json.canonical with
    | .ok (.object fields) => .ok (Value.ofJsonFields fields)
    | .ok _ => .ok []
    | .error _ => .error .notADocument
  | _, _ => .ok []

/-- A setting, with a default where the file does not name it. -/
def settingOr {α : Type} (fields : List (String × Value)) (key : String) (default : α)
    (read : Value → Option α) : Option α :=
  match field? fields key with
  | none => some default
  | some v => read v

/-- A text that may be absent. -/
def optionalText? : Value → Option (Option String)
  | .absent => some none
  | v => v.text?.map some

/-- Chains by platform name. -/
def platforms? : Value → Option ListFormat.CoinGecko.Platforms
  | .table fields => do
    let entries ← fields.mapM fun ((k, v) : String × Value) => v.natural?.map fun c => (k, c)
    return .ofList entries
  | _ => none

/-- The settings that a file's fields name; fields of other names are ignored. -/
def ofFields? (fields : List (String × Value)) : Option Settings := do
  let d : Settings := {}
  return {
    chains := ← settingOr fields "chains" d.chains Value.naturals?,
    manifestUrl := ← settingOr fields "manifest_url" d.manifestUrl optionalText?,
    interval := ← settingOr fields "auto_refresh_interval_secs" d.interval Value.natural?,
    checkInterval :=
      ← settingOr fields "auto_refresh_check_interval_secs" d.checkInterval Value.natural?,
    httpTimeout := ← settingOr fields "http_timeout_secs" d.httpTimeout Value.natural?,
    platforms := ← settingOr fields "platform_chains" d.platforms platforms? }

/-- The settings in a file, if there is one. -/
def ofFile (file : Option File) : Except Unusable Settings := do
  let fields ← match file with
    | some f => f.fields
    | none => .ok []
  match ofFields? (settle fields) with
  | some s => .ok s
  | none => .error .wrongType

/-! ### Environment -/

/-- Variables by name. -/
abbrev Environment := SortedMap String String

/-- The chains in a text, where what is no numeral between commas is left out. -/
def chainsIn (s : String) : List ChainId :=
  (Text.split (· == ',') s.toList).filterMap fun piece => Numeral.naturalOfChars? (Text.trimChars piece)

/-- A number of seconds in the environment, else the one given. -/
def secondsOr (env : Environment) (name : String) (secs : UInt64) : UInt64 :=
  ((env.get? name).bind fun s => Numeral.natural? (Text.trim s)).getD secs

/-- The chains of the environment, if it names one, else those given. -/
def chainsOr (env : Environment) (chains : List ChainId) : List ChainId :=
  match env.get? "TOKEN_LISTS_CHAINS" with
  -- A variable without a single numeral is as good as none.
  | some s => if chainsIn s = [] then chains else chainsIn s
  | none => chains

/-- The manifest URL of the environment, where a blank one means none, else the one given. -/
def manifestUrlOr (env : Environment) (url : Option String) : Option String :=
  match env.get? "TOKEN_LISTS_MANIFEST_URL" with
  | some s => if Text.isBlankText s then none else some (Text.trim s)
  | none => url

/-- Replace what the environment names; platforms stay. -/
def override (s : Settings) (env : Environment) : Settings where
  chains := chainsOr env s.chains
  manifestUrl := manifestUrlOr env s.manifestUrl
  interval := secondsOr env "TOKEN_LISTS_AUTO_REFRESH_INTERVAL_SECS" s.interval
  checkInterval := secondsOr env "TOKEN_LISTS_AUTO_REFRESH_CHECK_INTERVAL_SECS" s.checkInterval
  httpTimeout := secondsOr env "TOKEN_LISTS_HTTP_TIMEOUT_SECS" s.httpTimeout
  platforms := s.platforms

/-- The settings in the file of a folder under a name, with what the environment replaces. -/
def load (name : String) (folder : List File) (env : Environment) : Except Unusable Settings :=
  (ofFile (fileFor? name folder)).map (·.override env)

/-! ### Use -/

/-- The format of a CoinGecko dump under these platforms. -/
def coinGeckoFormat (s : Settings) : ListFormat := .coinGecko s.platforms

/-- Put the settings into a draft; a manifest URL replaces the draft's. -/
def apply (s : Settings) (d : Draft) : Draft :=
  let d := ((d.withChains s.chains).withAutoRefresh (.ofSeconds s.interval.toNat)
    (.ofSeconds s.checkInterval.toNat)).withHttpTimeout (.ofSeconds s.httpTimeout.toNat)
  match s.manifestUrl with
  | some url => d.withManifestUrl url
  | none => d

/-! ### Examples -/

-- A name may be looked for without its extension.
example : ((fileFor? "a.toml" [⟨"a.json", []⟩, ⟨"a.toml.json", []⟩]).map (·.name)) =
    some "a.toml.json" := by decide +kernel

-- A name that is nothing but an extension has none.
example : (⟨"a.b.toml", []⟩ : File).extension = "toml" ∧ (⟨".toml", []⟩ : File).extension = "" := by
  decide +kernel

end Settings

end TokenCatalog
