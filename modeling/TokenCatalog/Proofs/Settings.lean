import TokenCatalog.Proofs.Assembly
import TokenCatalog.Proofs.Text
import TokenCatalog.Settings.Basic

namespace TokenCatalog

/-!
# Settings — which of several layers decides

A setting comes from the environment, else from the file; the draft that settings are put into keeps
what they say nothing about.

* `Settings.seconds?`, `Settings.chains?`, `Settings.manifestUrl?` — what the environment names;
* `Settings.override_eq` — what the environment names counts before the file, setting by setting;
* `Settings.apply_eq` — what settings replace in a draft;
* `Settings.layers_decide` — **main result**: the configuration that all layers make.
-/

namespace Settings

/-- The number of seconds that a variable of the environment names. -/
def seconds? (env : Environment) (name : String) : Option UInt64 :=
  (env.get? name).bind fun s => Numeral.natural? (Text.trim s)

/-- The chains that the environment names, if there is a numeral among them. -/
def chains? (env : Environment) : Option (List ChainId) :=
  ((env.get? "TOKEN_LISTS_CHAINS").map chainsIn).filter (· ≠ [])

/-- The manifest URL that the environment names, where a blank one means that there is none. -/
def manifestUrl? (env : Environment) : Option (Option String) :=
  (env.get? "TOKEN_LISTS_MANIFEST_URL").map fun s => (some (Text.trim s)).filter (· ≠ "")

variable {s : Settings} {env : Environment} {d : Draft} {c : Config}

theorem chainsOr_eq (env : Environment) (chains : List ChainId) :
    chainsOr env chains = (chains? env).getD chains := by
  rw [chainsOr, chains?]
  cases env.get? "TOKEN_LISTS_CHAINS" with
  | none => rfl
  | some text => by_cases h : chainsIn text = [] <;> simp [Option.filter_some, h]

theorem manifestUrlOr_eq (env : Environment) (url : Option String) :
    manifestUrlOr env url = (manifestUrl? env).getD url := by
  rw [manifestUrlOr, manifestUrl?]
  cases env.get? "TOKEN_LISTS_MANIFEST_URL" with
  | none => rfl
  | some text =>
    by_cases h : Text.isBlankText text <;>
      simp [Option.filter_some, Text.trim_eq_empty_iff, h]

/-- Every setting is that of the environment, if it names one; platforms never are. -/
theorem override_eq (s : Settings) (env : Environment) : s.override env = {
    chains := (chains? env).getD s.chains
    manifestUrl := (manifestUrl? env).getD s.manifestUrl
    interval := (seconds? env "TOKEN_LISTS_AUTO_REFRESH_INTERVAL_SECS").getD s.interval
    checkInterval :=
      (seconds? env "TOKEN_LISTS_AUTO_REFRESH_CHECK_INTERVAL_SECS").getD s.checkInterval
    httpTimeout := (seconds? env "TOKEN_LISTS_HTTP_TIMEOUT_SECS").getD s.httpTimeout
    platforms := s.platforms } := by
  rw [override, chainsOr_eq, manifestUrlOr_eq]
  rfl

/-- Settings replace what they have: always the chains and the durations, and a manifest URL. -/
theorem apply_eq (s : Settings) (d : Draft) : s.apply d = { d with
    chains := s.chains
    manifestUrl := s.manifestUrl.or d.manifestUrl
    interval := .ofSeconds s.interval.toNat
    checkInterval := .ofSeconds s.checkInterval.toNat
    httpTimeout := .ofSeconds s.httpTimeout.toNat } := by
  unfold apply
  cases hurl : s.manifestUrl <;> rfl

/-- **The layers decide one after the other.**  The chains and the durations of a configuration are
    those of the settings after the environment, and so is its manifest URL if they have one; else it
    is that of the draft.  A blank one counts as none.  Nothing else comes from the settings. -/
theorem layers_decide (h : ((s.override env).apply d).validate = .ok c) :
    Enumerates c.chains (· ∈ (chains? env).getD s.chains) ∧
    c.manifestUrl = (((manifestUrl? env).getD s.manifestUrl).or d.manifestUrl).filter
      (!Text.isBlankText ·) ∧
    c.interval = .ofSeconds ((seconds? env "TOKEN_LISTS_AUTO_REFRESH_INTERVAL_SECS").getD
      s.interval).toNat ∧
    c.checkInterval = .ofSeconds ((seconds? env "TOKEN_LISTS_AUTO_REFRESH_CHECK_INTERVAL_SECS").getD
      s.checkInterval).toNat ∧
    (c.mainListId, c.mainList, c.validator) = (d.mainListId, d.mainList, d.validator) ∧
    c.initialLists = d.initialLists ∧
    ∀ id, c.formatOf id = (d.formats.get? id).getD d.defaultFormat := by
  have hurl := Draft.manifestUrl_of_manifestUrl? (Draft.manifestUrl?_of_validate h)
  have hc := Draft.eq_of_validate h
  rw [apply_eq, override_eq] at hurl hc
  refine ⟨?_, hurl, ?_, ?_, ?_, ?_, ?_⟩
  · rw [hc]
    exact Draft.enumerates_sortedChains _
  all_goals
    rw [hc]
  · intro id
    rfl

-- Settings without a manifest URL do not take a draft's away, and a blank variable is no exception.
example : ((({} : Settings).override (.ofList [("TOKEN_LISTS_MANIFEST_URL", " ")])).apply
    ((Draft.ofMainList "main" [] .standard).withManifestUrl "https://lists.example/m")).manifestUrl =
      some "https://lists.example/m" := by decide +kernel

end Settings

end TokenCatalog
