import TokenCatalog.Proofs.Checklist
import TokenCatalog.Proofs.Config

namespace TokenCatalog

/-!
# Assembly — which sequences of settings make a configuration

A draft is made by setting one thing after the other, and of what is set twice the last counts.

* `Draft.Requirement`, `Draft.Meets`, `Draft.Lacks` — what a draft must have, in the order in which it
  is asked for, and with which error it is missed;
* `Draft.isCheckedBy_validate` — validation asks for exactly that;
* `Assembly`, `Assembly.Describes` — settings in sequence, and the draft that they come to;
* `Assembly.validation_is_exact` — **main result**: which sequences of settings make a configuration,
  which one, and which error the others end with.
-/

namespace Draft

/-! ### What a draft must have -/

/-- One thing that a draft must have. -/
inductive Requirement where
  | supplied (k : Collaborator)
  | named
  | formatted (id : String)
  | chains
  | nonzero
  | ordered
  | manifestUrl

/-- Everything that a draft must have, in the order in which it is asked for. -/
def requirements (d : Draft) : List Requirement :=
  Collaborator.all.map .supplied ++ .named ::
    ((d.mainListId :: d.initialLists.keys).map .formatted ++
      [.chains, .nonzero, .ordered, .manifestUrl])

/-- A draft has what is asked for, of a manifest URL that its parser finds nothing wrong with it. -/
def Meets (d : Draft) (problem? : String → Option String) : Requirement → Prop
  | .supplied k => k ∈ d.supplied
  | .named => d.mainListId ≠ ""
  | .formatted id => d.formats.contains id
  | .chains => d.chains ≠ []
  | .nonzero => 0 < d.interval.nanoseconds ∧ 0 < d.checkInterval.nanoseconds
  | .ordered => d.checkInterval ≤ d.interval
  | .manifestUrl => ∀ url, d.manifestUrl = some url → Text.isBlankText url ∨ problem? url = none

/-- With which error a requirement is missed. -/
def Reports (d : Draft) (problem? : String → Option String) : Requirement → ConfigError → Prop
  | .supplied k, e => e = .missingCollaborator k
  | .named, e => e = .missingMainList
  | .formatted id, e => e = .missingFormat id
  | .chains, e => e = .noChains
  | .nonzero, e => e = .zeroInterval
  | .ordered, e => e = .checkIntervalTooLong d.interval d.checkInterval
  | .manifestUrl, e => ∃ url reason, d.manifestUrl = some url ∧ problem? url = some reason ∧
      e = .invalidManifestUrl url reason

/-- A draft lacks what is asked for, which is reported with this error. -/
def Lacks (d : Draft) (problem? : String → Option String) (r : Requirement) (e : ConfigError) :
    Prop :=
  ¬ d.Meets problem? r ∧ d.Reports problem? r e

variable {d : Draft} {problem? : String → Option String} {c : Config} {r : Requirement}
  {e e' : ConfigError}

theorem Reports.unique (h : d.Reports problem? r e) (h' : d.Reports problem? r e') : e = e' := by
  cases r with
  | manifestUrl =>
    obtain ⟨url, reason, hurl, hreason, rfl⟩ := h
    obtain ⟨url', reason', hurl', hreason', rfl⟩ := h'
    obtain rfl : url = url' := by simpa [hurl] using hurl'
    obtain rfl : reason = reason' := by simpa [hreason] using hreason'
    rfl
  | _ => exact Eq.trans h (Eq.symm h')

/-- Nothing is missed without an error. -/
theorem exists_reports (h : ¬ d.Meets problem? r) : ∃ e, d.Reports problem? r e := by
  cases r with
  | manifestUrl =>
    simp only [Meets, not_forall, not_or] at h
    obtain ⟨url, hurl, -, hcheck⟩ := h
    obtain ⟨reason, hreason⟩ := Option.ne_none_iff_exists'.1 hcheck
    exact ⟨_, url, reason, hurl, hreason, rfl⟩
  | _ => exact ⟨_, rfl⟩

theorem passes_iff : Passes (d.Lacks problem?) r ↔ d.Meets problem? r :=
  passes_iff_of_reports exists_reports

/-! ### What validation asks for, step by step -/

theorem meets_supplied_of_find? (h : Collaborator.all.find? (!d.supplied.contains ·) = none) :
    ∀ r ∈ Collaborator.all.map Requirement.supplied, Passes (d.Lacks problem?) r := by
  intro r hr
  obtain ⟨k, hk, rfl⟩ := List.mem_map.1 hr
  apply passes_iff.2
  simpa [Meets] using List.find?_eq_none.1 h k hk

theorem meets_formatted_of_missingFormat? {ids : List String} (h : d.missingFormat? ids = none) :
    ∀ r ∈ ids.map Requirement.formatted, Passes (d.Lacks problem?) r := by
  intro r hr
  obtain ⟨id, hid, rfl⟩ := List.mem_map.1 hr
  apply passes_iff.2
  simpa [Meets] using List.find?_eq_none.1 h id hid

/-- The manifest URL is reported if it is refused. -/
theorem lacks_manifestUrl_iff : d.Lacks problem? .manifestUrl e ↔ d.manifestUrl? problem? = .error e := by
  unfold manifestUrl?
  cases hurl : d.manifestUrl with
  | none => simp [Lacks, Meets, Reports, hurl]
  | some url =>
    by_cases hblank : Text.isBlankText url
    · simp [Lacks, Meets, hurl, hblank]
    · cases hcheck : problem? url with
      | none => simp [Lacks, Meets, hurl, hblank, hcheck]
      | some reason => simp [Lacks, Meets, Reports, hurl, hblank, hcheck, eq_comm (a := e)]

/-- **Validation asks for these requirements, in this order.** -/
theorem isCheckedBy_validate (d : Draft) (problem? : String → Option String) :
    IsCheckedBy (d.validate problem?) (d.Lacks problem?) d.requirements where
  passes {c} h := by
    obtain ⟨hd, -⟩ := validate_eq_ok_iff.1 h
    have hurl : Passes (d.Lacks problem?) .manifestUrl := fun e hlacks => by
      have herror := lacks_manifestUrl_iff.1 hlacks
      rw [hd.manifestUrl] at herror
      cases herror
    intro r hr
    simp only [requirements, List.mem_append, List.mem_cons, List.not_mem_nil, or_false] at hr
    rcases hr with hr | rfl | hr | rfl | rfl | rfl | rfl
    · exact meets_supplied_of_find? hd.supplied r hr
    · exact passes_iff.2 hd.named
    · exact meets_formatted_of_missingFormat? hd.formats r hr
    · exact passes_iff.2 hd.chains
    · exact passes_iff.2 ⟨hd.interval_pos, hd.checkInterval_pos⟩
    · exact passes_iff.2 hd.checkInterval_le
    · exact hurl
  first {e} h := by
    unfold validate at h
    simp only [bind, Except.bind, pure, Except.pure, throw, throwThe, MonadExceptOf.throw] at h
    -- Every branch leaves what was asked for before it as met.
    split at h
    · rename_i k hk
      cases h
      apply FirstFailure.append_left
      apply FirstFailure.of_find? hk
      · intro j hj
        exact passes_iff.2 (by simpa [Meets] using hj)
      · intro hk
        exact ⟨by simpa [Meets] using hk, rfl⟩
    rename_i hsupplied
    apply FirstFailure.append (meets_supplied_of_find?
      (Option.eq_none_iff_forall_ne_some.2 fun k hk => hsupplied k hk))
    split at h
    · rename_i hunnamed
      cases h
      exact .here ⟨not_not_intro hunnamed, rfl⟩
    rename_i hnamed
    apply FirstFailure.later ((passes_iff (r := .named)).2 hnamed)
    split at h
    · rename_i id hid
      cases h
      apply FirstFailure.append_left
      apply FirstFailure.of_find? hid
      · intro j hj
        exact passes_iff.2 (by simpa [Meets] using hj)
      · intro hid
        exact ⟨by simpa [Meets] using hid, rfl⟩
    rename_i hformats
    apply FirstFailure.append (meets_formatted_of_missingFormat?
      (Option.eq_none_iff_forall_ne_some.2 fun id hid => hformats id hid))
    split at h
    · rename_i hnone
      cases h
      exact .here ⟨not_not_intro hnone, rfl⟩
    rename_i hchains
    apply FirstFailure.later ((passes_iff (r := .chains)).2 hchains)
    split at h
    · rename_i hzero
      cases h
      refine .here ⟨?_, rfl⟩
      simp only [Meets]
      omega
    rename_i hnonzero
    have hpos : d.Meets problem? .nonzero := by
      simp only [Meets]
      omega
    apply FirstFailure.later (passes_iff.2 hpos)
    split at h
    · rename_i hlong
      cases h
      exact .here ⟨Nat.not_le_of_lt hlong, rfl⟩
    rename_i hordered
    apply FirstFailure.later ((passes_iff (r := .ordered)).2 (Nat.le_of_not_lt hordered))
    split at h
    · rename_i hurl
      cases h
      exact .here (lacks_manifestUrl_iff.2 hurl)
    · cases h
  one _ _ _ h h' := h.2.unique h'.2

/-- The manifest URL of a configuration is that of its draft, unless that is blank. -/
theorem manifestUrl_of_manifestUrl? {url : Option String} (h : d.manifestUrl? problem? = .ok url) :
    url = d.manifestUrl.filter (!Text.isBlankText ·) := by
  unfold manifestUrl? at h
  cases hurl : d.manifestUrl with
  | none =>
    rw [hurl] at h
    cases h
    rfl
  | some u =>
    rw [hurl] at h
    dsimp only at h
    by_cases hblank : Text.isBlankText u
    · rw [if_pos hblank] at h
      cases h
      simp [Option.filter_some, hblank]
    · rw [if_neg hblank] at h
      split at h
      · cases h
      · cases h
        simp [Option.filter_some, hblank]

/-! ### Setting one thing after the other -/

/-- One thing that is set on a draft. -/
inductive Setting where
  | initialList (id : String) (raw : Bytes) (format : ListFormat)
  | initialListBytes (id : String) (raw : Bytes)
  | format (id : String) (format : ListFormat)
  | defaultFormat (format : ListFormat)
  | chains (chains : List ChainId)
  | manifestUrl (url : String)
  | autoRefresh (interval checkInterval : Duration)
  | httpTimeout (timeout : Duration)
  | collaborator (k : Collaborator)
  /-- The client that makes the requests; a draft does not hold it. -/
  | client
  | validator (v : Validator)

/-- Set one thing. -/
def set (d : Draft) : Setting → Draft
  | .initialList id raw format => d.withInitialList id raw format
  | .initialListBytes id raw => d.withInitialListBytes id raw
  | .format id format => d.withFormat id format
  | .defaultFormat format => d.withDefaultFormat format
  | .chains chains => d.withChains chains
  | .manifestUrl url => d.withManifestUrl url
  | .autoRefresh interval checkInterval => d.withAutoRefresh interval checkInterval
  | .httpTimeout timeout => d.withHttpTimeout timeout
  | .collaborator k => d.withCollaborator k
  | .client => d
  | .validator v => d.withValidator v

namespace Setting

/-- The bytes that are given for a list that ships with the application. -/
def raw? (id : String) : Setting → Option Bytes
  | initialList i raw _ | initialListBytes i raw => if id = i then some raw else none
  | _ => none

/-- The format that is given for a list. -/
def format? (id : String) : Setting → Option ListFormat
  | initialList i _ f | format i f => if id = i then some f else none
  | _ => none

def defaultFormat? : Setting → Option ListFormat
  | defaultFormat f => some f
  | _ => none

def chains? : Setting → Option (List ChainId)
  | chains cs => some cs
  | _ => none

def manifestUrl? : Setting → Option String
  | manifestUrl url => some url
  | _ => none

/-- The interval and the check interval that are given. -/
def intervals? : Setting → Option (Duration × Duration)
  | autoRefresh interval checkInterval => some (interval, checkInterval)
  | _ => none

def httpTimeout? : Setting → Option Duration
  | httpTimeout timeout => some timeout
  | _ => none

def validator? : Setting → Option Validator
  | validator v => some v
  | _ => none

end Setting

/-- Of what is set several times the last counts. -/
theorem get_foldl_set {α : Type} (get : Draft → Option α) (given? : Setting → Option α)
    (hset : ∀ d s, get (d.set s) = (given? s).or (get d)) (d : Draft) (ss : List Setting) :
    get (ss.foldl set d) = (ss.reverse.findSome? given?).or (get d) := by
  induction ss generalizing d with
  | nil => simp
  | cons s ss ih =>
    rw [List.foldl_cons, ih, hset, List.reverse_cons, List.findSome?_append, Option.or_assoc]
    simp

/-- A field that always has a value keeps its first one until another is set. -/
theorem field_foldl_set {α : Type} (get : Draft → α) (given? : Setting → Option α)
    (hset : ∀ d s, get (d.set s) = (given? s).getD (get d)) (d : Draft) (ss : List Setting) :
    get (ss.foldl set d) = (ss.reverse.findSome? given?).getD (get d) := by
  have hsome : ∀ d s, some (get (d.set s)) = (given? s).or (some (get d)) := fun d s => by
    rw [hset, Option.or_some]
  have hfold := get_foldl_set (fun d => some (get d)) given? hsome d ss
  simpa only [Option.or_some, Option.some.injEq] using hfold

theorem mem_supplied_foldl_set {k : Collaborator} (d : Draft) (ss : List Setting) :
    k ∈ (ss.foldl set d).supplied ↔ .collaborator k ∈ ss ∨ k ∈ d.supplied := by
  induction ss generalizing d with
  | nil => simp
  | cons s ss ih =>
    have hset : k ∈ (d.set s).supplied ↔ s = .collaborator k ∨ k ∈ d.supplied := by
      cases s <;> simp [set, withCollaborator, withInitialList, withInitialListBytes, withFormat,
        withDefaultFormat, withChains, withManifestUrl, withAutoRefresh, withHttpTimeout,
        withValidator, eq_comm]
    rw [List.foldl_cons, ih, hset, List.mem_cons]
    tauto

end Draft

/-! ### Assemblies -/

open Draft (Setting)

/-- A main list with its format, and what is set after it, in sequence. -/
structure Assembly where
  mainListId : String
  mainList : Bytes
  mainFormat : ListFormat
  settings : List Setting

namespace Assembly

variable (a : Assembly)

/-- The draft that all settings come to. -/
def draft : Draft := a.settings.foldl Draft.set (.ofMainList a.mainListId a.mainList a.mainFormat)

/-- What is given last. -/
def last? {α : Type} (given? : Setting → Option α) : Option α :=
  a.settings.reverse.findSome? given?

/-- The bytes that ship with the application under an id, beside the main list. -/
def raw? (id : String) : Option Bytes := a.last? (·.raw? id)

/-- The format that is registered last for a list; the main list has one from the beginning. -/
def format? (id : String) : Option ListFormat :=
  (a.last? (·.format? id)).or (if id = a.mainListId then some a.mainFormat else none)

/-- The format of lists without one. -/
def defaultFormat : ListFormat := (a.last? (·.defaultFormat?)).getD .standard

def chains : List ChainId := (a.last? (·.chains?)).getD []

def manifestUrl? : Option String := a.last? (·.manifestUrl?)

/-- The interval and the check interval. -/
def intervals : Duration × Duration :=
  (a.last? (·.intervals?)).getD (.ofSeconds 1800, .ofSeconds 60)

def httpTimeout : Duration := (a.last? (·.httpTimeout?)).getD (.ofSeconds 10)

def validator : Validator := (a.last? (·.validator?)).getD .structural

/-- A draft has what was set last, and what it begins with where nothing was set. -/
structure Describes (d : Draft) : Prop where
  mainListId : d.mainListId = a.mainListId
  mainList : d.mainList = a.mainList
  initialIds : Enumerates d.initialLists.keys fun id => (a.raw? id).isSome
  initialLists : ∀ id, d.initialLists.get? id = a.raw? id
  formats : ∀ id, d.formats.get? id = a.format? id
  defaultFormat : d.defaultFormat = a.defaultFormat
  chains : d.chains = a.chains
  manifestUrl : d.manifestUrl = a.manifestUrl?
  intervals : (d.interval, d.checkInterval) = a.intervals
  httpTimeout : d.httpTimeout = a.httpTimeout
  supplied : ∀ k, k ∈ d.supplied ↔ .collaborator k ∈ a.settings
  validator : d.validator = a.validator

/-- The configuration of a sequence of settings. -/
structure Makes (c : Config) : Prop where
  mainListId : c.mainListId = a.mainListId
  mainList : c.mainList = a.mainList
  initialLists : ∀ id, c.initialLists.get? id = a.raw? id
  formatOf : ∀ id, c.formatOf id = (a.format? id).getD a.defaultFormat
  chains : Enumerates c.chains (· ∈ a.chains)
  manifestUrl : c.manifestUrl = a.manifestUrl?.filter (!Text.isBlankText ·)
  intervals : (c.interval, c.checkInterval) = a.intervals
  validator : c.validator = a.validator

theorem initialLists_draft (id : String) : a.draft.initialLists.get? id = a.raw? id := by
  have hset : ∀ (d : Draft) (s : Setting),
      (d.set s).initialLists.get? id = (s.raw? id).or (d.initialLists.get? id) := by
    intro d s
    cases s with
    | initialList i raw f =>
      by_cases h : id = i <;>
        simp [Draft.set, Draft.withInitialList, Setting.raw?, SortedMap.get?_insert, h]
    | initialListBytes i raw =>
      by_cases h : id = i <;>
        simp [Draft.set, Draft.withInitialListBytes, Setting.raw?, SortedMap.get?_insert, h]
    | _ => rfl
  have hfold := Draft.get_foldl_set (·.initialLists.get? id) (·.raw? id) hset
    (.ofMainList a.mainListId a.mainList a.mainFormat) a.settings
  exact hfold.trans Option.or_none

theorem formats_draft (id : String) : a.draft.formats.get? id = a.format? id := by
  have hset : ∀ (d : Draft) (s : Setting),
      (d.set s).formats.get? id = (s.format? id).or (d.formats.get? id) := by
    intro d s
    cases s with
    | initialList i raw f =>
      by_cases h : id = i <;>
        simp [Draft.set, Draft.withInitialList, Setting.format?, SortedMap.get?_insert, h]
    | format i f =>
      by_cases h : id = i <;>
        simp [Draft.set, Draft.withFormat, Setting.format?, SortedMap.get?_insert, h]
    | _ => rfl
  have hfold := Draft.get_foldl_set (·.formats.get? id) (·.format? id) hset
    (.ofMainList a.mainListId a.mainList a.mainFormat) a.settings
  refine hfold.trans ?_
  rw [format?, Draft.ofMainList, SortedMap.get?_insert, SortedMap.get?_empty]
  rfl

/-- **The draft has what was set last.** -/
theorem describes_draft : a.Describes a.draft := by
  have hfield : ∀ {α : Type} (get : Draft → α) (given? : Setting → Option α),
      (∀ d s, get (d.set s) = (given? s).getD (get d)) → get a.draft =
        (a.last? given?).getD (get (.ofMainList a.mainListId a.mainList a.mainFormat)) :=
    fun get given? hset => Draft.field_foldl_set get given? hset _ a.settings
  have hnever : ∀ {α : Type} (x : α), (a.last? fun _ => none).getD x = x := fun x => by
    rw [last?, List.findSome?_eq_none_iff.2 fun _ _ => rfl]
    rfl
  -- Each field is what the last setting that names it gives, and what the main list gave before.
  constructor
  · exact (hfield (·.mainListId) (fun _ => none) (by rintro d ⟨⟩ <;> rfl)).trans (hnever _)
  · exact (hfield (·.mainList) (fun _ => none) (by rintro d ⟨⟩ <;> rfl)).trans (hnever _)
  · have hids := a.draft.initialLists.enumerates_keys
    simpa only [SortedMap.contains, initialLists_draft] using hids
  · exact a.initialLists_draft
  · exact a.formats_draft
  · exact hfield (·.defaultFormat) (·.defaultFormat?) (by rintro d ⟨⟩ <;> rfl)
  · exact hfield (·.chains) (·.chains?) (by rintro d ⟨⟩ <;> rfl)
  · have hurl := Draft.get_foldl_set (·.manifestUrl) (·.manifestUrl?) (by rintro d ⟨⟩ <;> rfl)
      (.ofMainList a.mainListId a.mainList a.mainFormat) a.settings
    exact hurl.trans Option.or_none
  · exact hfield (fun d => (d.interval, d.checkInterval)) (·.intervals?)
      (by rintro d ⟨⟩ <;> rfl)
  · exact hfield (·.httpTimeout) (·.httpTimeout?) (by rintro d ⟨⟩ <;> rfl)
  · intro k
    rw [draft, Draft.mem_supplied_foldl_set]
    simp [Draft.ofMainList]
  · exact hfield (·.validator) (·.validator?) (by rintro d ⟨⟩ <;> rfl)

/-- What is valid becomes the configuration that the settings describe. -/
theorem makes_of_validate {problem? : String → Option String} {c : Config}
    (h : a.draft.validate problem? = .ok c) : a.Makes c := by
  have hd := a.describes_draft
  have hc := Draft.eq_of_validate h
  have hurl := Draft.manifestUrl_of_manifestUrl? (Draft.manifestUrl?_of_validate h)
  rw [hd.manifestUrl] at hurl
  constructor
  · rw [hc, hd.mainListId]
  · rw [hc, hd.mainList]
  · rw [hc]
    exact hd.initialLists
  · intro id
    rw [hc, Config.formatOf, hd.formats, hd.defaultFormat]
  · rw [hc, ← hd.chains]
    exact Draft.enumerates_sortedChains a.draft.chains
  · exact hurl
  · rw [hc, ← hd.intervals]
  · rw [hc, hd.validator]

/-! ### The main result -/

/-- **Validation is exact.**  The draft of a sequence of settings has what was set last.  Whatever the
    parser of URLs finds wrong with which of them, the draft is valid exactly if it has everything
    that is asked for, and else the error is that of the first thing that it lacks; the configuration
    that it becomes is the one that the settings describe. -/
theorem validation_is_exact (problem? : String → Option String) :
    a.Describes a.draft ∧
    ((∃ c, a.draft.validate problem? = .ok c) ↔
      ∀ r ∈ a.draft.requirements, a.draft.Meets problem? r) ∧
    (∀ e, a.draft.validate problem? = .error e ↔
      FirstFailure (a.draft.Lacks problem?) a.draft.requirements e) ∧
    ∀ c, a.draft.validate problem? = .ok c → a.Makes c := by
  have hchecked := Draft.isCheckedBy_validate a.draft problem?
  refine ⟨a.describes_draft, ?_, fun e => hchecked.error_iff, fun c hc => a.makes_of_validate hc⟩
  rw [hchecked.exists_ok_iff]
  simp only [Draft.passes_iff]

-- Of two lists without a format the first by id is reported, and no chains are reported later only.
example : (draft ⟨"main", [], .standard, Collaborator.all.map .collaborator ++
    [.initialListBytes "b" [], .initialListBytes "a" []]⟩).validate =
      .error (.missingFormat "a") := by rfl

end Assembly

end TokenCatalog
