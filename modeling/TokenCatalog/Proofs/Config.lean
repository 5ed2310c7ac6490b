import TokenCatalog.Config
import TokenCatalog.Proofs.SortedMap

namespace TokenCatalog.Draft

/-!
# Configurations that pass validation

* `enumerates_sortedChains` — the chains of a configuration are those of its draft, ascending and
  each once;
* `eq_of_validate` — apart from that and the manifest URL, a configuration is its draft;
* `eq_of_validate_withChains` — drafts that differ in their chains become configurations that do;
* `validate_eq_ok_iff` — a draft is valid exactly if it is `Complete`;
* `validate_withAutoRefresh` — whatever the intervals, if the check interval is the shorter one.
-/

/-! ### Chains -/

theorem mem_insertChain {c x : ChainId} {cs : List ChainId} :
    x ∈ insertChain c cs ↔ x = c ∨ x ∈ cs := by
  fun_induction insertChain c cs with
  | case1 => simp
  | case2 => simp
  | case3 d ds => simp
  | case4 d ds h hne ih => simp [ih, or_left_comm]

theorem ascending_insertChain {c : ChainId} {cs : List ChainId} (h : cs.Pairwise (· < ·)) :
    (insertChain c cs).Pairwise (· < ·) := by
  fun_induction insertChain c cs with
  | case1 => exact List.pairwise_singleton _ _
  | case2 d ds hlt =>
    refine List.pairwise_cons.2 ⟨fun x hx => ?_, h⟩
    rcases List.mem_cons.1 hx with rfl | hx
    · exact hlt
    · exact UInt64.lt_trans hlt (List.rel_of_pairwise_cons h hx)
  | case3 d ds => exact h
  | case4 d ds hlt hne ih =>
    refine List.pairwise_cons.2 ⟨fun x hx => ?_, ih h.of_cons⟩
    rcases mem_insertChain.1 hx with rfl | hx
    · exact UInt64.lt_of_le_of_ne (UInt64.not_lt.1 hlt) (Ne.symm hne)
    · exact List.rel_of_pairwise_cons h hx

/-- The chains ascending, each once. -/
theorem enumerates_sortedChains (cs : List ChainId) : Enumerates (sortedChains cs) (· ∈ cs) := by
  induction cs with
  | nil => exact ⟨.nil, fun _ => Iff.rfl⟩
  | cons c cs ih =>
    refine ⟨ascending_insertChain ih.ascending, fun x => ?_⟩
    rw [sortedChains, List.foldr_cons, mem_insertChain, List.mem_cons]
    exact or_congr_right (ih.mem_iff x)

/-! ### The whole configuration -/

variable {problem? : String → Option String}

/-- What a draft becomes: only its chains are put in order, and a blank manifest URL counts as
    absent. -/
theorem eq_of_validate {d : Draft} {c : Config} (h : d.validate problem? = .ok c) :
    c = {
      mainListId := d.mainListId, mainList := d.mainList, initialLists := d.initialLists,
      formats := d.formats, defaultFormat := d.defaultFormat,
      chains := sortedChains d.chains, manifestUrl := c.manifestUrl, interval := d.interval,
      checkInterval := d.checkInterval, validator := d.validator } := by
  unfold validate at h
  simp only [bind, Except.bind, pure, Except.pure, throw, throwThe, MonadExceptOf.throw] at h
  -- Every branch but the last one throws.
  repeat' split at h
  all_goals cases h
  rfl

/-- The manifest URL of a configuration is the one that its draft comes to. -/
theorem manifestUrl?_of_validate {d : Draft} {c : Config} (h : d.validate problem? = .ok c) :
    d.manifestUrl? problem? = .ok c.manifestUrl := by
  unfold validate at h
  simp only [bind, Except.bind, pure, Except.pure, throw, throwThe, MonadExceptOf.throw] at h
  repeat' split at h
  all_goals cases h
  assumption

/-- Drafts that differ in nothing but their chains become configurations that do so, too. -/
theorem eq_of_validate_withChains {d : Draft} {a b : List ChainId} {cA cB : Config}
    (hA : (d.withChains a).validate = .ok cA) (hB : (d.withChains b).validate = .ok cB) :
    cA = { cB with chains := cA.chains } := by
  have hsame : (d.withChains a).manifestUrl? = (d.withChains b).manifestUrl? := rfl
  rw [manifestUrl?_of_validate hA, manifestUrl?_of_validate hB] at hsame
  rw [eq_of_validate hA, eq_of_validate hB, Except.ok.inj hsame]
  rfl

/-! ### What validation asks for -/

/-- A draft that lacks nothing, with the manifest URL that it comes to. -/
structure Complete (d : Draft) (problem? : String → Option String) (url : Option String) :
    Prop where
  supplied : Collaborator.all.find? (!d.supplied.contains ·) = none
  named : d.mainListId ≠ ""
  formats : d.missingFormat? (d.mainListId :: d.initialLists.keys) = none
  chains : d.chains ≠ []
  interval_pos : 0 < d.interval.nanoseconds
  checkInterval_pos : 0 < d.checkInterval.nanoseconds
  checkInterval_le : d.checkInterval ≤ d.interval
  manifestUrl : d.manifestUrl? problem? = .ok url

/-- The configuration that a complete draft becomes. -/
def finished (d : Draft) (url : Option String) : Config where
  mainListId := d.mainListId
  mainList := d.mainList
  initialLists := d.initialLists
  formats := d.formats
  defaultFormat := d.defaultFormat
  chains := sortedChains d.chains
  manifestUrl := url
  interval := d.interval
  checkInterval := d.checkInterval
  validator := d.validator

/-- **A draft is valid exactly if it is complete.** -/
theorem validate_eq_ok_iff {d : Draft} {c : Config} :
    d.validate problem? = .ok c ↔
      d.Complete problem? c.manifestUrl ∧ c = d.finished c.manifestUrl := by
  constructor
  · intro h
    refine ⟨?_, eq_of_validate h⟩
    -- The checks in the order in which they are made; each one that is passed is one condition.
    unfold validate at h
    simp only [bind, Except.bind, pure, Except.pure, throw, throwThe, MonadExceptOf.throw] at h
    split at h
    · cases h
    rename_i hsupplied
    split at h
    · cases h
    rename_i hnamed
    split at h
    · cases h
    rename_i hformats
    split at h
    · cases h
    rename_i hchains
    split at h
    · cases h
    rename_i hzero
    split at h
    · cases h
    rename_i hlong
    split at h
    · cases h
    rename_i hurl
    cases h
    obtain ⟨hinterval, hcheck⟩ := not_or.1 hzero
    exact ⟨Option.eq_none_iff_forall_ne_some.2 fun k hk => hsupplied k hk, hnamed,
      Option.eq_none_iff_forall_ne_some.2 fun id hid => hformats id hid, hchains,
      Nat.pos_of_ne_zero hinterval, Nat.pos_of_ne_zero hcheck, Nat.le_of_not_lt hlong, hurl⟩
  · rintro ⟨h, hc⟩
    have hzero : ¬ (d.interval.nanoseconds = 0 ∨ d.checkInterval.nanoseconds = 0) :=
      not_or.2 ⟨Nat.ne_of_gt h.interval_pos, Nat.ne_of_gt h.checkInterval_pos⟩
    have hlong : ¬ d.interval < d.checkInterval := Nat.not_lt_of_le h.checkInterval_le
    rw [hc]
    simp only [validate, bind, Except.bind, pure, Except.pure, h.supplied, if_neg h.named,
      h.formats, if_neg h.chains, if_neg hzero, if_neg hlong, h.manifestUrl]
    rfl

/-! ### Intervals -/

/-- Validation bounds the intervals by each other and from below, and not from above. -/
theorem validate_withAutoRefresh {d : Draft} {c : Config} (h : d.validate = .ok c)
    {interval check : Duration} (hpos : 0 < check.nanoseconds) (hle : check ≤ interval) :
    (d.withAutoRefresh interval check).validate =
      .ok { c with interval := interval, checkInterval := check } := by
  obtain ⟨hd, hc⟩ := validate_eq_ok_iff.1 h
  refine validate_eq_ok_iff.2 ⟨?_, ?_⟩
  · exact { hd with
      interval_pos := Nat.lt_of_lt_of_le hpos hle, checkInterval_pos := hpos,
      checkInterval_le := hle }
  · rw [hc]
    rfl

end TokenCatalog.Draft
