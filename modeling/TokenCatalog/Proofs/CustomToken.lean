import TokenCatalog.CustomToken
import TokenCatalog.Proofs.Checklist
import TokenCatalog.Proofs.Text
import Mathlib.Logic.Basic

namespace TokenCatalog.CustomToken

/-!
# Custom tokens — which records are acceptable

* `isLogoUri_iff` — what a logo may be;
* `validate_eq_ok_iff` — a record is acceptable if its chain, address, symbol, decimals and logo are,
  and its token says what the record says, marked as custom;
* `Requirement`, `Meets`, `Lacks` — what a record must have, in the order in which it is asked for;
* `isCheckedBy_validate` — validation asks for exactly that;
* `Acceptable`, `Becomes`, `validate_eq_ok_iff_becomes` — acceptable records and their tokens.
-/

theorem isLogoUri_iff {uri : String} :
    isLogoUri uri ↔ uri = "" ∨ ∃ scheme ∈ logoSchemes, scheme.toList <+: uri.toList := by
  rw [isLogoUri, Bool.or_eq_true, beq_iff_eq, List.any_eq_true]
  simp only [List.isPrefixOf_iff_prefix]

/-- A record is acceptable if every part of it is; its token says what it says. -/
theorem validate_eq_ok_iff {r : CustomToken} {chains : List ChainId} {t : Token} :
    r.validate chains = .ok t ↔
      r.chainId ∈ chains ∧ ¬ Text.isBlankText r.symbol ∧ r.decimals ≤ maxDecimals ∧
        isLogoUri r.logoUri ∧ ∃ a, Address.parse? r.address = some a ∧
          t = { crossChainId := r.crossChainId, chainId := r.chainId, address := a,
                decimals := r.decimals.toUInt8, name := r.name, symbol := r.symbol,
                logoUri := r.logoUri, custom := true } := by
  rw [validate]
  -- Whatever check fails, one of the conditions does.
  by_cases hchain : r.chainId ∈ chains
  · rw [if_neg (by simpa using hchain)]
    cases Address.parse? r.address with
    | none => simp
    | some a =>
      by_cases hsymbol : Text.isBlankText r.symbol
      · simp [hsymbol]
      · by_cases hdecimals : maxDecimals < r.decimals
        · simp [hsymbol, hdecimals, UInt32.not_le.2 hdecimals]
        · by_cases hlogo : isLogoUri r.logoUri
          · simp [hchain, hsymbol, hdecimals, hlogo, UInt32.not_lt.1 hdecimals, eq_comm]
          · simp [hsymbol, hdecimals, hlogo]
  · rw [if_pos (by simpa using hchain)]
    simp [hchain]

/-! ### What a record must have -/

/-- One thing that a record must have. -/
inductive Requirement where
  | chain
  | address
  | symbol
  | decimals
  | logo

/-- Everything that a record must have, in the order in which it is asked for. -/
def requirements : List Requirement := [.chain, .address, .symbol, .decimals, .logo]

/-- A record has what is asked for. -/
def Meets (r : CustomToken) (chains : List ChainId) : Requirement → Prop
  | .chain => r.chainId ∈ chains
  | .address => Address.isHexText r.address
  | .symbol => ∃ c ∈ r.symbol.toList, ¬ Text.isBlank c
  | .decimals => r.decimals.toNat ≤ 18
  | .logo => r.logoUri = "" ∨
      ∃ scheme ∈ ["data:", "ipfs://", "http://", "https://"], scheme.toList <+: r.logoUri.toList

/-- The objection to a record that misses a requirement. -/
def objection (r : CustomToken) : Requirement → Objection
  | .chain => .unsupportedChain r.chainId
  | .address => .invalidAddress r.address
  | .symbol => .emptySymbol
  | .decimals => .tooManyDecimals r.decimals
  | .logo => .invalidLogoUri r.logoUri

/-- A record lacks what is asked for, to which this is the objection. -/
def Lacks (r : CustomToken) (chains : List ChainId) (q : Requirement) (e : Objection) : Prop :=
  ¬ r.Meets chains q ∧ e = r.objection q

/-- A record has everything that is asked for. -/
def Acceptable (r : CustomToken) (chains : List ChainId) : Prop :=
  ∀ q ∈ requirements, r.Meets chains q

variable {r : CustomToken} {chains : List ChainId} {q : Requirement} {t : Token}

theorem passes_iff : Passes (r.Lacks chains) q ↔ r.Meets chains q :=
  passes_iff_of_reports fun _ => ⟨_, rfl⟩

theorem meets_symbol_iff : r.Meets chains .symbol ↔ ¬ Text.isBlankText r.symbol := by
  simp [Meets, Text.isBlankText]

theorem meets_decimals_iff : r.Meets chains .decimals ↔ r.decimals ≤ maxDecimals :=
  (UInt32.le_iff_toNat_le (a := r.decimals) (b := maxDecimals)).symm

theorem meets_logo_iff : r.Meets chains .logo ↔ isLogoUri r.logoUri :=
  isLogoUri_iff.symm

theorem meets_address_iff : r.Meets chains .address ↔ ∃ a, Address.parse? r.address = some a := by
  simp only [Address.parse?_eq_some_iff]
  exact Address.exists_spelledBy_iff.symm

instance (r : CustomToken) (chains : List ChainId) : DecidablePred (r.Meets chains)
  | .chain => inferInstanceAs (Decidable (r.chainId ∈ chains))
  | .address => inferInstanceAs (Decidable (Address.isHexText r.address = true))
  | .symbol => decidable_of_iff (¬ Text.isBlankText r.symbol) meets_symbol_iff.symm
  | .decimals => inferInstanceAs (Decidable (r.decimals.toNat ≤ 18))
  | .logo => decidable_of_iff (isLogoUri r.logoUri) meets_logo_iff.symm

instance (r : CustomToken) (chains : List ChainId) : Decidable (r.Acceptable chains) :=
  List.decidableBAll (r.Meets chains) requirements

theorem acceptable_iff : r.Acceptable chains ↔ r.Meets chains .chain ∧ r.Meets chains .address ∧
    r.Meets chains .symbol ∧ r.Meets chains .decimals ∧ r.Meets chains .logo := by
  simp [Acceptable, requirements]

/-- **Validation asks for exactly the requirements.** -/
theorem isCheckedBy_validate (r : CustomToken) (chains : List ChainId) :
    IsCheckedBy (r.validate chains) (r.Lacks chains) requirements where
  passes {t} h := by
    obtain ⟨hchain, hsymbol, hdecimals, hlogo, a, ha, -⟩ := validate_eq_ok_iff.1 h
    have hall : r.Acceptable chains := acceptable_iff.2 ⟨hchain, meets_address_iff.2 ⟨a, ha⟩,
      meets_symbol_iff.2 hsymbol, meets_decimals_iff.2 hdecimals, meets_logo_iff.2 hlogo⟩
    intro q hq
    exact passes_iff.2 (hall q hq)
  first {e} h := by
    unfold validate at h
    -- Every branch leaves what was asked for before it as met.
    by_cases hchain : r.Meets chains .chain
    · rw [if_neg (by simpa [Meets] using hchain)] at h
      apply FirstFailure.later (passes_iff.2 hchain)
      split at h
      · rename_i hnone
        cases h
        refine .here ⟨fun haddress => ?_, rfl⟩
        obtain ⟨a, ha⟩ := meets_address_iff.1 haddress
        rw [hnone] at ha
        cases ha
      rename_i a ha
      apply FirstFailure.later (passes_iff.2 (meets_address_iff.2 ⟨a, ha⟩))
      split at h
      · rename_i hblank
        cases h
        exact .here ⟨fun hsymbol => meets_symbol_iff.1 hsymbol hblank, rfl⟩
      rename_i hsymbol
      apply FirstFailure.later (passes_iff.2 (meets_symbol_iff.2 hsymbol))
      split at h
      · rename_i hmany
        cases h
        exact .here ⟨fun hfew => UInt32.not_le.2 hmany (meets_decimals_iff.1 hfew), rfl⟩
      rename_i hdecimals
      apply FirstFailure.later (passes_iff.2 (meets_decimals_iff.2 (UInt32.not_lt.1 hdecimals)))
      split at h
      · rename_i hscheme
        cases h
        refine .here ⟨fun hlogo => ?_, rfl⟩
        simp [meets_logo_iff.1 hlogo] at hscheme
      · cases h
    · rw [if_pos (by simpa [Meets] using hchain)] at h
      cases h
      exact .here ⟨hchain, rfl⟩
  one _ _ _ h h' := h.2.trans h'.2.symm

/-! ### The token of a record -/

/-- A record and the token that it becomes: the same address in bytes, the same number of decimals
    in fewer bits, and everything else as it was entered. -/
structure Becomes (r : CustomToken) (t : Token) : Prop where
  chainId : t.chainId = r.chainId
  address : t.address.SpelledBy r.address
  decimals : t.decimals.toNat = r.decimals.toNat
  name : t.name = r.name
  symbol : t.symbol = r.symbol
  logoUri : t.logoUri = r.logoUri
  crossChainId : t.crossChainId = r.crossChainId
  custom : t.custom = true

/-- Few decimals are not cut. -/
theorem toNat_toUInt8_decimals (h : r.decimals ≤ maxDecimals) :
    r.decimals.toUInt8.toNat = r.decimals.toNat := by
  have hle : r.decimals.toNat ≤ 18 := UInt32.le_iff_toNat_le.1 h
  rw [UInt32.toNat_toUInt8]
  omega

/-- An acceptable record has one token, and no other record has any. -/
theorem validate_eq_ok_iff_becomes :
    r.validate chains = .ok t ↔ r.Acceptable chains ∧ r.Becomes t := by
  rw [validate_eq_ok_iff, acceptable_iff, meets_symbol_iff, meets_decimals_iff, meets_logo_iff,
    meets_address_iff]
  constructor
  · rintro ⟨hchain, hsymbol, hdecimals, hlogo, a, ha, rfl⟩
    refine ⟨⟨hchain, ⟨a, ha⟩, hsymbol, hdecimals, hlogo⟩, ?_⟩
    exact ⟨rfl, Address.parse?_eq_some_iff.1 ha, toNat_toUInt8_decimals hdecimals,
      rfl, rfl, rfl, rfl, rfl⟩
  · rintro ⟨⟨hchain, -, hsymbol, hdecimals, hlogo⟩, h⟩
    refine ⟨hchain, hsymbol, hdecimals, hlogo, t.address,
      Address.parse?_eq_some_iff.2 h.address, ?_⟩
    have hcut : t.decimals = r.decimals.toUInt8 :=
      UInt8.toNat_inj.1 (h.decimals.trans (toNat_toUInt8_decimals hdecimals).symm)
    rw [← hcut, ← h.chainId, ← h.name, ← h.symbol, ← h.logoUri, ← h.crossChainId, ← h.custom]

end TokenCatalog.CustomToken
