import TokenCatalog.Proofs.CustomToken
import TokenCatalog.Proofs.SortedMap
import Mathlib.Data.List.Induction

namespace TokenCatalog

/-!
# Collections of custom tokens — what is left of a sequence of edits

A collection has one record for every place, and places are made of texts; keys are made of
addresses.  On records with an address both tell the same tokens apart.

* `CustomTokens.Edit`, `CustomTokens.after` — records added and taken out, one after the other;
* `CustomTokens.get?_perform`, `CustomTokens.get?_after` — what one edit changes, and what is left
  after all of them;
* `CustomTokens.Kept` — a record was added, and nothing has happened at its place since;
* `CustomTokens.Holds`, `CustomTokens.holds_after` — the records that are left, their order, and
  their keys.
-/

namespace CustomToken

/-- One place comes before another one: by chain, then by address in lowercase. -/
def Place.Before (p q : Place) : Prop :=
  p.chainId < q.chainId ∨ p.chainId = q.chainId ∧ p.address < q.address

theorem Place.before_of_order {p q : Place} (h : Place.order p q = .lt) : p.Before q := by
  rcases Ordering.then_eq_lt.1 h with hchain | ⟨hchain, haddress⟩
  · exact .inl (compareOfLessAndEq_eq_lt.1 hchain)
  · exact .inr ⟨Std.LawfulEqOrd.eq_of_compare hchain, compareOfLessAndEq_eq_lt.1 haddress⟩

/-- Records of one address on one chain have one place, in whichever way the address is spelled. -/
theorem place_eq_of_spelledBy {r q : CustomToken} {a : Address} (hchain : r.chainId = q.chainId)
    (hr : a.SpelledBy r.address) (hq : a.SpelledBy q.address) : r.place = q.place := by
  rw [place, place, Place.ofAddress, Place.ofAddress, hr.lower_eq, hq.lower_eq, hchain]

end CustomToken

namespace CustomTokens

open CustomToken (Place)

/-! ### Edits -/

/-- One change of a collection. -/
inductive Edit where
  | add (r : CustomToken)
  | remove (chain : ChainId) (address : String)

namespace Edit

/-- The place that is changed. -/
def place : Edit → Place
  | add r => r.place
  | remove chain address => .ofAddress chain address

/-- What is there afterwards. -/
def given? : Edit → Option CustomToken
  | add r => some r
  | remove _ _ => none

theorem given?_eq_some_iff {e : Edit} {r : CustomToken} : e.given? = some r ↔ e = .add r := by
  cases e <;> simp [given?]

end Edit

/-- Make one change. -/
def perform (ts : CustomTokens) : Edit → CustomTokens
  | .add r => ts.add r
  | .remove chain address => ts.remove chain address

/-- The collection that a sequence of changes makes. -/
def after (edits : List Edit) : CustomTokens := edits.foldl perform {}

/-- A record was added, and nothing has happened at its place since. -/
def Kept (edits : List Edit) (r : CustomToken) : Prop :=
  ∃ earlier later, edits = earlier ++ .add r :: later ∧ ∀ e ∈ later, e.place ≠ r.place

variable {edits : List Edit} {e : Edit} {p : Place} {r q : CustomToken}

/-- An edit changes its place and no other one. -/
theorem get?_perform (ts : CustomTokens) (e : Edit) (p : Place) :
    (ts.perform e).byPlace.get? p = if p = e.place then e.given? else ts.byPlace.get? p := by
  cases e with
  | add r => exact SortedMap.get?_insert ts.byPlace r.place p r
  | remove chain address => exact SortedMap.get?_erase ts.byPlace (.ofAddress chain address) p

/-- A record is kept if the last edit adds it, or if it was kept before and the last edit is made
    elsewhere. -/
theorem kept_concat_iff :
    Kept (edits ++ [e]) r ↔ e = .add r ∨ e.place ≠ r.place ∧ Kept edits r := by
  constructor
  · rintro ⟨earlier, later, heq, hlater⟩
    -- Either the edit that adds the record is the last one, or one of those before.
    rcases List.eq_nil_or_concat later with rfl | ⟨later, last, rfl⟩
    · exact .inl (List.singleton_inj.1 (List.append_inj' heq rfl).2)
    · have hsplit : edits ++ [e] = (earlier ++ .add r :: later) ++ [last] := by simpa using heq
      obtain ⟨rfl, hlast⟩ := List.append_inj' hsplit rfl
      obtain rfl := List.singleton_inj.1 hlast
      exact .inr ⟨hlater e (by simp), earlier, later, rfl, fun e' he' => hlater e' (by simp [he'])⟩
  · rintro (rfl | ⟨hplace, earlier, later, rfl, hlater⟩)
    · exact ⟨edits, [], rfl, by simp⟩
    · refine ⟨earlier, later ++ [e], by simp, fun e' he' => ?_⟩
      rcases List.mem_append.1 he' with he' | he'
      · exact hlater e' he'
      · rw [List.mem_singleton.1 he']
        exact hplace

/-- **What is at a place** after a sequence of edits is the record that is kept of them there. -/
theorem get?_after (edits : List Edit) (p : Place) (r : CustomToken) :
    (after edits).byPlace.get? p = some r ↔ Kept edits r ∧ r.place = p := by
  -- From the end: only the last edit of a place counts.
  induction edits using List.reverseRec with
  | nil =>
    constructor
    · intro h
      cases h
    · rintro ⟨⟨earlier, later, heq, -⟩, -⟩
      simp at heq
  | append_singleton edits e ih =>
    have hlast : after (edits ++ [e]) = (after edits).perform e := by
      rw [after, List.foldl_append]
      rfl
    rw [hlast, get?_perform, kept_concat_iff]
    by_cases hp : p = e.place
    · rw [if_pos hp, Edit.given?_eq_some_iff]
      constructor
      · rintro rfl
        exact ⟨.inl rfl, hp.symm⟩
      · rintro ⟨rfl | ⟨hplace, -⟩, hr⟩
        · rfl
        · exact absurd (hp.symm.trans hr.symm) hplace
    · rw [if_neg hp, ih]
      constructor
      · rintro ⟨hkept, rfl⟩
        exact ⟨.inr ⟨Ne.symm hp, hkept⟩, rfl⟩
      · rintro ⟨rfl | ⟨-, hkept⟩, hr⟩
        · exact absurd hr.symm hp
        · exact ⟨hkept, hr⟩

/-! ### What is left -/

/-- Every record stands at its own place. -/
theorem mem_entries_after : (p, r) ∈ (after edits).byPlace.entries ↔ Kept edits r ∧ r.place = p := by
  rw [← get?_after]
  exact ⟨SortedMap.get?_of_mem, SortedMap.mem_of_get?⟩

theorem mem_all_after : r ∈ (after edits).all ↔ Kept edits r := by
  simp [all, SortedMap.values, mem_entries_after]

/-- Of the records at one place one is left. -/
theorem Kept.unique (hr : Kept edits r) (hq : Kept edits q) (h : r.place = q.place) : r = q := by
  have hat := (get?_after edits q.place r).2 ⟨hr, h⟩
  rw [(get?_after edits q.place q).2 ⟨hq, rfl⟩] at hat
  exact (Option.some.inj hat).symm

/-- The records that are left after a sequence of edits. -/
structure Holds (edits : List Edit) (rs : List CustomToken) : Prop where
  mem_iff : ∀ r, r ∈ rs ↔ Kept edits r
  ascending : rs.Pairwise fun r q => r.place.Before q.place
  /-- Records with an address have keys of their own. -/
  apart : ∀ r ∈ rs, ∀ q ∈ rs, ∀ a b : Address, a.SpelledBy r.address → b.SpelledBy q.address →
    Key.encode r.chainId a = Key.encode q.chainId b → r = q

/-- **What is left** are the records that were added last and not taken out since. -/
theorem holds_after (edits : List Edit) : Holds edits (after edits).all where
  mem_iff _ := mem_all_after
  ascending := by
    refine List.pairwise_map.2 ((after edits).byPlace.ascending.imp_of_mem ?_)
    rintro ⟨p, r⟩ ⟨p', q⟩ hr hq hlt
    obtain ⟨-, rfl⟩ := mem_entries_after.1 hr
    obtain ⟨-, rfl⟩ := mem_entries_after.1 hq
    exact Place.before_of_order hlt
  apart r hr q hq a b ha hb hkey := by
    obtain ⟨hchain, rfl⟩ := Key.encode_inj hkey
    exact (mem_all_after.1 hr).unique (mem_all_after.1 hq)
      (CustomToken.place_eq_of_spelledBy hchain ha hb)

-- The case of its digits does not make an address another one.
example : (after [.add ⟨1, "0xaB", "Old", "OLD", 6, "", ""⟩,
    .add ⟨1, "0xAb", "New", "NEW", 18, "", ""⟩]).all.map (·.symbol) = ["NEW"] := by decide +kernel

end CustomTokens

end TokenCatalog
