import TokenCatalog.Json.Document

namespace TokenCatalog.Json

open Ascii Reader

/-!
# Lexemes — what reading and skipping them have in common

* `wordFrom_eq_ok_iff` — a word is taken if it stands in front;
* `numeralFrom_ok` — whoever reads a numeral takes the same bytes;
* `spelled?`, `text_eq_ok_iff` — a string is read if it can be skipped and spells a text.
-/

/-! ### Words and numerals -/

/-- A word is taken if it stands in front. -/
theorem wordFrom_eq_ok_iff {w s r : Bytes} {a : Unit} :
    wordFrom w s = .ok (a, r) ↔ s = w ++ r := by
  fun_induction wordFrom w s with
  | case1 s => simp [eq_comm]
  | case2 => simp
  | case3 w ws s ih => simp [ih]
  | case4 w ws b s hne =>
    simp only [reduceCtorEq, List.cons_append, List.cons.injEq, false_iff, not_and]
    exact fun h => absurd h.symm hne

/-- Digits that are read are read whatever fault their absence would be. -/
theorem digitsFrom_ok {e e' : Fault} {s : Bytes} {p : List Char × Bytes}
    (h : digitsFrom e s = .ok p) : digitsFrom e' s = .ok p := by
  unfold digitsFrom at h ⊢
  split at h
  · cases h
  · cases h
  · exact h

/-- A whole part that is read is read whatever fault its absence would be. -/
theorem wholeFrom_ok {e e' : Fault} {s : Bytes} {p : List Char × Bytes}
    (h : wholeFrom e s = .ok p) : wholeFrom e' s = .ok p := by
  unfold wholeFrom at h ⊢
  split at h
  · cases h
  · rename_i hd
    rw [digitsFrom_ok hd]
    exact h

/-- A fraction that is read is read whatever fault its absence would be. -/
theorem fractionFrom_ok {e e' : Fault} {s : Bytes} {p : List Char × Bytes}
    (h : fractionFrom e s = .ok p) : fractionFrom e' s = .ok p := by
  unfold fractionFrom at h ⊢
  split at h
  · split at h
    · rw [if_pos ‹_›]
      exact digitsFrom_ok h
    · rw [if_neg ‹_›]
      exact h
  · exact h

/-- An exponent that is read is read whatever fault its absence would be. -/
theorem exponentFrom_ok {e e' : Fault} {s : Bytes} {p : Option Int × Bytes}
    (h : exponentFrom e s = .ok p) : exponentFrom e' s = .ok p := by
  unfold exponentFrom at h ⊢
  split at h
  · split at h
    · rw [if_pos ‹_›]
      split at h
      · cases h
      · rename_i hd
        rw [digitsFrom_ok hd]
        exact h
    · rw [if_neg ‹_›]
      exact h
  · exact h

/-- Whoever reads a numeral takes the same bytes; only the fault of an input that ends is
    another. -/
theorem numeralFrom_ok {e e' : Fault} {s : Bytes} {p : Numeral × Bytes}
    (h : numeralFrom e s = .ok p) : numeralFrom e' s = .ok p := by
  unfold numeralFrom at h ⊢
  -- The numeral is read part by part, and a fault comes from the first that fails.
  simp only [bind, Except.bind] at h ⊢
  split at h
  · cases h
  rename_i hw
  rw [wholeFrom_ok hw]
  dsimp only
  split at h
  · cases h
  rename_i hf
  rw [fractionFrom_ok hf]
  dsimp only
  split at h
  · cases h
  rename_i he
  rw [exponentFrom_ok he]
  exact h

/-! ### Strings -/

/-- The text that the rest of a string spells behind its opening quote, if it spells one. -/
def spelled? (s : Bytes) : Option String := (text.run s).toOption.map (·.1)

/-- Skipping goes on after an escape that is skipped. -/
theorem skipBodyFrom_backslash {s t : Bytes} (h : skipEscapeFrom s = .ok ((), t)) :
    skipBodyFrom (backslash :: s) = skipBodyFrom t := by
  rw [skipBodyFrom, if_neg (by decide), if_pos rfl]
  split
  · rename_i he
    cases h.symm.trans he
  · rename_i he
    cases h.symm.trans he
    rfl

/-- An escape by code point is skipped once its four digits are there. -/
theorem skipEscapeFrom_hex {s t : Bytes} {n : Nat} (h : fourHexFrom s = .ok (n, t)) :
    skipEscapeFrom (byte 'u' :: s) = .ok ((), t) := by
  have hsimple : simpleEscape? (byte 'u') = none := by decide
  simp only [skipEscapeFrom, hsimple, if_pos, h]

/-- The trailing surrogate is an escape of its own. -/
theorem skipBodyFrom_lowSurrogate {s t : Bytes} {n : Nat} (h : lowSurrogateFrom s = .ok (n, t)) :
    skipBodyFrom s = skipBodyFrom t := by
  unfold lowSurrogateFrom at h
  split at h
  · cases h
  rename_i m r hhex
  -- A second escape has to follow, with four digits of its own.
  split at h
  · cases h
    unfold escapedHexFrom at hhex
    split at hhex
    · cases hhex
    split at hhex
    · cases hhex
    rename_i hbackslash
    split at hhex
    · cases hhex
    split at hhex
    · cases hhex
    rename_i hu
    rw [Decidable.not_not.1 hbackslash, Decidable.not_not.1 hu]
    exact skipBodyFrom_backslash (skipEscapeFrom_hex hhex)
  · cases h

/-- Where an escape is read, skipping comes to the same place: it takes the surrogates of a pair one
    after the other. -/
theorem skipBodyFrom_escape {s t : Bytes} {c : Char} (h : escapeFrom s = .ok (c, t)) :
    skipBodyFrom (backslash :: s) = skipBodyFrom t := by
  unfold escapeFrom at h
  split at h
  · cases h
  split at h
  · rename_i hsimple
    cases h
    exact skipBodyFrom_backslash (by simp only [skipEscapeFrom, hsimple])
  -- What is no simple escape is a code point, perhaps with a second half.
  split at h
  · rename_i hu
    subst hu
    unfold unicodeFrom at h
    split at h
    · cases h
    rename_i hhex
    rw [skipBodyFrom_backslash (skipEscapeFrom_hex hhex)]
    split at h
    · cases h
    split at h
    · split at h
      · cases h
      · rename_i hlow
        obtain ⟨-, rfl⟩ := Prod.mk.inj (Except.ok.inj h)
        exact skipBodyFrom_lowSurrogate hlow
    · cases h
      rfl
  · cases h

/-- A string that is read can be skipped, and ends where it was read to. -/
theorem skipBodyFrom_of_bodyFrom {s bs r : Bytes} (h : bodyFrom s = .ok (bs, r)) :
    skipBodyFrom s = .ok ((), r) := by
  fun_induction bodyFrom s generalizing bs r with
  | case2 =>
    cases h
    rw [skipBodyFrom, if_pos rfl]
  | case5 _ _ _ he _ _ hrec _ ih =>
    cases h
    rw [skipBodyFrom_escape he]
    exact ih hrec
  | case8 b _ hquote hbackslash hspace _ _ hrec ih =>
    cases h
    rw [skipBodyFrom, if_neg hquote, if_neg hbackslash, if_neg hspace]
    exact ih hrec
  | _ => cases h

/-- **A string is read if it can be skipped and spells a text**, and then both take the same
    bytes. -/
theorem text_eq_ok_iff {s r : Bytes} {x : String} :
    text.run s = .ok (x, r) ↔ skipBodyFrom s = .ok ((), r) ∧ spelled? s = some x := by
  -- Reading ends where skipping does, so only what is spelled is in question.
  have hskips : ∀ {y t}, text.run s = .ok (y, t) → skipBodyFrom s = .ok ((), t) := by
    intro y t h
    rw [text, run_bind] at h
    split at h
    · rename_i hbody
      split at h
      · cases h
        exact skipBodyFrom_of_bodyFrom hbody
      · cases h
    · cases h
  constructor
  · intro h
    refine ⟨hskips h, ?_⟩
    rw [spelled?, h]
    rfl
  · rintro ⟨hskip, hspells⟩
    cases hread : text.run s with
    | error e =>
      rw [spelled?, hread] at hspells
      cases hspells
    | ok p =>
      obtain ⟨y, t⟩ := p
      rw [spelled?, hread] at hspells
      cases hspells
      cases hskip.symm.trans (hskips hread)
      rfl

end TokenCatalog.Json
