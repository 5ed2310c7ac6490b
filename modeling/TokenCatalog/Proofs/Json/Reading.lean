import TokenCatalog.Json.Record
import TokenCatalog.Proofs.Json.Grammar

namespace TokenCatalog.Json

open Ascii Reader

/-!
# Reading — what a reader of a known type accepts

A reader takes a value from the front of some bytes exactly if the grammar finds one there that has
a meaning of its type.

* `Outline.text?`, `Outline.unsigned?`, `Outline.list?`, `Outline.dictionary?` — these meanings;
* `Reader.Means` — a reader takes the values that have a meaning;
* `Reader.means_string` … `Reader.means_dictionary` — each reader with its meaning;
* `Reader.Means.decode_eq_ok_iff` — and so with whole documents.
-/

/-! ### What values mean -/

namespace Outline

/-- The text of a string. -/
def text? : Outline → Option String
  | .string s => s
  | _ => none

/-- The value of an unsigned integer below a limit. -/
def unsigned? (limit : Nat) : Outline → Option Nat
  | .number (some (.natural n)) => if n.toNat < limit then some n.toNat else none
  | _ => none

/-- An unsigned integer of 64 bits. -/
def uint64? (o : Outline) : Option UInt64 := (o.unsigned? UInt64.size).map UInt64.ofNat

/-- An unsigned integer of 32 bits. -/
def uint32? (o : Outline) : Option UInt32 := (o.unsigned? UInt32.size).map UInt32.ofNat

/-- An unsigned integer of 8 bits. -/
def uint8? (o : Outline) : Option UInt8 := (o.unsigned? UInt8.size).map UInt8.ofNat

/-- A truth value. -/
def bool? : Outline → Option Bool
  | .bool b => some b
  | _ => none

/-- A value, where null stands for none. -/
def optional? {α : Type} (f : Outline → Option α) : Outline → Option (Option α)
  | .null => some none
  | o => (f o).map some

/-- What is not null is read as if it had to be there. -/
theorem optional?_eq {α : Type} {f : Outline → Option α} {o : Outline} (h : o ≠ .null) :
    optional? f o = (f o).map some := by
  cases o with
  | null => exact absurd rfl h
  | bool | number | string | sequence | map => rfl

/-- The values of a sequence. -/
def list? {α : Type} (f : Nat → Outline → Option α) : Nat → Outline → Option (List α)
  | d + 1, .sequence os => os.mapM (f d)
  | _, _ => none

/-- A member with the text of its key. -/
def pair? {α : Type} (f : Outline → Option α) (m : Option String × Outline) :
    Option (String × α) := do
  return (← m.1, ← f m.2)

/-- The values of a map; of several with one key the last one counts. -/
def dictionary? {α : Type} (f : Nat → Outline → Option α) :
    Nat → Outline → Option (SortedMap String α)
  | d + 1, .map ms => (ms.mapM (pair? (f d))).map SortedMap.ofList
  | _, _ => none

end Outline

namespace Reader

variable {α β σ : Type} {s t r : Bytes} {a : α}

/-- A reader takes the values that mean something to it. -/
def Means (x : Reader α) (f : Outline → Option α) : Prop :=
  ∀ {s a r}, x.run s = .ok (a, r) ↔ ∃ o, Spelling s o r ∧ f o = some a

/-- What a reader reads, by what its text spells. -/
theorem Means.iff {x : Reader α} {f : Outline → Option α} (h : x.Means f) {s : Bytes} {a : α}
    {r : Bytes} : x.run s = .ok (a, r) ↔ ∃ o, Spelling s o r ∧ f o = some a := h

/-- A reader of members takes those that mean something to it. -/
def MeansMember (x : Reader α) (f : Option String × Outline → Option α) : Prop :=
  ∀ {s a r}, x.run s = .ok (a, r) ↔ ∃ m, Member s m r ∧ f m = some a

/-! ### Stepping -/

/-- Whoever looks ahead needs a byte to look at. -/
theorem run_peek_eq_ok_iff {f : Option UInt8 → Reader α} (hnone : f none = fail .truncated) :
    (peek >>= f).run s = .ok (a, r) ↔
      ∃ b t, s.dropWhile isBlank = b :: t ∧ (f (some b)).run (b :: t) = .ok (a, r) := by
  have hrun : (peek >>= f).run s = (f (s.dropWhile isBlank).head?).run (s.dropWhile isBlank) := rfl
  rw [hrun]
  cases s.dropWhile isBlank with
  | nil =>
    rw [List.head?_nil, hnone]
    exact ⟨nofun, nofun⟩
  | cons b t =>
    constructor
    · exact fun h => ⟨b, t, rfl, h⟩
    · rintro ⟨c, u, heq, h⟩
      cases heq
      exact h

theorem run_skip_bind (f : Unit → Reader α) (b : UInt8) (s : Bytes) :
    (skip >>= f).run (b :: s) = (f ()).run s := rfl

/-- Two readers in sequence read the text in two parts. -/
theorem run_bind_eq_ok_iff {x : Reader α} {f : α → Reader β} {b : β} :
    (x >>= f).run s = .ok (b, r) ↔ ∃ a t, x.run s = .ok (a, t) ∧ (f a).run t = .ok (b, r) := by
  rw [run_bind]
  constructor
  · intro h
    split at h
    · rename_i a t hx
      exact ⟨a, t, hx, h⟩
    · cases h
  · rintro ⟨a, t, hx, hf⟩
    rw [hx]
    exact hf

theorem run_pure_eq_ok_iff {b : α} : (pure b : Reader α).run s = .ok (a, r) ↔ b = a ∧ s = r := by
  rw [run_pure, Except.ok.injEq, Prod.mk.injEq]

/-- A reader whose value is made into another one. -/
theorem run_map_eq_ok_iff {x : Reader α} {g : α → β} {b : β} :
    (do return g (← x) : Reader β).run s = .ok (b, r) ↔ ∃ a, x.run s = .ok (a, r) ∧ g a = b := by
  rw [run_bind_eq_ok_iff]
  simp only [run_pure_eq_ok_iff]
  constructor
  · rintro ⟨a, t, hx, rfl, rfl⟩
    exact ⟨a, hx, rfl⟩
  · rintro ⟨a, hx, rfl⟩
    exact ⟨a, r, hx, rfl, rfl⟩

/-- What is of a wrong type is never taken. -/
theorem run_wrongType_ne_ok {expected : String} {p : α × Bytes} :
    (wrongType expected : Reader α).run s ≠ .ok p := by
  intro h
  obtain ⟨found, t, -, h⟩ := run_bind_eq_ok_iff.1 h
  cases h

theorem word_eq_ok_iff {w : String} {u : Unit} :
    (word w).run s = .ok (u, r) ↔ s = Bytes.ofText w ++ r := wordFrom_eq_ok_iff

/-- A number is a numeral that some number is nearest to. -/
theorem number_eq_ok_iff {n : Number} :
    number.run s = .ok (n, r) ↔
      ∃ m, numeralFrom .malformed s = .ok (m, r) ∧ Number.ofNumeral? m = some n := by
  rw [number, run_bind_eq_ok_iff]
  constructor
  · rintro ⟨m, t, hm, hn⟩
    split at hn
    · rename_i n' hvalue
      obtain ⟨rfl, rfl⟩ := run_pure_eq_ok_iff.1 hn
      exact ⟨m, numeralFrom_ok hm, hvalue⟩
    · cases hn
  · rintro ⟨m, hm, hvalue⟩
    refine ⟨m, r, numeralFrom_ok hm, ?_⟩
    rw [hvalue]
    rfl

/-- A colon may have blanks in front. -/
theorem colon_eq_ok_iff {u : Unit} :
    colon.run s = .ok (u, r) ↔ s.dropWhile isBlank = Ascii.colon :: r := by
  rw [colon, run_peek_eq_ok_iff rfl]
  constructor
  · rintro ⟨b, t, hs, h⟩
    dsimp only at h
    split at h
    · rename_i hb
      cases h
      rw [hs, hb]
      rfl
    · cases h
  · intro hs
    exact ⟨_, _, hs, rfl⟩

/-! ### Scalars -/

/-- Strings are read of strings. -/
theorem means_string : string.Means Outline.text? := by
  intro s a r
  rw [string, run_peek_eq_ok_iff rfl]
  constructor
  · rintro ⟨b, t, hs, h⟩
    dsimp only at h
    split at h
    · rename_i hb
      subst hb
      obtain ⟨hbody, hspelled⟩ := text_eq_ok_iff.1 h
      exact ⟨_, .string hs hbody, hspelled⟩
    · exact absurd h run_wrongType_ne_ok
  · rintro ⟨o, ho, ha⟩
    cases ho with
    | string front body => exact ⟨_, _, front, text_eq_ok_iff.2 ⟨body, ha⟩⟩
    | null | true | false | number | sequence | map => cases ha

/-- Truth values are read of the two words. -/
theorem means_bool : bool.Means Outline.bool? := by
  intro s a r
  rw [bool, run_peek_eq_ok_iff rfl]
  constructor
  · rintro ⟨b, t, hs, h⟩
    -- The first byte that is no blank decides between the two words.
    dsimp only at h
    split at h
    · obtain ⟨_, u, hword, h⟩ := run_bind_eq_ok_iff.1 h
      obtain ⟨rfl, rfl⟩ := run_pure_eq_ok_iff.1 h
      exact ⟨_, .true (hs.trans (word_eq_ok_iff.1 hword)), rfl⟩
    split at h
    · obtain ⟨_, u, hword, h⟩ := run_bind_eq_ok_iff.1 h
      obtain ⟨rfl, rfl⟩ := run_pure_eq_ok_iff.1 h
      exact ⟨_, .false (hs.trans (word_eq_ok_iff.1 hword)), rfl⟩
    · exact absurd h run_wrongType_ne_ok
  · rintro ⟨o, ho, ha⟩
    cases ho with
    | true front =>
      cases ha
      exact ⟨_, _, front, run_bind_eq_ok_iff.2 ⟨(), r, word_eq_ok_iff.2 rfl, rfl⟩⟩
    | false front =>
      cases ha
      exact ⟨_, _, front, run_bind_eq_ok_iff.2 ⟨(), r, word_eq_ok_iff.2 rfl, rfl⟩⟩
    | null | number | string | sequence | map => cases ha

/-- Unsigned integers are read of numerals below the limit, without a fraction or an exponent. -/
theorem means_unsigned {limit : Nat} {expected : String} :
    (unsigned limit expected).Means (Outline.unsigned? limit) := by
  intro s a r
  rw [unsigned, run_peek_eq_ok_iff rfl]
  constructor
  · rintro ⟨b, t, hs, h⟩
    -- A number begins with a digit or a sign; whatever else begins is not read.
    dsimp only at h
    split at h
    · rename_i hsign
      obtain ⟨n, u, hnumber, h⟩ := run_bind_eq_ok_iff.1 h
      obtain ⟨m, hm, hn⟩ := number_eq_ok_iff.1 hnumber
      split at h
      · split at h
        · rename_i k hlimit
          obtain ⟨rfl, rfl⟩ := run_pure_eq_ok_iff.1 h
          exact ⟨_, .number hs hsign hm, by simp [Outline.unsigned?, hn, hlimit]⟩
        · cases h
      · cases h
      · cases h
    · exact absurd h run_wrongType_ne_ok
  · rintro ⟨o, ho, ha⟩
    cases ho with
    | @number _ t _ b m front sign hm =>
      refine ⟨b, t, front, ?_⟩
      -- Of the outlines only a number is read, and of numbers only a natural below the limit.
      cases hn : Number.ofNumeral? m with
      | none => rw [hn] at ha; cases ha
      | some n =>
        rw [hn] at ha
        cases n with
        | natural n =>
          simp only [Outline.unsigned?] at ha
          split at ha
          · rename_i hlimit
            cases ha
            simp only [if_pos sign]
            refine run_bind_eq_ok_iff.2 ⟨_, _, number_eq_ok_iff.2 ⟨m, hm, hn⟩, ?_⟩
            simp [hlimit]
          · cases ha
        | negSucc | float => cases ha
    | null | true | false | string | sequence | map => cases ha

/-- A value or null. -/
theorem means_optional {x : Reader α} {f : Outline → Option α} (h : x.Means f) :
    (optional x).Means (Outline.optional? f) := by
  intro s a r
  have hrun : (optional x).run s = (if (s.dropWhile isBlank).head? = some (byte 'n') then do
      word "null"
      return none
    else return some (← x) : Reader (Option α)).run (s.dropWhile isBlank) := rfl
  rw [hrun]
  constructor
  · intro hok
    split at hok
    · obtain ⟨u, t, hword, hok⟩ := run_bind_eq_ok_iff.1 hok
      obtain ⟨rfl, rfl⟩ := run_pure_eq_ok_iff.1 hok
      exact ⟨.null, .null (word_eq_ok_iff.1 hword), rfl⟩
    · rename_i hfront
      obtain ⟨b, t, hx, hok⟩ := run_bind_eq_ok_iff.1 hok
      obtain ⟨rfl, rfl⟩ := run_pure_eq_ok_iff.1 hok
      obtain ⟨o, ho, hb⟩ := h.1 hx
      refine ⟨o, spelling_dropWhile.1 ho, ?_⟩
      obtain ⟨c, u, hs, hbegins⟩ := (spelling_dropWhile.1 ho).exists_front
      -- Only null begins like null, and it would have been taken above.
      have hnull : o ≠ .null := by
        rintro rfl
        rw [hs, List.head?_cons, of_decide_eq_true hbegins] at hfront
        exact hfront rfl
      rw [Outline.optional?_eq hnull, hb, Option.map_some]
  · rintro ⟨o, ho, ha⟩
    obtain ⟨b, t, hs, hbegins⟩ := ho.exists_front
    by_cases hnull : o = .null
    · subst hnull
      cases ha
      cases ho with
      | null front =>
        rw [if_pos (by rw [front]; rfl)]
        exact run_bind_eq_ok_iff.2 ⟨(), r, word_eq_ok_iff.2 front, rfl⟩
    · rw [Outline.optional?_eq hnull] at ha
      obtain ⟨b', hb', rfl⟩ := Option.map_eq_some_iff.1 ha
      have hfront : (s.dropWhile isBlank).head? ≠ some (byte 'n') := by
        rw [hs]
        rintro ⟨⟩
        exact hnull (Outline.eq_null_of_begins hbegins)
      rw [if_neg hfront]
      exact run_bind_eq_ok_iff.2 ⟨b', r, h.2 ⟨o, spelling_dropWhile.2 ho, hb'⟩, rfl⟩

/-! ### Sequences -/

theorem mapM_cons_eq_some_iff {f : α → Option β} {a : α} {as : List α} {bs : List β} :
    (a :: as).mapM f = some bs ↔ ∃ b cs, f a = some b ∧ as.mapM f = some cs ∧ bs = b :: cs := by
  rw [List.mapM_cons]
  cases f a <;> cases as.mapM f <;> simp [eq_comm]

/-- A sequence ends at its bracket, whatever its items are. -/
theorem laterItems_close {item : Reader α} (front : s.dropWhile isBlank = closeBracket :: r) :
    laterItems item s = .ok ([], r) := by
  rw [laterItems]
  split
  · rename_i hs
    cases hs.symm.trans front
  · rename_i hs
    cases hs.symm.trans front
    rw [if_pos rfl]

/-- Behind a comma comes one more item, and a bracket may not. -/
theorem laterItems_comma {item : Reader α} {b : UInt8} {t u v w : Bytes} {a : α} {as : List α}
    (front : s.dropWhile isBlank = comma :: t) (hb : t.dropWhile isBlank = b :: u)
    (hclose : b ≠ closeBracket) (hi : item.run (b :: u) = .ok (a, v))
    (hlater : laterItems item v = .ok (as, w)) : laterItems item s = .ok (a :: as, w) := by
  -- Each split is decided: by the comma, by what follows it, and by the item that is read.
  rw [laterItems]
  split
  · rename_i hs
    cases hs.symm.trans front
  · rename_i hs
    cases hs.symm.trans front
    rw [if_neg (by decide), if_pos rfl]
    split
    · rename_i hs
      cases hs.symm.trans hb
    · rename_i hs
      cases hs.symm.trans hb
      rw [if_neg hclose]
      split
      · rename_i he
        cases he.symm.trans hi
      · rename_i he
        cases he.symm.trans hi
        rw [hlater]

/-- The later items are read of what is spelled, each of its own part. -/
theorem laterItems_eq_ok_iff {item : Reader α} {f : Outline → Option α} (h : item.Means f)
    {as : List α} :
    laterItems item s = .ok (as, r) ↔ ∃ os, LaterItems s os r ∧ os.mapM f = some as := by
  constructor
  · intro hrun
    -- Of the ways in which the reader can go, two succeed: the bracket, and one more element.
    fun_induction laterItems item s generalizing as r with
    | case2 _ _ hs =>
      cases hrun
      exact ⟨[], .done hs, rfl⟩
    | case7 _ _ _ _ hr _ _ _ hi _ _ hrec hs _ ih =>
      cases hrun
      obtain ⟨os, hos, has⟩ := ih hrec
      obtain ⟨o, ho, ha⟩ := h.1 hi
      rw [← hr] at ho
      exact ⟨o :: os, .next hs (spelling_dropWhile.1 ho) hos,
        mapM_cons_eq_some_iff.2 ⟨_, _, ha, has, rfl⟩⟩
    | _ => cases hrun
  · -- The elements say how often the reader goes around, whatever is left of its input.
    rintro ⟨os, hos, has⟩
    induction os generalizing s as with
    | nil =>
      cases hos with
      | done front =>
        cases has
        exact laterItems_close front
    | cons o os ih =>
      obtain ⟨a, as, ha, hrest, rfl⟩ := mapM_cons_eq_some_iff.1 has
      cases hos with
      | next front item later =>
        obtain ⟨b, u, hb, hbegins⟩ := item.exists_front
        refine laterItems_comma front hb (Outline.ne_closeBracket_of_begins hbegins) ?_
          (ih later hrest)
        rw [← hb]
        exact h.2 ⟨o, spelling_dropWhile.2 item, ha⟩

/-- **The elements of a sequence are taken if each of them is.** -/
theorem items_eq_ok_iff {item : Reader α} {f : Outline → Option α} (h : item.Means f)
    {as : List α} :
    (items item).run s = .ok (as, r) ↔ ∃ os, Items s os r ∧ os.mapM f = some as := by
  rw [items, run_peek_eq_ok_iff rfl]
  -- From a run to the items that are spelled: none, or a first one and those after it.
  constructor
  · rintro ⟨b, t, hs, hrun⟩
    dsimp only at hrun
    split at hrun
    · rename_i hb
      subst hb
      cases hrun
      exact ⟨[], .none hs, rfl⟩
    · obtain ⟨a, u, hi, hrun⟩ := run_bind_eq_ok_iff.1 hrun
      obtain ⟨as, v, hlater, hrun⟩ := run_bind_eq_ok_iff.1 hrun
      obtain ⟨rfl, rfl⟩ := run_pure_eq_ok_iff.1 hrun
      obtain ⟨os, hos, has⟩ := (laterItems_eq_ok_iff h).1 hlater
      obtain ⟨o, ho, ha⟩ := h.1 hi
      rw [← hs] at ho
      exact ⟨o :: os, .some (spelling_dropWhile.1 ho) hos,
        mapM_cons_eq_some_iff.2 ⟨_, _, ha, has, rfl⟩⟩
  · rintro ⟨os, hos, has⟩
    cases hos with
    | none front =>
      cases has
      exact ⟨_, _, front, rfl⟩
    | @some _ u _ o os first later =>
      obtain ⟨a, as, ha, hrest, rfl⟩ := mapM_cons_eq_some_iff.1 has
      -- An item cannot begin with the bracket that closes the array.
      obtain ⟨b, t, hs, hbegins⟩ := first.exists_front
      refine ⟨b, t, hs, ?_⟩
      simp only [if_neg (Outline.ne_closeBracket_of_begins hbegins)]
      have hi : item.run (b :: t) = .ok (a, u) := by
        rw [← hs]
        exact h.2 ⟨o, spelling_dropWhile.2 first, ha⟩
      refine run_bind_eq_ok_iff.2 ⟨a, u, hi, run_bind_eq_ok_iff.2 ⟨as, r, ?_, rfl⟩⟩
      exact (laterItems_eq_ok_iff h).2 ⟨os, later, hrest⟩

/-- Sequences are read item by item, one level deeper. -/
theorem means_list {item : Nat → Reader α} {f : Nat → Outline → Option α}
    (h : ∀ d, (item d).Means (f d)) (depth : Nat) :
    (list item depth).Means (Outline.list? f depth) := by
  intro s as r
  unfold list
  rw [run_peek_eq_ok_iff rfl]
  constructor
  · rintro ⟨b, t, hs, hrun⟩
    dsimp only at hrun
    split at hrun
    · rename_i hb
      subst hb
      -- Without any depth left the reader gives up, as the outline does.
      cases depth with
      | zero => cases hrun
      | succ d =>
        obtain ⟨os, hos, has⟩ := (items_eq_ok_iff (h d)).1 hrun
        exact ⟨.sequence os, .sequence hs hos, has⟩
    · exact absurd hrun run_wrongType_ne_ok
  · rintro ⟨o, ho, has⟩
    cases depth with
    | zero => cases has
    | succ d =>
      cases ho with
      | sequence front items => exact ⟨_, _, front, (items_eq_ok_iff (h d)).2 ⟨_, items, has⟩⟩
      | null | true | false | number | string | map => cases has

/-! ### Maps -/

theorem foldlM_cons_eq_some_iff {f : σ → β → Option σ} {acc acc' : σ} {b : β} {bs : List β} :
    (b :: bs).foldlM f acc = some acc' ↔
      ∃ mid, f acc b = some mid ∧ bs.foldlM f mid = some acc' := by
  rw [List.foldlM_cons, Option.bind_eq_bind, Option.bind_eq_some_iff]

/-- A map ends at its brace. -/
theorem laterMembers_close {member : σ → Reader σ} {acc : σ}
    (front : s.dropWhile isBlank = closeBrace :: r) :
    laterMembers member acc s = .ok (acc, r) := by
  rw [laterMembers]
  split
  · rename_i hs
    cases hs.symm.trans front
  · rename_i hs
    cases hs.symm.trans front
    rw [if_pos rfl]

/-- Behind a comma comes one more member, which begins with the quote of its key. -/
theorem laterMembers_comma {member : σ → Reader σ} {acc mid : σ} {t u v : Bytes}
    (front : s.dropWhile isBlank = comma :: t) (key : t.dropWhile isBlank = quote :: u)
    (hi : (member acc).run u = .ok (mid, v)) :
    laterMembers member acc s = laterMembers member mid v := by
  -- Each split is decided: by the comma, by the quote that opens a key, and by the member.
  rw [laterMembers]
  split
  · rename_i hs
    cases hs.symm.trans front
  · rename_i hs
    cases hs.symm.trans front
    rw [if_neg (by decide), if_pos rfl]
    split
    · rename_i hs
      cases hs.symm.trans key
    · rename_i hs
      cases hs.symm.trans key
      rw [if_pos rfl]
      split
      · rename_i he
        cases he.symm.trans hi
      · rename_i he
        cases he.symm.trans hi
        rfl

/-- The later members are taken up one by one, as far as each can be. -/
theorem laterMembers_eq_ok_iff {member : σ → Reader σ}
    {step : σ → Option String × Outline → Option σ} (h : ∀ acc, (member acc).MeansMember (step acc))
    {acc acc' : σ} :
    laterMembers member acc s = .ok (acc', r) ↔
      ∃ ms, LaterMembers s ms r ∧ ms.foldlM step acc = some acc' := by
  constructor
  · intro hrun
    -- All cases but the end of the object and one more member have failed.
    fun_induction laterMembers member acc s generalizing acc' r with
    | case2 _ _ _ hs =>
      cases hrun
      exact ⟨[], .done hs, rfl⟩
    | case5 _ _ _ _ _ _ hi hs _ hr ih =>
      obtain ⟨ms, hms, hfold⟩ := ih hrun
      obtain ⟨m, hm, hmid⟩ := (h _).1 hi
      exact ⟨m :: ms, .next hs hr hm hms, foldlM_cons_eq_some_iff.2 ⟨_, hmid, hfold⟩⟩
    | _ => cases hrun
  -- The outline is followed member by member, with the state folded so far.
  · rintro ⟨ms, hms, hfold⟩
    induction ms generalizing s acc with
    | nil =>
      cases hms with
      | done front =>
        cases hfold
        exact laterMembers_close front
    | cons m ms ih =>
      obtain ⟨mid, hmid, hrest⟩ := foldlM_cons_eq_some_iff.1 hfold
      cases hms with
      | next front key member later =>
        rw [laterMembers_comma front key ((h acc).2 ⟨m, member, hmid⟩)]
        exact ih later hrest

/-- **The members of a map are taken if each of them is**, one after the other. -/
theorem members_eq_ok_iff {member : σ → Reader σ}
    {step : σ → Option String × Outline → Option σ} (h : ∀ acc, (member acc).MeansMember (step acc))
    {acc acc' : σ} :
    (members member acc).run s = .ok (acc', r) ↔
      ∃ ms, Members s ms r ∧ ms.foldlM step acc = some acc' := by
  rw [members, run_peek_eq_ok_iff rfl]
  constructor
  -- From a run to the members that are spelled: none, or a first one and those after it.
  · rintro ⟨b, t, hs, hrun⟩
    dsimp only at hrun
    split at hrun
    · rename_i hb
      subst hb
      cases hrun
      exact ⟨[], .none hs, rfl⟩
    · split at hrun
      · rename_i hb
        subst hb
        obtain ⟨mid, u, hi, hlater⟩ := run_bind_eq_ok_iff.1 (run_skip_bind .. ▸ hrun)
        obtain ⟨m, hm, hmid⟩ := (h acc).1 hi
        obtain ⟨ms, hms, hfold⟩ := (laterMembers_eq_ok_iff h).1 hlater
        exact ⟨m :: ms, .some hs hm hms, foldlM_cons_eq_some_iff.2 ⟨mid, hmid, hfold⟩⟩
      · cases hrun
  · rintro ⟨ms, hms, hfold⟩
    cases hms with
    | none front =>
      cases hfold
      exact ⟨_, _, front, rfl⟩
    | @some _ t u _ m ms front first later =>
      obtain ⟨mid, hmid, hrest⟩ := foldlM_cons_eq_some_iff.1 hfold
      refine ⟨_, t, front, ?_⟩
      have hi : (member acc).run t = .ok (mid, u) := (h acc).2 ⟨m, first, hmid⟩
      simp only [if_neg (show ¬ quote = closeBrace by decide), if_pos, run_skip_bind]
      exact run_bind_eq_ok_iff.2 ⟨mid, u, hi, (laterMembers_eq_ok_iff h).2 ⟨ms, later, hrest⟩⟩

/-- One member, its key a text. -/
theorem meansMember_member {x : Reader α} {f : Outline → Option α} (h : x.Means f)
    (acc : List (String × α)) :
    (member x acc).MeansMember fun m => (Outline.pair? f m).map (· :: acc) := by
  intro s acc' r
  rw [member, run_bind_eq_ok_iff]
  constructor
  -- A member is its key, a colon and its value, in either direction.
  · rintro ⟨key, t, hkey, hrun⟩
    obtain ⟨hbody, hspelled⟩ := text_eq_ok_iff.1 hkey
    obtain ⟨_, u, hcolon, hrun⟩ := run_bind_eq_ok_iff.1 hrun
    obtain ⟨v, w, hvalue, hrun⟩ := run_bind_eq_ok_iff.1 hrun
    obtain ⟨rfl, rfl⟩ := run_pure_eq_ok_iff.1 hrun
    obtain ⟨o, ho, hv⟩ := h.1 hvalue
    refine ⟨(spelled? s, o), .intro hbody (colon_eq_ok_iff.1 hcolon) ho, ?_⟩
    simp [Outline.pair?, hspelled, hv]
  · rintro ⟨m, hm, hacc⟩
    cases hm with
    | @intro _ t u _ o hbody front value =>
      obtain ⟨⟨key, v⟩, hentry, rfl⟩ := Option.map_eq_some_iff.1 hacc
      simp only [Outline.pair?, Option.bind_eq_bind, Option.bind_eq_some_iff, Option.pure_def,
        Option.some.injEq, Prod.mk.injEq] at hentry
      obtain ⟨key', hkey, v', hv, rfl, rfl⟩ := hentry
      refine ⟨key', t, text_eq_ok_iff.2 ⟨hbody, hkey⟩, run_bind_eq_ok_iff.2 ⟨(), u, ?_, ?_⟩⟩
      · exact colon_eq_ok_iff.2 front
      · exact run_bind_eq_ok_iff.2 ⟨v', r, h.2 ⟨o, value, hv⟩, rfl⟩

/-- Members that are put in front of one another, and turned around in the end. -/
theorem foldlM_entries_eq_some_iff {f : β → Option α} {bs : List β} {acc as : List α} :
    bs.foldlM (fun acc b => (f b).map (· :: acc)) acc = some as ↔
      ∃ new, bs.mapM f = some new ∧ as = new.reverse ++ acc := by
  induction bs generalizing acc with
  | nil => simp [eq_comm]
  | cons b bs ih =>
    rw [foldlM_cons_eq_some_iff]
    constructor
    · rintro ⟨mid, hmid, hfold⟩
      obtain ⟨a, ha, rfl⟩ := Option.map_eq_some_iff.1 hmid
      obtain ⟨new, hnew, rfl⟩ := ih.1 hfold
      exact ⟨a :: new, mapM_cons_eq_some_iff.2 ⟨a, new, ha, hnew, rfl⟩, by simp⟩
    · rintro ⟨new, hnew, rfl⟩
      obtain ⟨a, rest, ha, hrest, rfl⟩ := mapM_cons_eq_some_iff.1 hnew
      exact ⟨a :: acc, by rw [ha]; rfl, ih.2 ⟨rest, hrest, by simp⟩⟩

/-- The members of a map are read in order, and gathered from the last to the first. -/
theorem entries_eq_ok_iff {x : Reader α} {f : Outline → Option α} (h : x.Means f)
    {es : List (String × α)} :
    (members (member x) []).run s = .ok (es, r) ↔
      ∃ ms, Members s ms r ∧ ms.mapM (Outline.pair? f) = some es.reverse := by
  rw [members_eq_ok_iff fun acc => meansMember_member h acc]
  refine exists_congr fun ms => and_congr_right fun _ => ?_
  rw [foldlM_entries_eq_some_iff]
  constructor
  · rintro ⟨new, hnew, rfl⟩
    simpa using hnew
  · intro hes
    exact ⟨es.reverse, hes, by simp⟩

/-- Dictionaries are read member by member, one level deeper. -/
theorem means_dictionary {value : Nat → Reader α} {f : Nat → Outline → Option α}
    (h : ∀ d, (value d).Means (f d)) (depth : Nat) :
    (dictionary value depth).Means (Outline.dictionary? f depth) := by
  intro s es r
  unfold dictionary
  rw [run_peek_eq_ok_iff rfl]
  constructor
  · rintro ⟨b, t, hs, hrun⟩
    dsimp only at hrun
    split at hrun
    · rename_i hb
      subst hb
      -- Without any depth left the reader gives up, as the outline does.
      cases depth with
      | zero => cases hrun
      | succ d =>
        obtain ⟨es, u, hmembers, hrun⟩ := run_bind_eq_ok_iff.1 (run_skip_bind .. ▸ hrun)
        obtain ⟨rfl, rfl⟩ := run_pure_eq_ok_iff.1 hrun
        obtain ⟨ms, hms, hes⟩ := (entries_eq_ok_iff (h d)).1 hmembers
        exact ⟨.map ms, .map hs hms, by rw [Outline.dictionary?, hes]; rfl⟩
    · exact absurd hrun run_wrongType_ne_ok
  · rintro ⟨o, ho, hes⟩
    cases depth with
    | zero => cases hes
    | succ d =>
      cases ho with
      | @map _ t _ ms front members =>
        obtain ⟨es, hentries, rfl⟩ := Option.map_eq_some_iff.1 hes
        refine ⟨_, t, front, ?_⟩
        simp only [if_pos, run_skip_bind]
        -- The reader gathers the entries in reverse.
        refine run_bind_eq_ok_iff.2 ⟨es.reverse, r, ?_, ?_⟩
        · exact (entries_eq_ok_iff (h d)).2 ⟨ms, members, by rwa [List.reverse_reverse]⟩
        · rw [List.reverse_reverse]
          rfl
      | null | true | false | number | string | sequence => cases hes

/-! ### Values made into others, and whole documents -/

/-- What is made of a value that is read is made of what it means. -/
theorem Means.map {x : Reader α} {f : Outline → Option α} (h : x.Means f) (g : α → β) :
    (do return g (← x) : Reader β).Means fun o => (f o).map g := by
  intro s b r
  simp only [run_map_eq_ok_iff, h.iff, Option.map_eq_some_iff]
  constructor
  · rintro ⟨a, ⟨o, ho, ha⟩, rfl⟩
    exact ⟨o, ho, a, ha, rfl⟩
  · rintro ⟨o, ho, a, ha, rfl⟩
    exact ⟨a, ⟨o, ho, ha⟩, rfl⟩

theorem means_uint64 : uint64.Means Outline.uint64? := means_unsigned.map UInt64.ofNat

theorem means_uint32 : uint32.Means Outline.uint32? := means_unsigned.map UInt32.ofNat

theorem means_uint8 : uint8.Means Outline.uint8? := means_unsigned.map UInt8.ofNat

/-- A document is read if it spells a value that means something. -/
theorem Means.decode_eq_ok_iff {x : Reader α} {f : Outline → Option α} (h : x.Means f)
    {raw : Bytes} : x.decode raw = .ok a ↔ ∃ o, Spells raw o ∧ f o = some a := by
  -- Decoding is reading and finding nothing but blanks behind.
  have hdecode : x.decode raw = .ok a ↔ ∃ r, x.run raw = .ok (a, r) ∧ r.all isBlank := by
    rw [decode]
    constructor
    · intro hx
      split at hx
      · cases hx
      · rename_i a' r hrun
        split at hx
        · rename_i hr
          cases hx
          exact ⟨r, hrun, hr⟩
        · cases hx
    · rintro ⟨r, hrun, hr⟩
      rw [hrun]
      exact if_pos hr
  rw [hdecode]
  simp only [h.iff, Spells]
  constructor
  · rintro ⟨r, ⟨o, ho, ha⟩, hr⟩
    exact ⟨o, ⟨r, ho, hr⟩, ha⟩
  · rintro ⟨o, ⟨r, ho, hr⟩, ha⟩
    exact ⟨r, ⟨o, ho, ha⟩, hr⟩

end Reader

end TokenCatalog.Json
