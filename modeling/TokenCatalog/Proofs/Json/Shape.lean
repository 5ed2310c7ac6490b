import TokenCatalog.Proofs.Json.Reading

namespace TokenCatalog.Json

open Ascii Reader

/-!
# Values of any shape — what is read of them, and what is skipped

* `Reader.dispatch`, `Reader.means_dispatch` — a reader for every kind of value;
* `Reader.means_json` — documents are read if they spell texts and numbers and do not nest too deep;
* `Reader.skipValue_eq_ok_iff` — what is skipped is any value of the grammar.
-/

namespace Outline

/-- A document of any shape. -/
def json? : Nat → Outline → Option Json
  | _, .null => some .null
  | _, .bool b => some (.bool b)
  | _, .number n => n.map .number
  | _, .string s => s.map .string
  | d + 1, .sequence os => (os.mapM (json? d)).map .array
  | d + 1, .map ms => (ms.mapM (pair? (json? d))).map .object
  | 0, .sequence _ | 0, .map _ => none

@[simp] theorem json?_null (d : Nat) : json? d .null = some .null := by cases d <;> rfl

@[simp] theorem json?_bool (d : Nat) (b : Bool) : json? d (.bool b) = some (.bool b) := by
  cases d <;> rfl

@[simp] theorem json?_number (d : Nat) (n : Option Number) :
    json? d (.number n) = n.map .number := by
  cases d <;> rfl

@[simp] theorem json?_string (d : Nat) (s : Option String) :
    json? d (.string s) = s.map .string := by
  cases d <;> rfl

/-- Anything that does not nest too deep. -/
def skipped? (depth : Nat) (o : Outline) : Option Unit := if o.within depth then some () else none

/-- A value is skipped exactly when it nests no deeper than it may. -/
theorem skipped?_eq_some_iff {d : Nat} {o : Outline} {u : Unit} :
    skipped? d o = some u ↔ o.within d = true := by
  simp [skipped?]

end Outline

namespace Reader

variable {α : Type} {s r : Bytes}

/-! ### Values of any shape -/

/-- One reader for every kind of value, by the byte that it begins with. -/
def dispatch (onString onNumber onNull onTrue onFalse onSequence onMap : Reader α) : Reader α := do
  match ← peek with
  | none => fail .truncated
  | some b =>
    if b = quote then onString
    else if b = minus ∨ isDigit b then onNumber
    else if b = byte 'n' then onNull
    else if b = byte 't' then onTrue
    else if b = byte 'f' then onFalse
    else if b = openBracket then onSequence
    else if b = openBrace then onMap
    else fail .malformed

/-- What the readers of every kind must take, for a value to mean something. -/
structure Kinds (onString onNumber onNull onTrue onFalse onSequence onMap : Reader α)
    (f : Outline → Option α) : Prop where
  onString : ∀ {s a r}, onString.run (quote :: s) = .ok (a, r) ↔
    skipBodyFrom s = .ok ((), r) ∧ f (.string (spelled? s)) = some a
  onNumber : ∀ {s a r}, onNumber.run s = .ok (a, r) ↔
    ∃ m, numeralFrom .malformed s = .ok (m, r) ∧ f (.number (Number.ofNumeral? m)) = some a
  onNull : ∀ {s a r}, onNull.run s = .ok (a, r) ↔
    s = Bytes.ofText "null" ++ r ∧ f .null = some a
  onTrue : ∀ {s a r}, onTrue.run s = .ok (a, r) ↔
    s = Bytes.ofText "true" ++ r ∧ f (.bool true) = some a
  onFalse : ∀ {s a r}, onFalse.run s = .ok (a, r) ↔
    s = Bytes.ofText "false" ++ r ∧ f (.bool false) = some a
  onSequence : ∀ {s a r}, onSequence.run (openBracket :: s) = .ok (a, r) ↔
    ∃ os, Items s os r ∧ f (.sequence os) = some a
  onMap : ∀ {s a r}, onMap.run (openBrace :: s) = .ok (a, r) ↔
    ∃ ms, Members s ms r ∧ f (.map ms) = some a

/-- Every value is one of seven kinds. -/
theorem means_dispatch {onString onNumber onNull onTrue onFalse onSequence onMap : Reader α}
    {f : Outline → Option α}
    (h : Kinds onString onNumber onNull onTrue onFalse onSequence onMap f) :
    (dispatch onString onNumber onNull onTrue onFalse onSequence onMap).Means f := by
  intro s a r
  rw [dispatch, run_peek_eq_ok_iff rfl]
  constructor
  · rintro ⟨b, t, hs, hrun⟩
    -- The first byte decides, and the cases are tried in their order.
    dsimp only at hrun
    split at hrun
    · rename_i hb
      subst hb
      obtain ⟨hbody, ha⟩ := h.onString.1 hrun
      exact ⟨_, .string hs hbody, ha⟩
    split at hrun
    · rename_i hsign
      obtain ⟨m, hm, ha⟩ := h.onNumber.1 hrun
      exact ⟨_, .number hs hsign hm, ha⟩
    split at hrun
    · obtain ⟨hword, ha⟩ := h.onNull.1 hrun
      exact ⟨_, .null (hs.trans hword), ha⟩
    split at hrun
    · obtain ⟨hword, ha⟩ := h.onTrue.1 hrun
      exact ⟨_, .true (hs.trans hword), ha⟩
    split at hrun
    · obtain ⟨hword, ha⟩ := h.onFalse.1 hrun
      exact ⟨_, .false (hs.trans hword), ha⟩
    split at hrun
    · rename_i hb
      subst hb
      obtain ⟨os, hos, ha⟩ := h.onSequence.1 hrun
      exact ⟨_, .sequence hs hos, ha⟩
    split at hrun
    · rename_i hb
      subst hb
      obtain ⟨ms, hms, ha⟩ := h.onMap.1 hrun
      exact ⟨_, .map hs hms, ha⟩
    · cases hrun
  · rintro ⟨o, ho, ha⟩
    cases ho with
    | string front body => exact ⟨_, _, front, h.onString.2 ⟨body, ha⟩⟩
    | @number _ t _ b m front sign hm =>
      refine ⟨b, t, front, ?_⟩
      -- A number is not a string, so the first case does not apply.
      have hquote : b ≠ quote := by
        rintro rfl
        exact absurd sign (by decide)
      simp only [if_neg hquote, if_pos sign]
      exact h.onNumber.2 ⟨_, hm, ha⟩
    | null front => exact ⟨_, _, front, h.onNull.2 ⟨rfl, ha⟩⟩
    | true front => exact ⟨_, _, front, h.onTrue.2 ⟨rfl, ha⟩⟩
    | false front => exact ⟨_, _, front, h.onFalse.2 ⟨rfl, ha⟩⟩
    | sequence front items => exact ⟨_, _, front, h.onSequence.2 ⟨_, items, ha⟩⟩
    | map front members => exact ⟨_, _, front, h.onMap.2 ⟨_, members, ha⟩⟩

/-- What is read of a scalar. -/
theorem kinds_json {onSequence onMap : Reader Json} {depth : Nat}
    (hsequence : ∀ {s j r}, onSequence.run (openBracket :: s) = .ok (j, r) ↔
      ∃ os, Items s os r ∧ Outline.json? depth (.sequence os) = some j)
    (hmap : ∀ {s j r}, onMap.run (openBrace :: s) = .ok (j, r) ↔
      ∃ ms, Members s ms r ∧ Outline.json? depth (.map ms) = some j) :
    Kinds (do skip; return .string (← text)) (do return .number (← number))
      (do word "null"; return .null) (do word "true"; return .bool true)
      (do word "false"; return .bool false) onSequence onMap (Outline.json? depth) where
  onString {s j r} := by
    -- The opening quote is skipped before the text is read.
    rw [run_skip_bind, run_map_eq_ok_iff, Outline.json?_string]
    simp only [text_eq_ok_iff, Option.map_eq_some_iff, and_assoc, exists_and_left]
  onNumber {s j r} := by
    rw [run_map_eq_ok_iff]
    simp only [number_eq_ok_iff, Outline.json?_number, Option.map_eq_some_iff]
    constructor
    · rintro ⟨n, ⟨m, hm, hn⟩, rfl⟩
      exact ⟨m, hm, n, hn, rfl⟩
    · rintro ⟨m, hm, n, hn, rfl⟩
      exact ⟨n, ⟨m, hm, hn⟩, rfl⟩
  onNull {s j r} := by
    rw [run_bind_eq_ok_iff, Outline.json?_null]
    simp [word_eq_ok_iff]
  onTrue {s j r} := by
    rw [run_bind_eq_ok_iff, Outline.json?_bool]
    simp [word_eq_ok_iff]
  onFalse {s j r} := by
    rw [run_bind_eq_ok_iff, Outline.json?_bool]
    simp [word_eq_ok_iff]
  onSequence := hsequence
  onMap := hmap

/-- The reader of any document does what the outline says. -/
theorem means_json (depth : Nat) : (json depth).Means (Outline.json? depth) := by
  -- By induction on the depth: a level is opened before its items are read.
  induction depth with
  | zero =>
    unfold json
    exact means_dispatch (kinds_json (by simp [Outline.json?]) (by simp [Outline.json?]))
  | succ d ih =>
    unfold json
    refine means_dispatch (kinds_json (fun {s j r} => ?_) (fun {s j r} => ?_))
    · rw [run_skip_bind, run_map_eq_ok_iff]
      simp only [items_eq_ok_iff ih, Outline.json?, Option.map_eq_some_iff]
      constructor
      · rintro ⟨js, ⟨os, hos, hjs⟩, rfl⟩
        exact ⟨os, hos, js, hjs, rfl⟩
      · rintro ⟨os, hos, js, hjs, rfl⟩
        exact ⟨js, ⟨os, hos, hjs⟩, rfl⟩
    · rw [run_skip_bind, run_map_eq_ok_iff]
      simp only [entries_eq_ok_iff ih, Outline.json?, Option.map_eq_some_iff]
      constructor
      · rintro ⟨es, ⟨ms, hms, hes⟩, rfl⟩
        -- Entries are gathered in reverse.
        exact ⟨ms, hms, es.reverse, hes, rfl⟩
      · rintro ⟨ms, hms, es, hes, rfl⟩
        exact ⟨es.reverse, ⟨ms, hms, by rwa [List.reverse_reverse]⟩, by rw [List.reverse_reverse]⟩

/-! ### Values that nobody looks at -/

/-- A member is skipped when its key and its value are. -/
theorem meansMember_skipMember {x : Reader Unit} {f : Outline → Option Unit} (h : x.Means f) :
    (skipMember x).MeansMember fun m => f m.2 := by
  intro s u r
  rw [skipMember, run_bind_eq_ok_iff]
  simp only [run_bind_eq_ok_iff, colon_eq_ok_iff]
  constructor
  · rintro ⟨_, t, hkey, _, v, hcolon, hvalue⟩
    obtain ⟨o, ho, hu⟩ := h.1 hvalue
    exact ⟨_, .intro hkey hcolon ho, hu⟩
  · rintro ⟨m, hm, hu⟩
    cases hm with
    | intro hkey hcolon value => exact ⟨(), _, hkey, (), _, hcolon, h.2 ⟨_, value, hu⟩⟩

/-- An array is skipped exactly when every one of its items is. -/
theorem mapM_skipped_iff {d : Nat} {os : List Outline} :
    (∃ us, os.mapM (Outline.skipped? d) = some us) ↔ os.all (·.within d) = true := by
  induction os with
  | nil => simp
  | cons o os ih =>
    simp only [mapM_cons_eq_some_iff, List.all_cons, Bool.and_eq_true, ← ih,
      ← Outline.skipped?_eq_some_iff (u := ())]
    constructor
    · rintro ⟨_, u, us, ho, hus, rfl⟩
      exact ⟨ho, us, hus⟩
    · rintro ⟨ho, us, hus⟩
      exact ⟨_, (), us, ho, hus, rfl⟩

/-- An object is skipped exactly when the value of every member is. -/
theorem foldlM_skipped_iff {d : Nat} {ms : List (Option String × Outline)} {u : Unit} :
    ms.foldlM (fun _ m => Outline.skipped? d m.2) () = some u ↔
      ms.all (·.2.within d) = true := by
  induction ms with
  | nil => simp
  | cons m ms ih =>
    rw [foldlM_cons_eq_some_iff, List.all_cons, Bool.and_eq_true, ← ih,
      ← Outline.skipped?_eq_some_iff (u := ())]
    exact ⟨fun ⟨_, hm, hms⟩ => ⟨hm, hms⟩, fun ⟨hm, hms⟩ => ⟨(), hm, hms⟩⟩

/-- What is skipped of a scalar. -/
theorem kinds_skip {onSequence onMap : Reader Unit} {depth : Nat}
    (hsequence : ∀ {s u r}, onSequence.run (openBracket :: s) = .ok (u, r) ↔
      ∃ os, Items s os r ∧ Outline.skipped? depth (.sequence os) = some u)
    (hmap : ∀ {s u r}, onMap.run (openBrace :: s) = .ok (u, r) ↔
      ∃ ms, Members s ms r ∧ Outline.skipped? depth (.map ms) = some u) :
    Kinds (do skip; skipText) (do let _ ← numeral .malformed; return ()) (word "null")
      (word "true") (word "false") onSequence onMap (Outline.skipped? depth) where
  onString {s u r} := by
    rw [run_skip_bind, Outline.skipped?_eq_some_iff]
    -- Skipping takes no notice of how deep a scalar lies.
    exact (and_iff_left (by cases depth <;> rfl)).symm
  onNumber {s u r} := by
    rw [run_map_eq_ok_iff]
    exact exists_congr fun m => and_congr_right fun _ => by simp [Outline.skipped?, Outline.within]
  onNull {s u r} := by
    rw [word_eq_ok_iff]
    simp [Outline.skipped?, Outline.within]
  onTrue {s u r} := by
    rw [word_eq_ok_iff]
    simp [Outline.skipped?, Outline.within]
  onFalse {s u r} := by
    rw [word_eq_ok_iff]
    simp [Outline.skipped?, Outline.within]
  onSequence := hsequence
  onMap := hmap

/-- A value is skipped if it does not nest too deep. -/
theorem means_skipNested (depth : Nat) : (skipNested depth).Means (Outline.skipped? depth) := by
  -- By induction on the depth, as for reading.
  induction depth with
  | zero =>
    unfold skipNested
    exact means_dispatch (kinds_skip (by simp [Outline.skipped?, Outline.within])
      (by simp [Outline.skipped?, Outline.within]))
  | succ d ih =>
    unfold skipNested
    refine means_dispatch (kinds_skip (fun {s u r} => ?_) (fun {s u r} => ?_))
    · rw [run_skip_bind, run_map_eq_ok_iff]
      simp only [items_eq_ok_iff ih, Outline.skipped?_eq_some_iff, Outline.within,
        ← mapM_skipped_iff]
      constructor
      · rintro ⟨us, ⟨os, hos, hus⟩, -⟩
        exact ⟨os, hos, us, hus⟩
      · rintro ⟨os, hos, us, hus⟩
        exact ⟨us, ⟨os, hos, hus⟩, trivial⟩
    · rw [run_skip_bind, members_eq_ok_iff fun _ => meansMember_skipMember ih]
      simp only [foldlM_skipped_iff, Outline.skipped?_eq_some_iff, Outline.within]

/-- **What is skipped is any value**, however deep it nests. -/
theorem skipValue_eq_ok_iff {u : Unit} :
    skipValue.run s = .ok (u, r) ↔ ∃ o, Spelling s o r := by
  have hrun : skipValue.run s = (skipNested s.length).run s := rfl
  rw [hrun, means_skipNested]
  refine exists_congr fun o => ⟨And.left, fun ho => ⟨ho, ?_⟩⟩
  exact Outline.skipped?_eq_some_iff.2 (fits s.length (Nat.le_refl _) ho).1

end Reader

end TokenCatalog.Json
