import TokenCatalog.Proofs.Json.Shape

namespace TokenCatalog.Json

open Ascii Reader

/-!
# Records — which values a structure is read of

A record is read of a map whose keys are texts or of a sequence; members that belong to no field may
be anything, a field may be written once, and one that is not written has what stands for it.

* `Slot`, `Slots` — what the fields of a record mean, one by one;
* `Slots.ofMembers?`, `Slots.ofItems?` — their values in a map and in a sequence;
* `Fields.Means` — fields are read as slots say;
* `Record.means_read` — **main result**: a record is read of those values of which its slots are.
-/

/-- What a field means: its name, which values it has, and what stands for it when absent. -/
structure Slot (α : Type) where
  name : String
  value? : Nat → Outline → Option α
  fallback : Option α

/-- A field that must be written. -/
def Slot.required {α : Type} (name : String) (value? : Nat → Outline → Option α) : Slot α :=
  ⟨name, value?, none⟩

/-- A field that may be absent. -/
def Slot.withDefault {α : Type} (name : String) (value? : Nat → Outline → Option α) (value : α) :
    Slot α :=
  ⟨name, value?, some value⟩

/-- The value of a field among the members of a map; of members with its name there is at most
    one. -/
def Slot.ofMembers? {α : Type} (slot : Slot α) (depth : Nat) (ms : List (String × Outline)) :
    Option α :=
  match ms.filter (·.1 = slot.name) with
  | [] => slot.fallback
  | [m] => slot.value? depth m.2
  | _ => none

/-- What the fields of a record mean, in order of declaration. -/
inductive Slots : List Type → Type 1 where
  | nil : Slots []
  | cons {α : Type} {αs : List Type} (slot : Slot α) (rest : Slots αs) : Slots (α :: αs)

namespace Slots

variable {α : Type} {αs : List Type}

/-- The names of the fields. -/
def names {αs : List Type} : Slots αs → List String
  | .nil => []
  | .cons slot rest => slot.name :: rest.names

/-- The values of the fields among the members of a map. -/
def ofMembers? {αs : List Type} (depth : Nat) (ms : List (String × Outline)) :
    Slots αs → Option (Values αs)
  | .nil => some ()
  | .cons slot rest => do return (← slot.ofMembers? depth ms, ← rest.ofMembers? depth ms)

/-- The values of the fields as the elements of a sequence; the last ones may be absent. -/
def ofItems? {αs : List Type} (depth : Nat) : Slots αs → List Outline → Option (Values αs)
  | .nil, [] => some ()
  | .nil, _ :: _ => none
  | .cons slot rest, [] => do return (← slot.fallback, ← rest.ofItems? depth [])
  | .cons slot rest, o :: os => do return (← slot.value? depth o, ← rest.ofItems? depth os)

/-- A pair is read exactly when both its parts are. -/
theorem pair_eq_some_iff {x : Option α} {y : Option (Values αs)} {v : α} {vs : Values αs} :
    (do return (← x, ← y) : Option (Values (α :: αs))) = some (v, vs) ↔
      x = some v ∧ y = some vs := by
  constructor
  · intro h
    obtain ⟨v', hx, h⟩ := Option.bind_eq_some_iff.1 h
    obtain ⟨vs', hy, h⟩ := Option.bind_eq_some_iff.1 h
    cases h
    exact ⟨hx, hy⟩
  · rintro ⟨rfl, rfl⟩
    rfl

/-- At the end of the sequence every slot left has to fall back. -/
theorem ofItems?_nil_eq_some_iff {depth : Nat} {slot : Slot α} {rest : Slots αs} {v : α}
    {vs : Values αs} :
    (cons slot rest).ofItems? depth [] = some (v, vs) ↔
      slot.fallback = some v ∧ rest.ofItems? depth [] = some vs :=
  pair_eq_some_iff

/-- An item is read by the slot whose turn it is. -/
theorem ofItems?_cons_eq_some_iff {depth : Nat} {slot : Slot α} {rest : Slots αs} {o : Outline}
    {os : List Outline} {v : α} {vs : Values αs} :
    (cons slot rest).ofItems? depth (o :: os) = some (v, vs) ↔
      slot.value? depth o = some v ∧ rest.ofItems? depth os = some vs :=
  pair_eq_some_iff

/-- A member whose key is a text. -/
def keyed? (m : Option String × Outline) : Option (String × Outline) := m.1.map (·, m.2)

/-- The values of the fields of a record. -/
def of? (slots : Slots αs) : Nat → Outline → Option (Values αs)
  | d + 1, .map ms => ms.mapM keyed? >>= fun ms => slots.ofMembers? d ms
  | d + 1, .sequence os => slots.ofItems? d os
  | _, _ => none

/-! ### One member after the other -/

/-- No field read yet. -/
def blank {αs : List Type} : Slots αs → Partial αs
  | .nil => ()
  | .cons _ rest => (none, rest.blank)

/-- Put a member where it belongs, unless something is there. -/
def put? {αs : List Type} (depth : Nat) (key : String) (o : Outline) :
    Slots αs → Partial αs → Option (Partial αs)
  | .nil, done => some done
  | .cons slot rest, (value, done) =>
    if slot.name = key then
      match value with
      | some _ => none
      | none => (slot.value? depth o).map fun v => (some v, done)
    else (rest.put? depth key o done).map (value, ·)

/-- Every field's value, the absent ones by their defaults. -/
def complete? {αs : List Type} : Slots αs → Partial αs → Option (Values αs)
  | .nil, _ => some ()
  | .cons slot rest, (value, done) => do return (← value.or slot.fallback, ← rest.complete? done)

end Slots

/-- What members add to the value of a field, one after the other. -/
def Slot.fill? {α : Type} (slot : Slot α) (depth : Nat) :
    List (String × Outline) → Option α → Option (Option α)
  | [], value => some value
  | (key, o) :: ms, value =>
    if slot.name = key then
      match value with
      | some _ => none
      | none => slot.value? depth o >>= fun v => slot.fill? depth ms (some v)
    else slot.fill? depth ms value

/-- Once a field has a value, no other member may have its name. -/
theorem Slot.fill?_some {α : Type} (slot : Slot α) (depth : Nat) (ms : List (String × Outline))
    (v : α) :
    slot.fill? depth ms (some v) =
      if ms.filter (·.1 = slot.name) = [] then some (some v) else none := by
  induction ms with
  | nil => rfl
  | cons m ms ih =>
    obtain ⟨key, o⟩ := m
    rw [fill?]
    by_cases hkey : slot.name = key
    · simp [hkey]
    · have hfilter : ((key, o) :: ms).filter (·.1 = slot.name) = ms.filter (·.1 = slot.name) :=
        List.filter_cons_of_neg (by simp [Ne.symm hkey])
      rw [if_neg hkey, ih, hfilter]

/-- One after the other, members come to the value of the only one with the name of a field. -/
theorem Slot.fill?_none {α : Type} (slot : Slot α) (depth : Nat) (ms : List (String × Outline)) :
    (slot.fill? depth ms none >>= fun value => value.or slot.fallback) =
      slot.ofMembers? depth ms := by
  rw [ofMembers?]
  induction ms with
  | nil => rfl
  | cons m ms ih =>
    obtain ⟨key, o⟩ := m
    rw [fill?]
    -- A member of the slot's name fills it, and then a second one is a repetition.
    by_cases hkey : slot.name = key
    · have hfilter : ((key, o) :: ms).filter (·.1 = slot.name) =
          (key, o) :: ms.filter (·.1 = slot.name) := List.filter_cons_of_pos (by simp [hkey])
      simp only [if_pos hkey, hfilter, fill?_some]
      cases hv : slot.value? depth o <;> cases ms.filter (·.1 = slot.name) <;> simp [hv]
    · have hfilter : ((key, o) :: ms).filter (·.1 = slot.name) =
          ms.filter (·.1 = slot.name) := List.filter_cons_of_neg (by simp [Ne.symm hkey])
      rw [if_neg hkey, hfilter]
      exact ih

namespace Slots

variable {αs : List Type}

/-- What members add to the fields that have been read. -/
def extend? {αs : List Type} (depth : Nat) (ms : List (String × Outline)) :
    Slots αs → Partial αs → Option (Partial αs)
  | .nil, done => some done
  | .cons slot rest, (value, done) => do
    return (← slot.fill? depth ms value, ← rest.extend? depth ms done)

/-- A member none of whose names is its key leaves the slots as they were. -/
theorem extend?_of_notMem {depth : Nat} {m : String × Outline} {ms : List (String × Outline)}
    {slots : Slots αs} (h : m.1 ∉ slots.names) (done : Partial αs) :
    slots.extend? depth (m :: ms) done = slots.extend? depth ms done := by
  induction slots with
  | nil => rfl
  | cons slot rest ih =>
    obtain ⟨hne, hrest⟩ := not_or.1 (mt List.mem_cons.2 h)
    obtain ⟨value, done⟩ := done
    simp only [extend?, Slot.fill?, if_neg (Ne.symm hne), ih hrest]
    rfl

/-- A member adds what is put where it belongs. -/
theorem extend?_cons {depth : Nat} {m : String × Outline} {ms : List (String × Outline)}
    {slots : Slots αs} (hn : slots.names.Nodup) (done : Partial αs) :
    slots.extend? depth (m :: ms) done =
      slots.put? depth m.1 m.2 done >>= slots.extend? depth ms := by
  induction slots with
  | nil => rfl
  | cons slot rest ih =>
    obtain ⟨hnot, hrest⟩ := List.nodup_cons.1 hn
    obtain ⟨value, done⟩ := done
    by_cases hm : slot.name = m.1
    · -- Names differ, so the later fields do not want the member.
      rw [hm] at hnot
      simp only [extend?, put?, Slot.fill?, if_pos hm, extend?_of_notMem hnot]
      cases value with
      | some v => rfl
      | none => cases slot.value? depth m.2 <;> rfl
    -- The member goes on to the slots that come later.
    · simp only [extend?, put?, Slot.fill?, if_neg hm, ih hrest]
      cases rest.put? depth m.1 m.2 done with
      | none => cases slot.fill? depth ms value <;> rfl
      | some done' => rfl

/-- Members one after the other. -/
theorem foldlM_put?_eq {depth : Nat} {ms : List (String × Outline)} {slots : Slots αs}
    (hn : slots.names.Nodup) (done : Partial αs) :
    ms.foldlM (fun done m => slots.put? depth m.1 m.2 done) done = slots.extend? depth ms done := by
  induction ms generalizing done with
  | nil =>
    clear hn
    induction slots with
    | nil => rfl
    | cons slot rest ih =>
      obtain ⟨value, done⟩ := done
      rw [extend?, ← ih]
      rfl
  | cons m ms ih =>
    rw [List.foldlM_cons, extend?_cons hn]
    exact bind_congr fun done => ih done

/-- Fields that have been read of the members of a map have the values of the slots. -/
theorem extend?_blank {depth : Nat} {ms : List (String × Outline)} (slots : Slots αs) :
    (slots.extend? depth ms slots.blank >>= slots.complete?) = slots.ofMembers? depth ms := by
  induction slots with
  | nil => rfl
  | cons slot rest ih =>
    -- Each field is filled by itself; the last step only looks at what has come together.
    simp only [extend?, blank, ofMembers?, ← ih, ← Slot.fill?_none]
    cases slot.fill? depth ms none with
    | none => rfl
    | some value =>
      cases rest.extend? depth ms rest.blank with
      | none => cases hvalue : value.or slot.fallback <;> simp [hvalue] <;> rfl
      | some done => rfl

end Slots

/-! ### Fields -/

/-- Fields are read as slots say. -/
inductive Fields.Means : {αs : List Type} → Fields αs → Slots αs → Prop
  | nil : Means .nil .nil
  | cons {α : Type} {αs : List Type} {f : Field α} {slot : Slot α} {fs : Fields αs}
      {slots : Slots αs}
      (name : f.name = slot.name) (fallback : f.fallback = slot.fallback)
      (read : ∀ d, (f.read d).Means (slot.value? d)) (rest : Means fs slots) :
      Means (.cons f fs) (.cons slot slots)

namespace Fields

variable {αs : List Type} {fs : Fields αs} {slots : Slots αs} {s r : Bytes}

/-- The fields of a record start as blank as its slots. -/
theorem Means.blank_eq (h : fs.Means slots) : fs.blank = slots.blank := by
  induction h with
  | nil => rfl
  | cons _ _ _ _ ih => rw [blank, Slots.blank, ih]

/-- A record is completed exactly when its slots are, with the same values. -/
theorem Means.toOption_complete (h : fs.Means slots) (done : Partial αs) :
    (fs.complete done).toOption = slots.complete? done := by
  induction h with
  | nil => rfl
  | @cons α αs f slot fs slots _ hfallback _ _ ih =>
    obtain ⟨value, done⟩ := done
    rw [complete, Slots.complete?, hfallback, ← ih done]
    cases value.or slot.fallback with
    | none => rfl
    | some v => cases fs.complete done <;> rfl

/-- A member that belongs to no field changes nothing. -/
theorem Means.put?_of_accept? (h : fs.Means slots) {depth : Nat} {key : String}
    {done : Partial αs} (hnone : fs.accept? depth key done = none) (o : Outline) :
    slots.put? depth key o done = some done := by
  induction h with
  | nil => rfl
  | @cons α αs f slot fs slots hname _ _ _ ih =>
    obtain ⟨value, done⟩ := done
    simp only [accept?, hname] at hnone
    split at hnone
    · cases hnone
    · rename_i hkey
      simp only [Slots.put?, if_neg hkey, ih (Option.map_eq_none_iff.1 hnone)]
      rfl

/-- The value of a field behind the key of its member. -/
theorem run_field_eq_ok_iff {α β : Type} {x : Reader α} {f : Outline → Option α} (h : x.Means f)
    {done : β} {done' : Option α × β} :
    (do Reader.colon; return (some (← x), done) : Reader (Option α × β)).run s = .ok (done', r) ↔
      ∃ t o, s.dropWhile isBlank = Ascii.colon :: t ∧ Spelling t o r ∧
        (f o).map (fun v => (some v, done)) = some done' := by
  rw [run_bind_eq_ok_iff]
  simp only [colon_eq_ok_iff, run_map_eq_ok_iff, h.iff, Option.map_eq_some_iff]
  constructor
  · rintro ⟨_, t, hcolon, v, ⟨o, ho, hv⟩, rfl⟩
    exact ⟨t, o, hcolon, ho, v, hv, rfl⟩
  · rintro ⟨t, o, hcolon, ho, v, hv, rfl⟩
    exact ⟨(), t, hcolon, v, ⟨o, ho, hv⟩, rfl⟩

/-- A member that belongs to one of the later fields. -/
theorem run_later_eq_ok_iff {α β : Type} {x : Reader β} {f : Outline → Option β} {value : α}
    {done' : α × β}
    (h : ∀ {done}, x.run s = .ok (done, r) ↔ ∃ t o, s.dropWhile isBlank = Ascii.colon :: t ∧
      Spelling t o r ∧ f o = some done) :
    (do return (value, ← x) : Reader (α × β)).run s = .ok (done', r) ↔
      ∃ t o, s.dropWhile isBlank = Ascii.colon :: t ∧ Spelling t o r ∧
        (f o).map (value, ·) = some done' := by
  rw [run_map_eq_ok_iff]
  simp only [h, Option.map_eq_some_iff]
  constructor
  · rintro ⟨rest, ⟨t, o, hcolon, ho, hrest⟩, rfl⟩
    exact ⟨t, o, hcolon, ho, rest, hrest, rfl⟩
  · rintro ⟨t, o, hcolon, ho, rest, hrest, rfl⟩
    exact ⟨rest, ⟨t, o, hcolon, ho, hrest⟩, rfl⟩

/-- A member that belongs to a field is put there. -/
theorem Means.accept?_eq_ok_iff (h : fs.Means slots) {depth : Nat} {key : String}
    {done done' : Partial αs} {x : Reader (Partial αs)}
    (hsome : fs.accept? depth key done = some x) :
    x.run s = .ok (done', r) ↔ ∃ t o, s.dropWhile isBlank = Ascii.colon :: t ∧ Spelling t o r ∧
      slots.put? depth key o done = some done' := by
  induction h with
  | nil => cases hsome
  | @cons α αs f slot fs slots hname _ hread _ ih =>
    obtain ⟨value, done⟩ := done
    simp only [accept?, hname] at hsome
    simp only [Slots.put?]
    split at hsome
    · rename_i hkey
      simp only [if_pos hkey]
      cases hsome
      -- A field that has a value already refuses another one.
      cases value with
      | some v => exact ⟨nofun, nofun⟩
      | none => exact run_field_eq_ok_iff (hread depth)
    · rename_i hkey
      simp only [if_neg hkey]
      obtain ⟨y, hy, rfl⟩ := Option.map_eq_some_iff.1 hsome
      exact run_later_eq_ok_iff (ih hy)

/-- Reading one member of a record is putting it into the slot its key names. -/
theorem Means.meansMember (h : fs.Means slots) (depth : Nat) (done : Partial αs) :
    (fs.member depth done).MeansMember fun m =>
      m.1.bind fun key => slots.put? depth key m.2 done := by
  intro s done' r
  rw [member, run_bind_eq_ok_iff]
  constructor
  · rintro ⟨key, t, hkey, hrun⟩
    obtain ⟨hbody, hspelled⟩ := text_eq_ok_iff.1 hkey
    -- A key that a field accepts is read into it; any other has its value skipped.
    split at hrun
    · rename_i x hx
      obtain ⟨u, o, hcolon, ho, hput⟩ := (h.accept?_eq_ok_iff hx).1 hrun
      exact ⟨_, .intro hbody hcolon ho, by rw [hspelled]; exact hput⟩
    · rename_i hnone
      obtain ⟨_, u, hcolon, hrun⟩ := run_bind_eq_ok_iff.1 hrun
      obtain ⟨_, v, hskip, hrun⟩ := run_bind_eq_ok_iff.1 hrun
      obtain ⟨rfl, rfl⟩ := run_pure_eq_ok_iff.1 hrun
      obtain ⟨o, ho⟩ := skipValue_eq_ok_iff.1 hskip
      exact ⟨_, .intro hbody (colon_eq_ok_iff.1 hcolon) ho,
        by rw [hspelled]; exact h.put?_of_accept? hnone o⟩
  · rintro ⟨m, hm, hput⟩
    cases hm with
    | @intro _ t u _ o hbody hcolon ho =>
      obtain ⟨key, hkey, hput⟩ := Option.bind_eq_some_iff.1 hput
      refine ⟨key, t, text_eq_ok_iff.2 ⟨hbody, hkey⟩, ?_⟩
      split
      · rename_i x hx
        exact (h.accept?_eq_ok_iff hx).2 ⟨u, o, hcolon, ho, hput⟩
      · rename_i hnone
        cases (h.put?_of_accept? hnone o).symm.trans hput
        refine run_bind_eq_ok_iff.2 ⟨(), u, colon_eq_ok_iff.2 hcolon, ?_⟩
        exact run_bind_eq_ok_iff.2 ⟨(), r, skipValue_eq_ok_iff.2 ⟨o, ho⟩, rfl⟩

/-! ### Written as a map -/

/-- Members whose keys are texts, one after the other. -/
theorem foldlM_keyed {depth : Nat} (ms : List (Option String × Outline)) (slots : Slots αs)
    (done : Partial αs) :
    ms.foldlM (fun done m => m.1.bind fun key => slots.put? depth key m.2 done) done =
      ms.mapM Slots.keyed? >>= fun ms =>
        ms.foldlM (fun done m => slots.put? depth m.1 m.2 done) done := by
  induction ms generalizing done with
  | nil => rfl
  | cons m ms ih =>
    obtain ⟨key, o⟩ := m
    rw [List.foldlM_cons, List.mapM_cons]
    cases key with
    | none => rfl
    | some key =>
      -- Where a member is refused, it does not matter whether every later key is a text.
      simp only [Slots.keyed?, Option.bind_some, Option.map_some, Option.bind_eq_bind]
      cases hput : slots.put? depth key o done with
      | none => cases ms.mapM Slots.keyed? <;> simp [hput]
      | some done' =>
        rw [Option.bind_some, ih done']
        cases ms.mapM Slots.keyed? <;> simp [hput]

/-- The members of a record are taken if its fields have values among them. -/
theorem Means.members_eq_ok_iff (h : fs.Means slots) (hn : slots.names.Nodup) {depth : Nat}
    {vs : Values αs} :
    (∃ done, (members (fs.member depth) fs.blank).run s = .ok (done, r) ∧
      fs.complete done = .ok vs) ↔
      ∃ ms, Members s ms r ∧ slots.of? (depth + 1) (.map ms) = some vs := by
  have hcomplete : ∀ done, fs.complete done = .ok vs ↔ slots.complete? done = some vs := by
    intro done
    rw [← h.toOption_complete done]
    cases fs.complete done <;> simp [Except.toOption]
  -- Folding over the members as they come is filling each slot from all of them.
  have hmembers : ∀ ms : List (Option String × Outline),
      (ms.foldlM (fun done m => m.1.bind fun key => slots.put? depth key m.2 done) fs.blank >>=
        slots.complete?) = slots.of? (depth + 1) (.map ms) := by
    intro ms
    rw [h.blank_eq, foldlM_keyed, Slots.of?, bind_assoc]
    refine bind_congr fun ms => ?_
    rw [Slots.foldlM_put?_eq hn, Slots.extend?_blank]
  simp only [Reader.members_eq_ok_iff fun done => h.meansMember depth done, hcomplete]
  constructor
  · rintro ⟨done, ⟨ms, hms, hfold⟩, hvs⟩
    refine ⟨ms, hms, ?_⟩
    rw [← hmembers, hfold]
    exact hvs
  · rintro ⟨ms, hms, hvs⟩
    rw [← hmembers] at hvs
    obtain ⟨done, hfold, hvs⟩ := Option.bind_eq_some_iff.1 hvs
    exact ⟨done, ⟨ms, hms, hfold⟩, hvs⟩

/-! ### Written as a sequence -/

/-- The elements that are left of a sequence: from its opening bracket on, or behind an element. -/
def Rest (first : Bool) : Bytes → List Outline → Bytes → Prop :=
  if first then Items else LaterItems

/-- Where the next element begins, its comma taken. -/
inductive Next : Bool → Bytes → Bytes → Prop
  | first {s t : Bytes} (front : s.dropWhile isBlank = t) : Next true s t
  | later {s t u : Bytes} (front : s.dropWhile isBlank = comma :: t)
      (item : t.dropWhile isBlank = u) : Next false s u

/-- Where an element starts there is no blank left to skip. -/
theorem Next.dropWhile_eq {first : Bool} {t : Bytes} (h : Next first s t) :
    t.dropWhile isBlank = t := by
  cases h with
  | first front => rw [← front, dropWhile_isBlank_idem]
  | later _ item => rw [← item, dropWhile_isBlank_idem]

/-- The items end at a closing bracket, blanks apart. -/
theorem rest_nil_iff {first : Bool} :
    Rest first s [] r ↔ s.dropWhile isBlank = closeBracket :: r := by
  cases first with
  | true =>
    constructor
    · rintro ⟨front⟩
      exact front
    · exact .none
  | false =>
    constructor
    · rintro ⟨front⟩
      exact front
    · exact .done

/-- Another item is a separator, a value, and the items after it. -/
theorem rest_cons_iff {first : Bool} {o : Outline} {os : List Outline} :
    Rest first s (o :: os) r ↔
      ∃ t u, Next first s t ∧ Spelling t o u ∧ Rest false u os r := by
  -- The first element has nothing before it, any later one a comma.
  cases first with
  | true =>
    constructor
    · intro h
      cases h with
      | some first later => exact ⟨_, _, .first rfl, spelling_dropWhile.2 first, later⟩
    · rintro ⟨t, u, ⟨rfl⟩, hitem, later⟩
      exact .some (spelling_dropWhile.1 hitem) later
  | false =>
    constructor
    · intro h
      cases h with
      | next front item later =>
        exact ⟨_, _, .later front rfl, spelling_dropWhile.2 item, later⟩
    · intro h
      obtain ⟨t, u, hnext, hitem, later⟩ := h
      cases hnext with
      | later front hitem' =>
        subst hitem'
        exact .next front (spelling_dropWhile.1 hitem) later

/-- An element stands before the closing bracket. -/
theorem Next.ne_closeBracket {first : Bool} {t u : Bytes} {o : Outline} (h : Next first s t)
    (item : Spelling t o u) : ∃ b v, t = b :: v ∧ b ≠ closeBracket := by
  obtain ⟨b, v, hfront, hb⟩ := item.exists_front
  rw [h.dropWhile_eq] at hfront
  exact ⟨b, v, hfront, Outline.ne_closeBracket_of_begins hb⟩

/-- Behind an element and in front of the closing bracket there is no other. -/
theorem rest_false_of_dropWhile {z : Bytes} {os : List Outline}
    (hs : s.dropWhile isBlank = closeBracket :: z) (h : Rest false s os r) : os = [] := by
  cases os with
  | nil => rfl
  | cons o os =>
    obtain ⟨t, u, hnext, -⟩ := rest_cons_iff.1 h
    cases hnext with
    | later front => exact absurd (hs.symm.trans front) (by simp [closeBracket, comma])

/-- A sequence is over at its closing bracket, and nothing is taken. -/
theorem hasNext_eq_false_iff {first : Bool} {t : Bytes} :
    (hasNext first).run s = .ok (false, t) ↔
      s.dropWhile isBlank = t ∧ ∃ u, t = closeBracket :: u := by
  rw [hasNext, run_peek_eq_ok_iff rfl]
  constructor
  · rintro ⟨b, u, hs, hrun⟩
    dsimp only at hrun
    split at hrun
    · rename_i hb
      obtain ⟨-, rfl⟩ := run_pure_eq_ok_iff.1 hrun
      exact ⟨hs, u, by rw [hb]⟩
    -- Neither a first element nor a later one is announced here.
    split at hrun
    · cases hrun
    split at hrun
    · rw [run_skip_bind, run_peek_eq_ok_iff rfl] at hrun
      obtain ⟨c, v, -, hrun⟩ := hrun
      dsimp only at hrun
      split at hrun <;> cases hrun
    · cases hrun
  · rintro ⟨hs, u, rfl⟩
    exact ⟨_, u, hs, rfl⟩

/-- Else another element follows. -/
theorem hasNext_eq_true_iff {first : Bool} {t : Bytes} :
    (hasNext first).run s = .ok (true, t) ↔
      Next first s t ∧ ∃ b u, t = b :: u ∧ b ≠ closeBracket := by
  rw [hasNext, run_peek_eq_ok_iff rfl]
  constructor
  · rintro ⟨b, u, hs, hrun⟩
    dsimp only at hrun
    split at hrun
    · cases hrun
    rename_i hclose
    split at hrun
    · rename_i hfirst
      subst hfirst
      obtain ⟨-, rfl⟩ := run_pure_eq_ok_iff.1 hrun
      exact ⟨.first hs, b, u, rfl, hclose⟩
    -- A later element needs its comma, and something other than the end behind it.
    rename_i hlater
    cases Bool.eq_false_iff.2 hlater
    split at hrun
    · rename_i hcomma
      subst hcomma
      rw [run_skip_bind, run_peek_eq_ok_iff rfl] at hrun
      obtain ⟨c, v, hu, hrun⟩ := hrun
      dsimp only at hrun
      split at hrun
      · cases hrun
      · rename_i hnext
        obtain ⟨-, rfl⟩ := run_pure_eq_ok_iff.1 hrun
        exact ⟨.later hs hu, c, v, rfl, hnext⟩
    · cases hrun
  · rintro ⟨hnext, b, u, rfl, hclose⟩
    cases hnext with
    | first front =>
      refine ⟨b, u, front, ?_⟩
      simp only [if_neg hclose]
      rfl
    | later front item =>
      refine ⟨_, _, front, ?_⟩
      simp only [if_neg (show ¬ comma = closeBracket by decide), Bool.false_eq_true, ↓reduceIte]
      rw [run_skip_bind, run_peek_eq_ok_iff rfl]
      refine ⟨b, u, item, ?_⟩
      simp only [if_neg hclose]
      rfl

/-- The list is closed exactly by a closing bracket, blanks apart. -/
theorem closeList_eq_ok_iff {u : Unit} :
    closeList.run s = .ok (u, r) ↔ s.dropWhile isBlank = closeBracket :: r := by
  rw [closeList, run_peek_eq_ok_iff rfl]
  constructor
  · rintro ⟨b, t, hs, hrun⟩
    dsimp only at hrun
    split at hrun
    · rename_i hb
      subst hb
      cases hrun
      exact hs
    · cases hrun
  · intro hs
    exact ⟨_, r, hs, rfl⟩

/-- One value, then another. -/
theorem run_pair_eq_ok_iff {α β : Type} {x : Reader α} {y : Reader β} {p : α × β} :
    (do let v ← x; return (v, ← y) : Reader (α × β)).run s = .ok (p, r) ↔
      ∃ t, x.run s = .ok (p.1, t) ∧ y.run t = .ok (p.2, r) := by
  rw [run_bind_eq_ok_iff]
  simp only [run_map_eq_ok_iff]
  constructor
  · rintro ⟨v, t, hx, w, hy, rfl⟩
    exact ⟨t, hx, hy⟩
  · rintro ⟨t, hx, hy⟩
    exact ⟨p.1, t, hx, p.2, hy, rfl⟩

/-- Where an element follows, it is the value of the next field. -/
theorem elements_of_hasNext {α : Type} {f : Field α} {depth : Nat} {expected : String}
    {index : Nat} {t : Bytes} {v : α} {vs : Values αs}
    (h : (hasNext (index == 0)).run s = .ok (true, t)) :
    (elements depth expected (.cons f fs) index).run s = .ok ((v, vs), r) ↔
      ∃ u, (f.read depth).run t = .ok (v, u) ∧
        (fs.elements depth expected (index + 1)).run u = .ok (vs, r) := by
  have hrun : (elements depth expected (.cons f fs) index).run s =
      (do
        let v ← f.read depth
        return (v, ← fs.elements depth expected (index + 1)) : Reader (α × Values αs)).run t :=
    run_bind_ok h
  rw [hrun]
  exact run_pair_eq_ok_iff

/-- At the end of a sequence, every field left has what stands for it. -/
theorem elements_of_end {α : Type} {f : Field α} {depth : Nat} {expected : String}
    {index : Nat} {t : Bytes} {v : α} {vs : Values αs}
    (h : (hasNext (index == 0)).run s = .ok (false, t)) :
    (elements depth expected (.cons f fs) index).run s = .ok ((v, vs), r) ↔
      f.fallback = some v ∧ (fs.elements depth expected (index + 1)).run t = .ok (vs, r) := by
  -- At the end nothing is read for this field, so it falls back or fails.
  have hrun : (elements depth expected (.cons f fs) index).run s =
      (match f.fallback with
        | some v => do return (v, ← fs.elements depth expected (index + 1))
        | none => do
          let v ← mismatch (.wrongLength index expected)
          return (v, ← fs.elements depth expected (index + 1)) : Reader (α × Values αs)).run t :=
    run_bind_ok h
  rw [hrun]
  cases f.fallback with
  | none => exact ⟨nofun, fun h => nomatch h.1⟩
  | some v' =>
    refine run_map_eq_ok_iff.trans ?_
    constructor
    · rintro ⟨vs', helements, heq⟩
      cases heq
      exact ⟨rfl, helements⟩
    · rintro ⟨hv, helements⟩
      cases hv
      exact ⟨vs, helements, rfl⟩

/-- The elements of a record are taken if its fields have them as values. -/
theorem Means.elements_eq_ok_iff (h : fs.Means slots) {depth : Nat} (expected : String)
    (index : Nat) {vs : Values αs} :
    (∃ t, (fs.elements depth expected index).run s = .ok (vs, t) ∧
      t.dropWhile isBlank = closeBracket :: r) ↔
      ∃ os, Rest (index == 0) s os r ∧ slots.ofItems? depth os = some vs := by
  -- On the fields: each takes an element, or finds the sequence over and leaves it so.
  induction h generalizing s index with
  | nil =>
    constructor
    · rintro ⟨t, hrun, hclose⟩
      obtain ⟨-, rfl⟩ := run_pure_eq_ok_iff.1 hrun
      exact ⟨[], rest_nil_iff.2 hclose, rfl⟩
    · rintro ⟨os, hos, hvs⟩
      cases os with
      | nil => exact ⟨s, run_pure_eq_ok_iff.2 ⟨rfl, rfl⟩, rest_nil_iff.1 hos⟩
      | cons => cases hvs
  | @cons α αs f slot fs slots _ hfallback hread _ ih =>
    obtain ⟨v, vs⟩ := vs
    constructor
    · rintro ⟨t, hrun, hclose⟩
      obtain ⟨found, u, hnext, -⟩ := run_bind_eq_ok_iff.1 hrun
      cases found with
      | true =>
        obtain ⟨w, hv, helements⟩ := (elements_of_hasNext hnext).1 hrun
        obtain ⟨os, hos, hvs⟩ := (ih (index + 1)).1 ⟨t, helements, hclose⟩
        obtain ⟨o, ho, hv⟩ := (hread depth).1 hv
        exact ⟨o :: os, rest_cons_iff.2 ⟨u, w, (hasNext_eq_true_iff.1 hnext).1, ho, hos⟩,
          Slots.ofItems?_cons_eq_some_iff.2 ⟨hv, hvs⟩⟩
      | false =>
        -- The later fields find nothing either, and what follows is still the closing bracket.
        obtain ⟨hv, helements⟩ := (elements_of_end hnext).1 hrun
        obtain ⟨os, hos, hvs⟩ := (ih (index + 1)).1 ⟨t, helements, hclose⟩
        obtain ⟨hs, z, rfl⟩ := hasNext_eq_false_iff.1 hnext
        obtain rfl : os = [] := rest_false_of_dropWhile rfl hos
        refine ⟨[], rest_nil_iff.2 ?_, Slots.ofItems?_nil_eq_some_iff.2 ⟨hfallback ▸ hv, hvs⟩⟩
        rw [← dropWhile_isBlank_idem, hs]
        exact rest_nil_iff.1 hos
    · rintro ⟨os, hos, hvs⟩
      cases os with
      | nil =>
        obtain ⟨hv, hvs⟩ := Slots.ofItems?_nil_eq_some_iff.1 hvs
        have hclose := rest_nil_iff.1 hos
        have hend : (hasNext (index == 0)).run s = .ok (false, closeBracket :: r) :=
          hasNext_eq_false_iff.2 ⟨hclose, r, rfl⟩
        obtain ⟨t, helements, ht⟩ :=
          (ih (index + 1)).2 ⟨[], rest_nil_iff.2 (hclose ▸ dropWhile_isBlank_idem s), hvs⟩
        exact ⟨t, (elements_of_end hend).2 ⟨hfallback.trans hv, helements⟩, ht⟩
      | cons o os =>
        obtain ⟨hv, hvs⟩ := Slots.ofItems?_cons_eq_some_iff.1 hvs
        obtain ⟨u, w, hnext, ho, hos⟩ := rest_cons_iff.1 hos
        have hfound := hasNext_eq_true_iff.2 ⟨hnext, hnext.ne_closeBracket ho⟩
        obtain ⟨t, helements, ht⟩ := (ih (index + 1)).2 ⟨os, hos, hvs⟩
        exact ⟨t, (elements_of_hasNext hfound).2 ⟨w, (hread depth).2 ⟨o, ho, hv⟩, helements⟩, ht⟩

end Fields

/-! ### Whole records -/

/-- **A record is read** of the maps and the sequences in which its slots have values. -/
theorem Record.means_read {αs : List Type} {β : Type} {r : Record αs β} {slots : Slots αs}
    (h : r.fields.Means slots) (hn : slots.names.Nodup) (depth : Nat) :
    (r.read depth).Means fun o => (slots.of? depth o).map r.make := by
  intro s b z
  unfold Record.read
  rw [run_peek_eq_ok_iff rfl]
  constructor
  -- A record may be spelled as an object or as an array, and no other way.
  · rintro ⟨c, t, hs, hrun⟩
    dsimp only at hrun
    split at hrun
    · rename_i hc
      subst hc
      cases depth with
      | zero => cases hrun
      | succ d =>
        obtain ⟨done, u, hmembers, hrun⟩ := run_bind_eq_ok_iff.1 (run_skip_bind .. ▸ hrun)
        cases hvs : r.fields.complete done with
        | error m =>
          rw [hvs] at hrun
          cases hrun
        | ok vs =>
          rw [hvs] at hrun
          obtain ⟨rfl, rfl⟩ := run_pure_eq_ok_iff.1 hrun
          obtain ⟨ms, hms, hof⟩ := (h.members_eq_ok_iff hn).1 ⟨done, hmembers, hvs⟩
          exact ⟨.map ms, .map hs hms, Option.map_eq_some_iff.2 ⟨vs, hof, rfl⟩⟩
    split at hrun
    · rename_i hc
      subst hc
      cases depth with
      | zero => cases hrun
      | succ d =>
        obtain ⟨vs, u, helements, hrun⟩ := run_bind_eq_ok_iff.1 (run_skip_bind .. ▸ hrun)
        obtain ⟨_, v, hclose, hrun⟩ := run_bind_eq_ok_iff.1 hrun
        obtain ⟨rfl, rfl⟩ := run_pure_eq_ok_iff.1 hrun
        obtain ⟨os, hos, hof⟩ :=
          (h.elements_eq_ok_iff r.expectedLength 0).1
            ⟨u, helements, Fields.closeList_eq_ok_iff.1 hclose⟩
        exact ⟨.sequence os, .sequence hs hos, Option.map_eq_some_iff.2 ⟨vs, hof, rfl⟩⟩
    · exact absurd hrun run_wrongType_ne_ok
  · rintro ⟨o, ho, hb⟩
    obtain ⟨vs, hof, rfl⟩ := Option.map_eq_some_iff.1 hb
    cases depth with
    | zero => cases o <;> cases hof
    | succ d =>
      cases ho with
      | @map _ t _ ms front members =>
        obtain ⟨done, hmembers, hvs⟩ := (h.members_eq_ok_iff hn).2 ⟨ms, members, hof⟩
        refine ⟨_, t, front, ?_⟩
        simp only [if_pos, run_skip_bind]
        refine run_bind_eq_ok_iff.2 ⟨done, z, hmembers, ?_⟩
        rw [hvs]
        rfl
      | @sequence _ t _ os front items =>
        obtain ⟨u, helements, hclose⟩ :=
          (h.elements_eq_ok_iff r.expectedLength 0).2 ⟨os, items, hof⟩
        refine ⟨_, t, front, ?_⟩
        simp only [if_neg (show ¬ openBracket = openBrace by decide), if_pos, run_skip_bind]
        refine run_bind_eq_ok_iff.2 ⟨vs, u, helements, ?_⟩
        exact run_bind_eq_ok_iff.2 ⟨(), z, Fields.closeList_eq_ok_iff.2 hclose, rfl⟩
      | null | true | false | number | string => cases hof

end TokenCatalog.Json
