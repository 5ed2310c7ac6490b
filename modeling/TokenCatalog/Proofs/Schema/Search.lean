import TokenCatalog.Proofs.Schema.Meaning
import TokenCatalog.Proofs.Text

namespace TokenCatalog.Schema

open Json (lookup)

/-!
# Searching for violations — the validator finds the first failure

* `typeReason?_eq_some_iff`, `enumReason?_eq_some_iff`, … — the keywords that make one check;
* `Reports` — a search for violations finds the first one of a set of failures;
* `Reports.or`, `Reports.findSome?`, `Reports.within` — searches one after the other, and in a part
  of a value;
* `reports_violation?` — **main result**: the validator searches for all failures.
-/

variable {schema value : Json} {rules : List (String × Json)} {path : Path} {c d : Check}
  {r : Reason}

/-! ### Types -/

/-- Each of the seven type names asks for the values of its own kind, and any other name for
    nothing. -/
theorem isOfType_iff {type : String} :
    IsOfType type value ↔
      (type = "object" → ∃ fields, value = .object fields) ∧
      (type = "array" → ∃ items, value = .array items) ∧
      (type = "string" → ∃ s, value = .string s) ∧
      (type = "number" → ∃ n, value = .number n) ∧
      (type = "integer" →
        (∃ n, value = .number (.natural n)) ∨ ∃ k, value = .number (.negSucc k)) ∧
      (type = "boolean" → ∃ b, value = .bool b) ∧ (type = "null" → value = .null) := by
  constructor
  · rintro ⟨h1, h2, h3, h4, h5, h6, h7⟩
    exact ⟨h1, h2, h3, h4, h5, h6, h7⟩
  · rintro ⟨h1, h2, h3, h4, h5, h6, h7⟩
    exact ⟨h1, h2, h3, h4, h5, h6, h7⟩

/-- The name of a type is looked up among those that say something. -/
theorem hasType_iff {type : String} : hasType type value = true ↔ IsOfType type value := by
  rw [isOfType_iff]
  unfold hasType
  split <;> simp_all
  -- An integer is any number but a double.
  rename_i n hfloat
  cases n with
  | natural n => exact .inl ⟨n, rfl⟩
  | negSucc k => exact .inr ⟨k, rfl⟩
  | float x => exact absurd rfl (hfloat x)

/-! ### Keywords -/

/-- The type check gives a reason exactly when the type rule fails for it. -/
theorem typeReason?_eq_some_iff :
    typeReason? rules value = some r ↔ Fails (.object rules) value .type r := by
  constructor
  · intro h
    unfold typeReason? at h
    -- A type may be given by its name or by a list of names.
    split at h
    · rename_i t hrule
      split at h
      · cases h
      · rename_i hother
        cases h
        exact .type hrule (mt hasType_iff.2 hother)
    · rename_i ts hrule
      split at h
      · cases h
      · rename_i hother
        cases h
        refine .types hrule fun t ht htype => hother ?_
        exact List.any_eq_true.2 ⟨_, ht, hasType_iff.2 htype⟩
    · cases h
  · intro h
    cases h with
    | type hrule hother => simp [typeReason?, hrule, mt hasType_iff.1 hother]
    | @types _ _ ts hrule hother =>
      have hnone : ts.any (fun t => t.text?.any (hasType · value)) = false := by
        -- An entry of the list that is no text admits nothing.
        refine List.any_eq_false.2 fun t ht htype => ?_
        cases t with
        | string t => exact hother t ht (hasType_iff.1 htype)
        | null | bool | number | array | object => cases htype
      simp [typeReason?, hrule, hnone]

/-- The check of listed values gives a reason exactly when that rule fails for it. -/
theorem enumReason?_eq_some_iff :
    enumReason? rules value = some r ↔ Fails (.object rules) value .enum r := by
  constructor
  · intro h
    unfold enumReason? at h
    split at h
    · rename_i allowed hrule
      split at h
      · cases h
      · rename_i hother
        cases h
        -- The listed values are compared by the same relation as the search uses.
        refine .enum hrule fun a ha heq => hother (List.any_eq_true.2 ⟨a, ha, ?_⟩)
        exact (Json.same_iff _ _).2 heq.symm
    · cases h
  · intro h
    cases h with
    | @enum _ _ allowed hrule hother =>
      have hnone : allowed.any value.same = false :=
        List.any_eq_false.2 fun a ha heq => hother a ha ((Json.same_iff _ _).1 heq).symm
      simp [enumReason?, hrule, hnone]

/-- The check of the least number of items gives a reason exactly when that rule fails for it. -/
theorem minItemsReason?_eq_some_iff :
    minItemsReason? rules value = some r ↔ Fails (.object rules) value .minItems r := by
  constructor
  · intro h
    unfold minItemsReason? at h
    split at h
    · rename_i hrule
      split at h
      · rename_i hfew
        cases h
        exact .minItems hrule hfew
      · cases h
    · cases h
  · intro h
    cases h with
    | minItems hrule hfew => simp [minItemsReason?, hrule, hfew]

/-! ### Searching for violations -/

/-- A search finds the first of a set of failures, if there is one. -/
structure Reports (path : Path) (o : Option Violation) (P : Check → Reason → Prop) : Prop where
  nothing : o = none → ∀ c r, ¬ P c r
  found : ∀ w, o = some w → ∃ c, P c w.reason ∧ w.path = path ++ c.path ∧
    ∀ d q, P d q → d = c ∨ c.Before d

namespace Reports

variable {o o' : Option Violation} {P Q : Check → Reason → Prop}

/-- A report of one condition is a report of any condition equal to it. -/
theorem congr (h : Reports path o P) (heq : ∀ c r, P c r ↔ Q c r) : Reports path o Q where
  nothing ho c r hc := h.nothing ho c r ((heq c r).2 hc)
  found w ho := by
    obtain ⟨c, hc, hpath, hfirst⟩ := h.found w ho
    exact ⟨c, (heq c _).1 hc, hpath, fun d q hd => hfirst d q ((heq d q).2 hd)⟩

/-- Where nothing fails, there is nothing to find. -/
theorem empty (h : ∀ c r, ¬ P c r) : Reports path none P where
  nothing _ := h
  found _ ho := by cases ho

/-- Two searches, the second for what comes later. -/
theorem or (hP : Reports path o P) (hQ : Reports path o' Q)
    (hbefore : ∀ c r d q, P c r → Q d q → c.Before d) :
    Reports path (o.or o') fun c r => P c r ∨ Q c r where
  nothing ho c r hc := by
    obtain ⟨ho, ho'⟩ := Option.or_eq_none_iff.1 ho
    rcases hc with hc | hc
    · exact hP.nothing ho c r hc
    · exact hQ.nothing ho' c r hc
  found w ho := by
    rcases Option.or_eq_some_iff.1 ho with ho | ⟨ho, ho'⟩
    · obtain ⟨c, hc, hpath, hfirst⟩ := hP.found w ho
      refine ⟨c, .inl hc, hpath, fun d q hd => ?_⟩
      -- What the first search finds comes before anything the second could find.
      rcases hd with hd | hd
      · exact hfirst d q hd
      · exact .inr (hbefore c _ d q hc hd)
    · obtain ⟨c, hc, hpath, hfirst⟩ := hQ.found w ho'
      refine ⟨c, .inr hc, hpath, fun d q hd => ?_⟩
      rcases hd with hd | hd
      -- The first search has found nothing, so nothing of its range fails.
      · exact absurd hd (hP.nothing ho d q)
      · exact hfirst d q hd

/-- One search after the other. -/
theorem findSome? {α : Type} {xs : List α} {f : α → Option Violation}
    {P : α → Check → Reason → Prop} (h : ∀ x ∈ xs, Reports path (f x) (P x))
    (hbefore : xs.Pairwise fun x y => ∀ c r d q, P x c r → P y d q → c.Before d) :
    Reports path (xs.findSome? f) fun c r => ∃ x ∈ xs, P x c r := by
  induction xs with
  | nil => exact empty fun c r ⟨x, hx, _⟩ => by cases hx
  | cons x xs ih =>
    obtain ⟨hx, hxs⟩ := List.forall_mem_cons.1 h
    obtain ⟨hfirst, hrest⟩ := List.pairwise_cons.1 hbefore
    have hfind : (x :: xs).findSome? f = (f x).or (xs.findSome? f) := by
      rw [List.findSome?_cons]
      cases f x <;> rfl
    rw [hfind]
    refine (hx.or (ih hxs hrest) ?_).congr fun c r => ?_
    · rintro c r d q hc ⟨y, hy, hd⟩
      exact hfirst y hy c r d q hc hd
    · simp

/-- A search for one failure. -/
theorem single {o : Option Reason} (hpath : c.path = []) :
    Reports path (o.map (Violation.mk path)) fun d r => d = c ∧ o = some r where
  nothing ho d r := by
    rw [Option.map_eq_none_iff] at ho
    simp [ho]
  found w ho := by
    obtain ⟨r, hr, rfl⟩ := Option.map_eq_some_iff.1 ho
    exact ⟨c, ⟨rfl, hr⟩, by simp [hpath], fun d q hd => .inl hd.1⟩

/-- A search in a part of a value. -/
theorem within {step : Step} (wrap : Check → Check) (hpath : ∀ c, (wrap c).path = step :: c.path)
    (hbefore : ∀ c d, c.Before d → (wrap c).Before (wrap d)) (h : Reports (path ++ [step]) o P) :
    Reports path o fun c r => ∃ d, c = wrap d ∧ P d r where
  nothing ho := by
    rintro c r ⟨d, -, hd⟩
    exact h.nothing ho d r hd
  found w ho := by
    obtain ⟨c, hc, hw, hfirst⟩ := h.found w ho
    refine ⟨wrap c, ⟨c, rfl, hc⟩, by rw [hw, hpath]; simp, ?_⟩
    rintro _ q ⟨d, rfl, hd⟩
    rcases hfirst d q hd with rfl | hbetween
    · exact .inl rfl
    · exact .inr (hbefore c d hbetween)

end Reports

/-! ### The parts of a search -/

/-- The checks of an object that fail among those from one stage to another. -/
def FailsWithin (rules : List (String × Json)) (value : Json) (first last : Nat) (c : Check)
    (r : Reason) : Prop :=
  first ≤ c.stage ∧ c.stage < last ∧ Fails (.object rules) value c r

/-- Reports of two neighbouring ranges of checks make a report of both, the first range first. -/
theorem Reports.through {first middle last : Nat} {o o' : Option Violation}
    (h : Reports path o (FailsWithin rules value first middle))
    (h' : Reports path o' (FailsWithin rules value middle last))
    (hle : first ≤ middle ∧ middle ≤ last) :
    Reports path (o.or o') (FailsWithin rules value first last) := by
  refine (h.or h' ?_).congr fun c r => ?_
  · rintro c r d q ⟨-, hc, -⟩ ⟨hd, -, -⟩
    exact .stage (by omega)
  · constructor
    · rintro (⟨h1, h2, h3⟩ | ⟨h1, h2, h3⟩)
      · exact ⟨by omega, by omega, h3⟩
      · exact ⟨by omega, by omega, h3⟩
    · rintro ⟨h1, h2, h3⟩
      by_cases hc : c.stage < middle
      · exact .inl ⟨h1, hc, h3⟩
      · exact .inr ⟨by omega, h2, h3⟩

/-- A keyword that makes one check. -/
theorem reports_keyword {o : Option Reason}
    (hfails : ∀ r, o = some r ↔ Fails (.object rules) value c r) (hpath : c.path = []) (halone : ∀ d : Check, d.stage = c.stage → d = c) :
    Reports path (o.map (Violation.mk path)) (FailsWithin rules value c.stage (c.stage + 1)) := by
  refine (Reports.single hpath).congr fun d r => ?_
  rw [hfails]
  constructor
  · rintro ⟨rfl, h⟩
    exact ⟨Nat.le_refl _, Nat.lt_succ_self _, h⟩
  · rintro ⟨hfirst, hlast, h⟩
    obtain rfl := halone d (by omega)
    exact ⟨rfl, h⟩

/-- The type check reports on the first rule. -/
theorem reports_type :
    Reports path ((typeReason? rules value).map (Violation.mk path))
      (FailsWithin rules value 0 1) := by
  refine reports_keyword (c := .type) (fun r => typeReason?_eq_some_iff) rfl fun d hd => ?_
  cases d <;> simp [Check.stage] at hd ⊢

/-- The check of listed values reports on the second rule. -/
theorem reports_enum :
    Reports path ((enumReason? rules value).map (Violation.mk path))
      (FailsWithin rules value 1 2) := by
  refine reports_keyword (c := .enum) (fun r => enumReason?_eq_some_iff) rfl fun d hd => ?_
  cases d <;> simp [Check.stage] at hd ⊢

/-- The check of the least number of items reports on the fifth rule. -/
theorem reports_minItems :
    Reports path ((minItemsReason? rules value).map (Violation.mk path))
      (FailsWithin rules value 4 5) := by
  refine reports_keyword (c := .minItems) (fun r => minItemsReason?_eq_some_iff) rfl fun d hd => ?_
  cases d <;> simp [Check.stage] at hd ⊢

/-- Names are searched in the order in which they are required. -/
theorem requiredReason?_eq_findSome? {names : List Json} {fields : List (String × Json)}
    (hrule : lookup rules "required" = some (.array names)) :
    (requiredReason? rules (.object fields)).map (Violation.mk path) =
      names.zipIdx.findSome? fun n =>
        ((n.1.text?.filter fun name => (lookup fields name).isNone).map Reason.missingProperty).map
          (Violation.mk path) := by
  have hreason : requiredReason? rules (.object fields) =
      (((names.zipIdx.map (·.1)).filterMap Json.text?).find?
        fun name => (lookup fields name).isNone).map .missingProperty := by
    unfold requiredReason?
    rw [List.zipIdx_map_fst, hrule]
  rw [hreason]
  -- The indices do not matter for the search.
  generalize names.zipIdx = ns
  induction ns with
  | nil => rfl
  | cons n ns ih =>
    rw [List.findSome?_cons, List.map_cons, List.filterMap_cons]
    cases n.1.text? with
    | none => exact ih
    | some name =>
      rw [List.find?_cons, Option.filter_some]
      cases (lookup fields name).isNone with
      | true => rfl
      | false => exact ih

/-- The places of a list go up. -/
theorem pairwise_zipIdx {α : Type} (xs : List α) : xs.zipIdx.Pairwise fun a b => a.2 < b.2 := by
  refine List.pairwise_iff_getElem.2 fun i j hi hj hij => ?_
  simpa using hij

/-- The check of required names reports on the third rule. -/
theorem reports_required :
    Reports path ((requiredReason? rules value).map (Violation.mk path))
      (FailsWithin rules value 2 3) := by
  by_cases hrule : ∃ names fields,
      lookup rules "required" = some (.array names) ∧ value = .object fields
  -- The names are gone through in their order.
  · obtain ⟨names, fields, hrule, rfl⟩ := hrule
    rw [requiredReason?_eq_findSome? hrule]
    refine (Reports.findSome?
      (fun n _ => Reports.single (c := .required n.2) rfl)
      ((pairwise_zipIdx names).imp fun {m n} hlt => ?_)).congr fun c r => ?_
    · rintro _ _ _ _ ⟨rfl, -⟩ ⟨rfl, -⟩
      exact .required hlt
    · constructor
      · rintro ⟨⟨n, i⟩, hn, rfl, hr⟩
        obtain ⟨name, hname, rfl⟩ := Option.map_eq_some_iff.1 hr
        obtain ⟨htext, habsent⟩ := Option.filter_eq_some_iff.1 hname
        have hat : names[i]? = some (.string name) := by
          rw [List.mem_zipIdx_iff_getElem?.1 hn]
          cases n with
          | string s =>
            cases htext
            rfl
          | null | bool | number | array | object => cases htext
        exact ⟨Nat.le_refl _, Nat.lt_succ_self _,
          .required hrule hat (Option.isNone_iff_eq_none.1 habsent)⟩
      · rintro ⟨hfirst, hlast, h⟩
        cases h with
        | @required _ _ names' i name hrule' hat habsent =>
          cases hrule.symm.trans hrule'
          refine ⟨(.string name, i), List.mem_zipIdx_iff_getElem?.2 hat, rfl, ?_⟩
          simp [Json.text?, Option.filter_some, habsent]
        | type | types | enum | property => simp [Check.stage] at hfirst hlast
  · have hnone : requiredReason? rules value = none := by
      -- Without such a rule, or on another kind of value, nothing is required.
      unfold requiredReason?
      split
      · rename_i names fields hnames
        exact absurd ⟨names, fields, hnames, rfl⟩ hrule
      · rfl
    rw [hnone]
    refine .empty ?_
    rintro c r ⟨hfirst, hlast, h⟩
    cases h with
    | required hrule' => exact hrule ⟨_, _, hrule', rfl⟩
    | type | types | enum | property | minItems | item => simp [Check.stage] at hfirst hlast

/-- The first violation of a property, properties by name. -/
def propertyViolation? (rules : List (String × Json)) (value : Json) (path : Path) :
    Option Violation :=
  match lookup rules "properties", value with
  | some (.object props), .object fields =>
    props.findSome? fun p =>
      (lookup fields p.1).bind fun v => violation? p.2 v (path ++ [.property p.1])
  | _, _ => none

/-- The first violation of an item, items by index. -/
def itemViolation? (rules : List (String × Json)) (value : Json) (path : Path) :
    Option Violation :=
  match lookup rules "items", value with
  | some sub, .array items =>
    items.zipIdx.findSome? fun v => violation? sub v.1 (path ++ [.item v.2])
  | _, _ => none

/-- Under an object's rules the checks are run in their order and the first that fails counts. -/
theorem violation?_object :
    violation? (.object rules) value path =
      (((typeReason? rules value).map (Violation.mk path)).or
        (((enumReason? rules value).map (Violation.mk path)).or
          ((requiredReason? rules value).map (Violation.mk path)))).or
      ((propertyViolation? rules value path).or
        (((minItemsReason? rules value).map (Violation.mk path)).or
          (itemViolation? rules value path))) := by
  unfold violation?
  dsimp only
  rw [Option.map_or, Option.map_or]
  congr 2
  -- The search attaches to each member that it is one; that changes nothing.
  · unfold propertyViolation?
    split
    · rename_i props fields hrule
      simp only [hrule]
      conv => rhs; rw [← List.attach_map_subtype_val props, List.findSome?_map]
      congr 1
      funext p
      show _ = (lookup fields p.1.1).bind _
      cases lookup fields p.1.1 <;> rfl
    · rename_i hnone
      split
      · rename_i props fields hrule
        exact absurd rfl (hnone props fields hrule)
      · rfl
  · congr 1
    unfold itemViolation?
    split
    · rename_i hrule
      simp only [hrule]
    · rename_i hnone
      split
      · rename_i sub items hrule
        exact absurd rfl (hnone sub items hrule)
      · rfl

/-- Properties come in the order of their names. -/
theorem reports_property (hrules : (Json.object rules).IsCanonical)
    (ih : ∀ props, lookup rules "properties" = some (.object props) → ∀ name sub,
      (name, sub) ∈ props → sub.IsCanonical → ∀ v,
        Reports (path ++ [.property name]) (violation? sub v (path ++ [.property name]))
          (Fails sub v)) :
    Reports path (propertyViolation? rules value path) (FailsWithin rules value 3 4) := by
  by_cases hrule : ∃ props fields,
      lookup rules "properties" = some (.object props) ∧ value = .object fields
  · obtain ⟨props, fields, hrule, rfl⟩ := hrule
    obtain ⟨hasc, hvalues⟩ :=
      Json.isCanonical_object_iff.1 (Json.isCanonical_of_lookup hrules hrule)
    have hsearch : propertyViolation? rules (.object fields) path = props.findSome? fun p =>
        (lookup fields p.1).bind fun v => violation? p.2 v (path ++ [.property p.1]) := by
      unfold propertyViolation?
      rw [hrule]
    -- A property that the value has is searched, and nothing is to be found of any other.
    have hone : ∀ p ∈ props, Reports path
        ((lookup fields p.1).bind fun v => violation? p.2 v (path ++ [.property p.1]))
        fun c r => ∃ d, c = .property p.1 d ∧ ∃ v, lookup fields p.1 = some v ∧ Fails p.2 v d r := by
      intro p hp
      cases hfield : lookup fields p.1 with
      | none => exact .empty (by simp)
      | some v =>
        refine (Reports.within (.property p.1) (fun _ => rfl) (fun _ _ => .property)
          (ih props hrule p.1 p.2 hp (hvalues p hp) v)).congr fun c r => ?_
        simp
    rw [hsearch]
    refine (Reports.findSome? hone (hasc.imp fun {p q} hlt => ?_)).congr fun c r => ?_
    · rintro _ _ _ _ ⟨c, rfl, -⟩ ⟨d, rfl, -⟩
      exact .name (Bytes.ofText_lt_ofText hlt)
    · constructor
      · rintro ⟨p, hp, d, rfl, v, hfield, h⟩
        exact ⟨Nat.le_refl _, Nat.lt_succ_self _,
          .property hrule (Json.lookup_of_mem hasc hp) hfield h⟩
      · rintro ⟨hfirst, hlast, h⟩
        cases h with
        | property hrule' hsub hfield hfails =>
          cases hrule.symm.trans hrule'
          exact ⟨_, Json.mem_of_lookup hsub, _, rfl, _, hfield, hfails⟩
        | type | types | enum | required => simp [Check.stage] at hfirst hlast
  · have hnone : propertyViolation? rules value path = none := by
      unfold propertyViolation?
      split
      · rename_i props fields hprops
        exact absurd ⟨props, fields, hprops, rfl⟩ hrule
      · rfl
    rw [hnone]
    refine .empty ?_
    rintro c r ⟨hfirst, hlast, h⟩
    cases h with
    | property hrule' => exact hrule ⟨_, _, hrule', rfl⟩
    | type | types | enum | required | minItems | item => simp [Check.stage] at hfirst hlast

/-- Items come in the order of their indices. -/
theorem reports_item (hrules : (Json.object rules).IsCanonical)
    (ih : ∀ sub, lookup rules "items" = some sub → sub.IsCanonical → ∀ v i,
      Reports (path ++ [.item i]) (violation? sub v (path ++ [.item i])) (Fails sub v)) :
    Reports path (itemViolation? rules value path) (FailsWithin rules value 5 6) := by
  by_cases hrule : ∃ sub items, lookup rules "items" = some sub ∧ value = .array items
  · obtain ⟨sub, items, hrule, rfl⟩ := hrule
    -- The items are gone through in their order, each with its own path.
    have hsub : sub.IsCanonical := Json.isCanonical_of_lookup hrules hrule
    have hsearch : itemViolation? rules (.array items) path =
        items.zipIdx.findSome? fun v => violation? sub v.1 (path ++ [.item v.2]) := by
      unfold itemViolation?
      rw [hrule]
    rw [hsearch]
    refine (Reports.findSome? (fun v _ => Reports.within (.item v.2) (fun _ => rfl)
      (fun _ _ => .item) (ih sub hrule hsub v.1 v.2))
      ((pairwise_zipIdx items).imp fun {v w} hlt => ?_)).congr fun c r => ?_
    · rintro _ _ _ _ ⟨c, rfl, -⟩ ⟨d, rfl, -⟩
      exact .index hlt
    · constructor
      · rintro ⟨⟨v, i⟩, hv, d, rfl, h⟩
        exact ⟨Nat.le_refl _, Nat.lt_succ_self _,
          .item hrule (List.mem_zipIdx_iff_getElem?.1 hv) h⟩
      · rintro ⟨hfirst, hlast, h⟩
        cases h with
        | @item _ _ i _ v _ _ hrule' hat hfails =>
          cases hrule.symm.trans hrule'
          exact ⟨(v, i), List.mem_zipIdx_iff_getElem?.2 hat, _, rfl, hfails⟩
        | type | types | enum | minItems => simp [Check.stage] at hfirst hlast
  · have hnone : itemViolation? rules value path = none := by
      -- Without such a rule, or on another kind of value, no item is looked at.
      unfold itemViolation?
      split
      · rename_i sub items hitems
        exact absurd ⟨sub, items, hitems, rfl⟩ hrule
      · rfl
    rw [hnone]
    refine .empty ?_
    rintro c r ⟨hfirst, hlast, h⟩
    cases h with
    | item hrule' => exact hrule ⟨_, _, hrule', rfl⟩
    | type | types | enum | required | property | minItems => simp [Check.stage] at hfirst hlast

/-- The checks of an object that fail are those of its six stages. -/
theorem failsWithin_iff : FailsWithin rules value 0 6 c r ↔ Fails (.object rules) value c r := by
  constructor
  · rintro ⟨-, -, h⟩
    exact h
  · intro h
    refine ⟨Nat.zero_le _, ?_, h⟩
    cases c <;> simp [Check.stage]

/-- **The validator reports** the first of all checks that fail. -/
theorem reports_violation? (hs : schema.IsCanonical) (value : Json) (path : Path) :
    Reports path (violation? schema value path) (Fails schema value) := by
  induction schema, value, path using violation?.induct with
  | case1 value path rules ihprops ihitems =>
    have hproperty : Reports path (propertyViolation? rules value path)
        (FailsWithin rules value 3 4) :=
      reports_property hs fun props hrule name sub hmem hsub v =>
        ihprops props hrule name sub hmem v hsub
    have hitem : Reports path (itemViolation? rules value path) (FailsWithin rules value 5 6) :=
      reports_item hs fun sub hrule hsub v i => ihitems sub hrule v i hsub
    -- The checks of the value itself come before those inside properties and items.
    have hown : Reports path _ (FailsWithin rules value 0 3) :=
      reports_type.through (reports_enum.through reports_required (by decide)) (by decide)
    have hnested : Reports path _ (FailsWithin rules value 3 6) :=
      hproperty.through (reports_minItems.through hitem (by decide)) (by decide)
    rw [violation?_object]
    exact (hown.through hnested (by decide)).congr fun c r => failsWithin_iff
  -- A schema that is no object asks for nothing.
  | case2 schema value path hexotic =>
    have hnone : violation? schema value path = none := by
      unfold violation?
      split
      · exact absurd rfl (hexotic _)
      · rfl
    rw [hnone]
    refine .empty fun c r h => ?_
    cases h <;> exact hexotic _ rfl

end TokenCatalog.Schema
