import TokenCatalog.Proofs.ListFormat.Enumeration
import TokenCatalog.Proofs.Snapshot.Agreement

namespace TokenCatalog

open ContentStore (manifestId nativeId customId)

/-!
# Enumeration — when a snapshot depends on the order of hash maps

Contents, formats and platforms are only looked up or put into order by their keys, so the order in
which they come is lost.  What is left of it is what the lists that are read make of it.

* `Config.Ambiguous` — the copy that is read of a list has an ambiguous record;
* `foundInOrder?_eq_iff` — exactly then the list depends on the order;
* `orders_agree` — snapshots agree but for ambiguous records.
-/

/-! ### Reading a list -/

/-- Computations with the same success are the same. -/
theorem eq_of_toOption_eq {ε α : Type} {x y : Except ε α} (h : x.toOption = y.toOption)
    (hx : x.toOption.isSome) : x = y := by
  obtain ⟨a, ha⟩ := Option.isSome_iff_exists.1 hx
  have hxa : x = .ok a := toOption_eq_some_iff.1 ha
  have hya : y = .ok a := toOption_eq_some_iff.1 (h.symm.trans ha)
  exact hxa.trans hya.symm

/-- The first result is that of the first element which has one. -/
theorem findSome?_eq_bind_find? {α β : Type} {f : α → Option β} {p : α → Bool}
    (h : ∀ x, (f x).isSome = p x) (xs : List α) : xs.findSome? f = (xs.find? p).bind f := by
  induction xs with
  | nil => rfl
  | cons x xs ih =>
    rw [List.findSome?_cons, List.find?_cons, ← h x]
    cases hx : f x with
    | none => exact ih
    | some b => simp [hx]

namespace Config

variable (c : Config) (s : Sources)

/-- The copy of a list that is read. -/
def copyOf? (id : String) : Option Copy :=
  (copies s.cache id (c.shipped? id)).find? fun copy => (c.formatOf id).reads copy.1

/-- The copy that is read of a list has a record that is ambiguous. -/
def Ambiguous (id : String) : Prop :=
  ∃ copy, c.copyOf? s id = some copy ∧ c.formatOf id = .status ∧
    ListFormat.Status.Ambiguous copy.1 c.chains

variable {c s}

theorem reads_of_copyOf? {id : String} {copy : Copy} (h : c.copyOf? s id = some copy) :
    (c.formatOf id).reads copy.1 :=
  List.find?_some (p := fun copy : Copy => (c.formatOf id).reads copy.1) h

theorem foundInOrder?_eq (o : Snapshot.Orders) (id : String) :
    c.foundInOrder? o s id = (c.copyOf? s id).bind fun copy =>
      ((c.formatOf id).parseInOrder (o.lists id) copy.1 copy.2 c.chains).toOption := by
  rw [foundInOrder?_eq_findSome?]
  exact findSome?_eq_bind_find? (fun _ => ListFormat.isSome_parseInOrder _ _ _ _ _) _

/-- A list depends on the order of hash maps exactly if it is ambiguous. -/
theorem foundInOrder?_eq_iff (id : String) :
    (∀ o o', c.foundInOrder? o s id = c.foundInOrder? o' s id) ↔ ¬ c.Ambiguous s id := by
  simp only [foundInOrder?_eq]
  cases hcopy : c.copyOf? s id with
  | none => simp [Ambiguous, hcopy]
  | some copy =>
    have hambiguous : c.Ambiguous s id ↔
        c.formatOf id = .status ∧ ListFormat.Status.Ambiguous copy.1 c.chains := by
      simp [Ambiguous, hcopy]
    rw [hambiguous, ← ListFormat.parseInOrder_eq_iff (c.formatOf id) copy.1 copy.2 c.chains]
    constructor
    · intro hall o o'
      -- Every order for the lists is one for this list.
      have hsame := hall ⟨.standing, .standing, fun _ => o⟩ ⟨.standing, .standing, fun _ => o'⟩
      apply eq_of_toOption_eq hsame
      show (ListFormat.parseInOrder _ o _ _ _).toOption.isSome
      rw [ListFormat.isSome_parseInOrder, reads_of_copyOf? hcopy]
    · intro hall o o'
      show Except.toOption _ = Except.toOption _
      rw [hall (o.lists id) (o'.lists id)]

end Config

/-! ### The snapshot -/

namespace Snapshot

/-- Without ambiguous records the order does not matter. -/
theorem buildInOrder_congr {c : Config} {s : Sources}
    (h : ∀ id ∈ c.readIds s.cache, ¬ c.Ambiguous s id) (o o' : Orders) :
    buildInOrder c o s = buildInOrder c o' s := by
  have htier : c.readTier o s = c.readTier o' s := by
    rw [Config.readTier_eq, Config.readTier_eq]
    refine List.flatMap_congr fun id hid => ?_
    rw [(Config.foundInOrder?_eq_iff id).2 (h id hid) o o']
  rw [buildInOrder, buildInOrder, Config.tiersInOrder, Config.tiersInOrder, htier]

/-- Whether there is a copy that can be read has nothing to do with the order of hash maps. -/
theorem isSome_foundInOrder? (c : Config) (o : Orders) (s : Sources) (id : String) :
    (c.foundInOrder? o s id).isSome = (c.copyOf? s id).isSome := by
  rw [Config.foundInOrder?_eq]
  cases hcopy : c.copyOf? s id with
  | none => rfl
  | some copy =>
    exact (ListFormat.isSome_parseInOrder _ _ _ _ _).trans (Config.reads_of_copyOf? hcopy)

/-- With an ambiguous record the order matters to the list, if the user's tokens do not take its
    place. -/
theorem exists_list?_buildInOrder_ne {c : Config} {s : Sources} {id : String}
    (hid : id ∈ c.readIds s.cache) (hambiguous : c.Ambiguous s id)
    (hkept : id ∉ (c.customTier s.custom).map (·.1)) :
    ∃ o o', (buildInOrder c o s).list? id ≠ (buildInOrder c o' s).list? id := by
  by_contra hall
  push Not at hall
  refine (Config.foundInOrder?_eq_iff id).1 (fun o o' => ?_) hambiguous
  have hsame := hall o o'
  rw [list?_buildInOrder, list?_buildInOrder, Config.find?_customTier_of_not_mem hkept, if_pos hid,
    if_pos hid] at hsame
  -- A list that is read hides the native tokens, whether it does so in both orders or in none.
  have ho := isSome_foundInOrder? c o s id
  have ho' := isSome_foundInOrder? c o' s id
  cases hfound : c.foundInOrder? o s id <;> cases hfound' : c.foundInOrder? o' s id <;> simp_all

end Snapshot

open Config Snapshot

/-- **Snapshots agree but for ambiguous records.**  If no list that is read has an ambiguous record,
    the order of hash maps makes no difference to the snapshot.  If a list has one and the user's
    tokens do not take its place, there are orders under which it is not the same.  Reading a Status
    document by itself depends on the order exactly if it has such a record. -/
theorem orders_agree (c : Config) (s : Sources) :
    ((∀ id ∈ c.readIds s.cache, ¬ c.Ambiguous s id) →
      ∀ o o', buildInOrder c o s = buildInOrder c o' s) ∧
    (∀ id ∈ c.readIds s.cache, c.Ambiguous s id →
      id ∉ (c.customTier s.custom).map (·.1) →
      ∃ o o', (buildInOrder c o s).list? id ≠ (buildInOrder c o' s).list? id) ∧
    ∀ raw origin, (∀ o o', ListFormat.Status.parseInOrder o raw origin c.chains =
        ListFormat.Status.parseInOrder o' raw origin c.chains) ↔
      ¬ ListFormat.Status.Ambiguous raw c.chains :=
  ⟨buildInOrder_congr, fun _ => exists_list?_buildInOrder_ne,
    fun raw origin => ListFormat.Status.parseInOrder_eq_iff raw origin c.chains⟩

/-! ### A main list with two spellings of one chain -/

/-- A draft whose main list has one token, with two addresses on one chain. -/
def Draft.forked : Draft :=
  { Draft.ofMainList "main"
      (Bytes.ofText (Json.object [("name", .string "Status"),
        ("timestamp", .string "2024-01-01T00:00:00Z"),
        ("tokens", .array [.object [("symbol", .string "USDC"), ("contracts", .object [
          ("01", .string "0x00000000000000000000000000000000000000a1"),
          ("1", .string "0x00000000000000000000000000000000000000b2")])]])]).toText)
      .status with
    chains := [1], supplied := Collaborator.all }

/-- The configuration that it becomes. -/
def Config.forked : Config where
  mainListId := "main"
  mainList := Draft.forked.mainList
  initialLists := ∅
  formats := Draft.forked.formats
  defaultFormat := .standard
  chains := [1]
  manifestUrl := none
  interval := .ofSeconds 1800
  checkInterval := .ofSeconds 60
  validator := .structural

theorem Draft.validate_forked : Draft.forked.validate = .ok Config.forked := rfl

/-- The tokens in two orders, by the last bytes of their addresses. -/
theorem forked_facts :
    (buildInOrder .forked .standing .bare).tokens.map (·.address.bytes.getLast?) =
      [some 0, some 0xb2] ∧
    (buildInOrder .forked (.turned 1) .bare).tokens.map (·.address.bytes.getLast?) =
      [some 0, some 0xa1] := by
  decide +kernel

theorem tokens_forked : (buildInOrder .forked .standing .bare).tokens ≠
    (buildInOrder .forked (.turned 1) .bare).tokens := by
  intro heq
  have hbytes := forked_facts.1
  rw [heq, forked_facts.2] at hbytes
  revert hbytes
  decide

/-- The main list is the only one that is read. -/
theorem Config.readIds_forked : Config.forked.readIds Sources.bare.cache = ["main"] := rfl

/-- And it is ambiguous: otherwise it would not matter in which order it is read. -/
theorem Config.ambiguous_forked : Config.forked.Ambiguous .bare "main" := by
  by_contra hnot
  refine tokens_forked (congrArg Snapshot.tokens (buildInOrder_congr (fun id hid => ?_) _ _))
  rw [Config.readIds_forked] at hid
  exact List.mem_singleton.1 hid ▸ hnot

theorem orders_agree_forked : Config.forked.readIds Sources.bare.cache = ["main"] ∧
    Config.forked.Ambiguous .bare "main" ∧
    ∃ o o', (buildInOrder .forked o .bare).list? "main" ≠
      (buildInOrder .forked o' .bare).list? "main" := by
  obtain ⟨-, hdiffer, -⟩ := orders_agree .forked .bare
  have hmem : "main" ∈ Config.forked.readIds Sources.bare.cache := by
    rw [readIds_forked]
    exact List.mem_singleton_self _
  exact ⟨readIds_forked, ambiguous_forked, hdiffer "main" hmem ambiguous_forked List.not_mem_nil⟩

/-- Two builds from the same stores may disagree: nothing keeps a record from naming a chain twice. -/
theorem orders_agree_not_always :
    ¬ ∀ (d : Draft) (c : Config) (s : Sources), d.validate = .ok c →
      ∀ o o', (buildInOrder c o s).tokens = (buildInOrder c o' s).tokens := by
  intro hall
  exact tokens_forked (hall _ _ .bare Draft.validate_forked _ _)

end TokenCatalog
