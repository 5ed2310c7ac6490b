import TokenCatalog.ListFormat.Basic

namespace TokenCatalog

/-!
# List formats — what holds of every list that is read

* `exists_ok_of_bind`, `toOption_eq_some_iff`, `toOption_eq_none_iff` — when a computation succeeds;
* `ListFormat.origin_of_parseInOrder` — a list says where its bytes came from, and when.
-/

/-- A computation that succeeds did so at its first step. -/
theorem exists_ok_of_bind {ε α β : Type} {x : Except ε α} {f : α → Except ε β} {b : β}
    (h : (x >>= f) = .ok b) : ∃ a, x = .ok a ∧ f a = .ok b := by
  cases x with
  | error e => cases h
  | ok a => exact ⟨a, rfl, h⟩

theorem toOption_eq_some_iff {ε α : Type} {x : Except ε α} {a : α} :
    x.toOption = some a ↔ x = .ok a := by
  cases x <;> simp [Except.toOption]

theorem toOption_eq_none_iff {ε α : Type} {x : Except ε α} :
    x.toOption = none ↔ ∃ e, x = .error e := by
  cases x <;> simp [Except.toOption]

namespace ListFormat

theorem Origin.timestamp_idem (o : Origin) (producer : String) :
    o.timestamp (o.timestamp producer) = o.timestamp producer := by
  obtain ⟨source, fetchedAt⟩ := o
  cases fetchedAt <;> rfl

/-- A list says where its bytes came from, and when they were fetched or made. -/
theorem origin_of_parseInOrder {f : ListFormat} {orders : Orders} {raw : Bytes} {o : Origin}
    {chains : List ChainId} {l : TokenList} (h : f.parseInOrder orders raw o chains = .ok l) :
    l.source = o.source ∧ l.fetchedTimestamp = o.timestamp l.timestamp := by
  cases f with
  | standard =>
    obtain ⟨e, -, he⟩ := exists_ok_of_bind h
    cases he
    exact ⟨rfl, rfl⟩
  | status =>
    obtain ⟨e, -, he⟩ := exists_ok_of_bind h
    cases he
    exact ⟨rfl, rfl⟩
  | coinGecko platforms =>
    obtain ⟨e, -, he⟩ := exists_ok_of_bind h
    cases he
    -- Such a dump has no timestamp of its producer's.
    exact ⟨rfl, (o.timestamp_idem "").symm⟩

end ListFormat

end TokenCatalog
