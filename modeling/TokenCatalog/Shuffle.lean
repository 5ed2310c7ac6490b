import TokenCatalog.SortedMap

namespace TokenCatalog

/-!
# Shuffles — the orders in which a hash map may be gone through

A hash map gives its entries in an order that nobody chooses, and in another one each time.

* `Shuffle` — one such order, for whatever entries there are;
* `Shuffle.standing`, `Shuffle.turned` — the order in which entries stand, and the same begun at
  another entry;
* `SortedMap.gather` — a map put together from its entries as they come.
-/

/-- An order in which entries come. -/
structure Shuffle (α : Type) where
  order : List α → List α
  perm : ∀ xs, (order xs).Perm xs

namespace Shuffle

variable {α : Type}

/-- The order in which entries stand. -/
def standing : Shuffle α := ⟨id, fun xs => .refl xs⟩

/-- The order in which entries stand, begun at the one of the given number. -/
def turned (n : Nat) : Shuffle α where
  order xs := xs.drop (n % xs.length) ++ xs.take (n % xs.length)
  perm xs := by
    refine List.perm_append_comm.trans ?_
    rw [List.take_append_drop]

end Shuffle

/-- The map put together from its entries as they come. -/
def SortedMap.gather {κ α : Type} [Ord κ] [Std.TransOrd κ] [Std.LawfulEqOrd κ]
    (m : SortedMap κ α) (o : Shuffle (κ × α)) : SortedMap κ α :=
  .ofList (o.order m.entries)

-- Of three entries begun at the second, the first comes last.
example : (Shuffle.turned 1).order ['a', 'b', 'c'] = ['b', 'c', 'a'] := rfl

end TokenCatalog
