import Mathlib.Tactic

/-!
# The bounded queue that drops its oldest element

The reference for every drop-oldest buffer, as operations on the list of its elements, oldest first. A
full queue gives up its head to make room, and no other does.
-/

namespace DropOldest

variable {α : Type*}

/-- What a queue gives up when an element comes in. -/
def evicted (capacity : ℕ) (queue : List α) : Option α :=
  if queue.length = capacity then queue.head? else none

/-- An element comes in at the back. -/
def push (capacity : ℕ) (queue : List α) (a : α) : List α :=
  (if queue.length = capacity then queue.tail else queue) ++ [a]

theorem push_of_full {capacity : ℕ} {queue : List α} {head : α} {rest : List α} (a : α)
    (hqueue : queue = head :: rest) (hfull : queue.length = capacity) :
    evicted capacity queue = some head ∧ push capacity queue a = rest ++ [a] := by
  rw [evicted, push, if_pos hfull, if_pos hfull, hqueue]
  exact ⟨rfl, rfl⟩

theorem push_of_room {capacity : ℕ} {queue : List α} (a : α) (hroom : queue.length ≠ capacity) :
    evicted capacity queue = none ∧ push capacity queue a = queue ++ [a] := by
  rw [evicted, push, if_neg hroom, if_neg hroom]
  exact ⟨rfl, rfl⟩

end DropOldest
