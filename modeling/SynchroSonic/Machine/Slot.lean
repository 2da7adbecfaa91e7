import Mathlib.Data.List.Basic

/-!
# A slot for what is open

A variable that holds at most one handle, and the handles that are open in the world: what is put into
the slot was opened just before, and what leaves it, or is replaced, is closed. `peak` is the largest
number of handles that were open at once, the moment of a replacement included.

**If the slot is free whenever something is put into it, nothing is ever open beside what it holds**
(`Sole.put`, `Sole.take`).
-/

/-- A slot, and what is open. -/
structure Slot (α : Type*) where
  held : Option α := none
  opened : List α := []
  peak : ℕ := 0
  deriving DecidableEq, Repr

namespace Slot

variable {α : Type*}

/-- Nothing is open but what is held, and at no time was more than one handle open. -/
structure Sole (slot : Slot α) : Prop where
  opened : slot.opened = slot.held.toList
  peak : slot.peak ≤ 1

variable {slot : Slot α}

theorem sole_empty : ({} : Slot α).Sole := ⟨rfl, Nat.zero_le 1⟩

theorem Sole.opened_of_free (h : slot.Sole) (hfree : slot.held = none) : slot.opened = [] := by
  rw [h.opened, hfree]
  rfl

/-! ### Taking out and putting in -/

variable [DecidableEq α]

/-- What is open without the handle that is held. -/
def others (slot : Slot α) : List α :=
  match slot.held with
  | some handle => slot.opened.erase handle
  | none => slot.opened

/-- The handle is taken out and closed. -/
def take (slot : Slot α) : Slot α where
  held := none
  opened := slot.others
  peak := slot.peak

/-- A handle that was opened is put in; the one it replaces is closed. -/
def put (handle : α) (slot : Slot α) : Slot α where
  held := some handle
  opened := slot.others ++ [handle]
  peak := max slot.peak (slot.opened.length + 1)

theorem Sole.others_eq_nil (h : slot.Sole) : slot.others = [] := by
  unfold others
  split
  next handle hheld =>
    rw [h.opened, hheld, Option.toList_some]
    simp
  next hheld => exact h.opened_of_free hheld

theorem Sole.take (h : slot.Sole) : slot.take.Sole := ⟨h.others_eq_nil, h.peak⟩

theorem Sole.put (h : slot.Sole) (hfree : slot.held = none) (handle : α) : (slot.put handle).Sole := by
  constructor
  · show slot.others ++ [handle] = [handle]
    rw [h.others_eq_nil]
    rfl
  · show max slot.peak (slot.opened.length + 1) ≤ 1
    rw [h.opened_of_free hfree]
    exact Nat.max_le.2 ⟨h.peak, Nat.le_refl 1⟩

end Slot
