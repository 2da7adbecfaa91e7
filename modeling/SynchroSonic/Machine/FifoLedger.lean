import Mathlib.Tactic

/-!
# The ledger of a first-in-first-out queue

What a queue owes to its history, whatever it is a queue of. `accepted` is everything that was ever
put in, `delivered` what came out to a reader, `lost` the number of elements discarded, `queued`
the contents. A ledger says that nothing is duplicated or reordered and that everything is accounted
for; one lemma for each thing that can happen to a queue keeps it.
-/

/-- The history of a queue adds up. -/
structure FifoLedger {α : Type*} (accepted delivered queued : List α) (lost : ℕ) : Prop where
  /-- What is in the queue went in last, in this order. -/
  suffix : queued <:+ accepted
  /-- What came out and what is still in went in, in this order and each at most once. -/
  sublist : (delivered ++ queued).Sublist accepted
  /-- Whatever went in came out, was discarded or is still in. -/
  balance : accepted.length = delivered.length + lost + queued.length

namespace FifoLedger

variable {α β : Type*} {accepted delivered queued : List α} {a : α} {lost : ℕ}

theorem empty : FifoLedger ([] : List α) [] [] 0 where
  suffix := List.suffix_rfl
  sublist := List.Sublist.refl _
  balance := rfl

/-- An element is put in. -/
theorem push (h : FifoLedger accepted delivered queued lost) :
    FifoLedger (accepted ++ [a]) delivered (queued ++ [a]) lost where
  suffix := by
    obtain ⟨before, rfl⟩ := h.suffix
    exact ⟨before, by rw [List.append_assoc]⟩
  sublist := by
    rw [← List.append_assoc]
    exact h.sublist.append (List.Sublist.refl _)
  balance := by
    have := h.balance
    simp only [List.length_append, List.length_singleton]
    omega

/-- The oldest element comes out to the reader. -/
theorem deliver (h : FifoLedger accepted delivered (a :: queued) lost) :
    FifoLedger accepted (delivered ++ [a]) queued lost where
  suffix := (List.suffix_cons a queued).trans h.suffix
  sublist := by
    rw [List.append_assoc]
    exact h.sublist
  balance := by
    have := h.balance
    simp only [List.length_append, List.length_cons, List.length_nil] at this ⊢
    omega

/-- The oldest element is discarded. -/
theorem discard (h : FifoLedger accepted delivered (a :: queued) lost) :
    FifoLedger accepted delivered queued (lost + 1) where
  suffix := (List.suffix_cons a queued).trans h.suffix
  sublist := ((List.Sublist.refl delivered).append (List.sublist_cons_self a queued)).trans h.sublist
  balance := by
    have := h.balance
    simp only [List.length_cons] at this ⊢
    omega

/-- What came out went in, in this order and each at most once. -/
theorem delivered_sublist (h : FifoLedger accepted delivered queued lost) :
    delivered.Sublist accepted :=
  (List.sublist_append_left delivered queued).trans h.sublist

/-- The queue holds exactly the last elements that went in. -/
theorem queued_eq_drop (h : FifoLedger accepted delivered queued lost) :
    queued = accepted.drop (accepted.length - queued.length) :=
  List.suffix_iff_eq_drop.1 h.suffix

end FifoLedger
