import Mathlib.Tactic

/-!
# What waits for a server

Things arrive in rounds, and in every round a server takes up to `capacity` of those that wait. `after`
is how many are left behind some rounds.

What is left stays below a bound that only depends on how many may arrive in a round exactly when a round
never brings more than the server takes (`bounded_iff`).
-/

namespace Backlog

/-- One round: some arrive, and the server takes what it can. -/
def serve (capacity waiting arriving : ℕ) : ℕ := waiting + arriving - capacity

/-- What is left behind these rounds. -/
def after (capacity waiting : ℕ) (arrivals : List ℕ) : ℕ := arrivals.foldl (serve capacity) waiting

variable {capacity waiting : ℕ} {arrivals : List ℕ}

@[simp] theorem after_nil : after capacity waiting [] = waiting := rfl

@[simp] theorem after_cons (arriving : ℕ) : after capacity waiting (arriving :: arrivals) =
    after capacity (serve capacity waiting arriving) arrivals := rfl

theorem after_append (more : List ℕ) : after capacity waiting (arrivals ++ more) =
    after capacity (after capacity waiting arrivals) more := List.foldl_append

/-- A server that takes all that arrives lets nothing pile up. -/
theorem after_le_of_le (h : ∀ arriving ∈ arrivals, arriving ≤ capacity) :
    after capacity waiting arrivals ≤ waiting := by
  induction arrivals generalizing waiting with
  | nil => exact le_refl waiting
  | cons arriving arrivals ih =>
    have hfirst := h arriving List.mem_cons_self
    have hrest : after capacity (serve capacity waiting arriving) arrivals ≤
        serve capacity waiting arriving := ih fun later hlater ↦ h later (List.mem_cons_of_mem _ hlater)
    have hserved : serve capacity waiting arriving ≤ waiting := by
      show waiting + arriving - capacity ≤ waiting
      omega
    exact hrest.trans hserved

/-- What the server does not take piles up round by round. -/
theorem after_replicate {arriving : ℕ} (h : capacity ≤ arriving) (rounds : ℕ) :
    after capacity waiting (List.replicate rounds arriving) =
      waiting + rounds * (arriving - capacity) := by
  induction rounds generalizing waiting with
  | zero => rw [List.replicate_zero, after_nil, Nat.zero_mul, Nat.add_zero]
  | succ rounds ih =>
    have hserved : serve capacity waiting arriving = waiting + (arriving - capacity) := by
      show waiting + arriving - capacity = waiting + (arriving - capacity)
      omega
    rw [List.replicate_succ, after_cons, ih, hserved, Nat.add_mul, Nat.one_mul]
    omega

/-- **When the server keeps up.** -/
theorem bounded_iff (capacity most : ℕ) :
    (∃ bound, ∀ arrivals : List ℕ, (∀ arriving ∈ arrivals, arriving ≤ most) →
      after capacity 0 arrivals ≤ bound) ↔ most ≤ capacity := by
  constructor
  · rintro ⟨bound, hbound⟩
    by_contra hmore
    have hlong := hbound (List.replicate (bound + 1) most) fun arriving harriving ↦
      (List.eq_of_mem_replicate harriving).le
    rw [after_replicate (by omega), Nat.zero_add] at hlong
    have hgrows : (bound + 1) * 1 ≤ (bound + 1) * (most - capacity) :=
      Nat.mul_le_mul_left _ (by omega)
    omega
  · intro hmost
    refine ⟨0, ?_⟩
    intro arrivals harrivals
    exact after_le_of_le fun arriving harriving ↦ (harrivals arriving harriving).trans hmost

end Backlog
