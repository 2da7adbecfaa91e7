import Mathlib.Algebra.BigOperators.Group.Finset.Basic

/-!
# Threads and what they hold

A finite number of threads, each at a stage of its own. What all of them hold together is a sum over the
threads; when one of them moves on, the sum changes by what that one holds (`total_update`).
-/

namespace Threads

variable {P σ : Type*} [Fintype P] (holds : σ → ℕ)

/-- What the threads hold together. -/
def total (stages : P → σ) : ℕ := ∑ thread, holds (stages thread)

/-- **One thread moves on.** -/
theorem total_update [DecidableEq P] (stages : P → σ) (thread : P) (stage : σ) :
    total holds (Function.update stages thread stage) + holds (stages thread) =
      total holds stages + holds stage := by
  have hothers : ∑ other ∈ Finset.univ.erase thread, holds (Function.update stages thread stage other) =
      ∑ other ∈ Finset.univ.erase thread, holds (stages other) := by
    refine Finset.sum_congr rfl fun other hother ↦ ?_
    rw [Function.update_of_ne (Finset.ne_of_mem_erase hother)]
  have hsplit := Finset.add_sum_erase Finset.univ (fun other ↦ holds (stages other))
    (Finset.mem_univ thread)
  have hsplit' := Finset.add_sum_erase Finset.univ
    (fun other ↦ holds (Function.update stages thread stage other)) (Finset.mem_univ thread)
  rw [hothers, Function.update_self] at hsplit'
  rw [total, total, ← hsplit, ← hsplit']
  omega

/-- Threads that hold nothing hold nothing together. -/
theorem total_eq_zero {stages : P → σ} (h : ∀ thread, holds (stages thread) = 0) :
    total holds stages = 0 :=
  Finset.sum_eq_zero fun thread _ ↦ h thread

end Threads
