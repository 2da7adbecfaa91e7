import Mathlib.Tactic

/-!
# Machines that answer

The substrate for comparing two implementations of one interface: a **machine** takes an input in a
state, answers, and goes on to another state. `answers` is what an observer sees of a run, `after` the
state it ends in.

`refines` is the rule: an invariant relation under which both machines answer alike makes all runs
answer alike, and relates the states they end in.
-/

namespace Mealy

variable {σ τ ι ω : Type*}

/-- What a machine answers to the inputs, one after the other. -/
def answers (step : σ → ι → ω × σ) : σ → List ι → List ω
  | _, [] => []
  | s, i :: is => (step s i).1 :: answers step (step s i).2 is

/-- The state a machine is in after the inputs. -/
def after (step : σ → ι → ω × σ) : σ → List ι → σ
  | s, [] => s
  | s, i :: is => after step (step s i).2 is

/-- **The refinement rule.** If related states answer an input alike and stay related, related runs
answer alike and end in related states. -/
theorem refines {step : σ → ι → ω × σ} {step' : τ → ι → ω × τ} {R : σ → τ → Prop}
    (hstep : ∀ s t i, R s t → (step s i).1 = (step' t i).1 ∧ R (step s i).2 (step' t i).2) {s : σ}
    {t : τ} (hR : R s t) (is : List ι) :
    answers step s is = answers step' t is ∧ R (after step s is) (after step' t is) := by
  induction is generalizing s t with
  | nil => exact ⟨rfl, hR⟩
  | cons i is ih =>
    obtain ⟨hanswer, hnext⟩ := hstep s t i hR
    obtain ⟨hanswers, hafter⟩ := ih hnext
    refine ⟨?_, hafter⟩
    show (step s i).1 :: _ = (step' t i).1 :: _
    rw [hanswer, hanswers]

end Mealy
