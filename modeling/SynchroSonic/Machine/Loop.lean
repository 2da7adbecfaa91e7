import Mathlib.Logic.Relation
import Mathlib.Tactic

/-!
# Loops with an explicit body

The substrate for every `loop { .. }` of the development: a **body** takes the loop state and
either asks for another round or ends the loop with a result. Nothing here knows what the state
is.

`run` is the executable form, with fuel; `Visits` is the set of states a loop passes through.
These rules carry all uses:

* `of_run` — what holds of the first state and is preserved by another round holds when the loop
  ends;
* `again_or_done_of_visits` — every state on the way goes round again or ends the loop;
* `run_isSome` — a measure that drops with every further round bounds the fuel, so the loop ends.
-/

/-- What one round of a loop body does: go round again, or end the loop. -/
inductive LoopStep (σ β : Type*)
  /-- Go round again in the state `next`. -/
  | again (next : σ)
  /-- Leave the loop with `result`. -/
  | done (result : β)

namespace Loop

variable {σ β : Type*} (body : σ → LoopStep σ β)

/-! ### Running a loop -/

/-- Run a loop for at most `fuel` rounds. `none` means that the fuel ran out. -/
def run : ℕ → σ → Option β
  | 0, _ => none
  | fuel + 1, s =>
    match body s with
    | .again s' => run fuel s'
    | .done b => some b

@[simp] theorem run_zero (s : σ) : run body 0 s = none := rfl

variable {body}

theorem run_succ_of_again {fuel : ℕ} {s s' : σ} (h : body s = .again s') :
    run body (fuel + 1) s = run body fuel s' := by
  rw [run, h]

theorem run_succ_of_done {fuel : ℕ} {s : σ} {b : β} (h : body s = .done b) :
    run body (fuel + 1) s = some b := by
  rw [run, h]

/-- **More fuel changes nothing** once the loop has ended. -/
theorem run_mono {fuel fuel' : ℕ} {s : σ} {b : β} (hle : fuel ≤ fuel')
    (h : run body fuel s = some b) : run body fuel' s = some b := by
  induction fuel generalizing fuel' s with
  | zero => simp at h
  | succ fuel ih =>
    obtain ⟨k, rfl⟩ : ∃ k, fuel' = k + 1 := ⟨fuel' - 1, by omega⟩
    cases hb : body s with
    | again s' =>
      rw [run_succ_of_again hb] at h ⊢
      exact ih (by omega) h
    | done b' =>
      rw [run_succ_of_done hb] at h ⊢
      exact h

/-- Two runs of one loop that both end agree, whatever their fuel. -/
theorem run_unique {fuel fuel' : ℕ} {s : σ} {b b' : β} (h : run body fuel s = some b)
    (h' : run body fuel' s = some b') : b = b' := by
  have h₁ := run_mono (Nat.le_max_left fuel fuel') h
  have h₂ := run_mono (Nat.le_max_right fuel fuel') h'
  rw [h₁] at h₂
  exact Option.some.inj h₂

/-! ### The states a loop passes through -/

variable (body)

/-- The loop, started in `s`, comes to the head of a round in state `s'`. -/
def Visits (s s' : σ) : Prop := Relation.ReflTransGen (fun a b ↦ body a = .again b) s s'

variable {body}

theorem Visits.refl (s : σ) : Visits body s s := Relation.ReflTransGen.refl

/-- What a further round preserves holds wherever the loop passes through. -/
theorem Visits.invariant {I : σ → Prop} (hagain : ∀ s s', I s → body s = .again s' → I s')
    {s s' : σ} (h : Visits body s s') (hs : I s) : I s' := by
  induction h with
  | refl => exact hs
  | tail _ hstep ih => exact hagain _ _ ih hstep

/-- A loop that goes round again visits what it visits from there on. -/
theorem visits_of_again {s next s' : σ} (h : body s = .again next) :
    Visits body s s' ↔ s' = s ∨ Visits body next s' := by
  refine ⟨fun hvisits ↦ ?_, ?_⟩
  · rcases Relation.ReflTransGen.cases_head hvisits with rfl | ⟨second, hfirst, hrest⟩
    · exact Or.inl rfl
    · rw [h] at hfirst
      obtain rfl := LoopStep.again.inj hfirst
      exact Or.inr hrest
  · rintro (rfl | hvisits)
    · exact Visits.refl s'
    · exact Relation.ReflTransGen.head h hvisits

/-- A loop that ends at once visits nothing but its first state. -/
theorem visits_of_done {s s' : σ} {b : β} (h : body s = .done b) :
    Visits body s s' ↔ s' = s := by
  refine ⟨fun hvisits ↦ ?_, ?_⟩
  · rcases Relation.ReflTransGen.cases_head hvisits with rfl | ⟨second, hfirst, -⟩
    · rfl
    · rw [h] at hfirst
      cases hfirst
  · rintro rfl
    exact Visits.refl s'

/-! ### The two rules -/

/-- **The invariant rule.** An invariant of the rounds that turns into `P` when the loop ends
gives `P` of every result. -/
theorem of_run {I : σ → Prop} {P : β → Prop}
    (hagain : ∀ s s', I s → body s = .again s' → I s')
    (hdone : ∀ s b, I s → body s = .done b → P b)
    {fuel : ℕ} {s : σ} {b : β} (hs : I s) (h : run body fuel s = some b) : P b := by
  induction fuel generalizing s with
  | zero => simp at h
  | succ fuel ih =>
    cases hb : body s with
    | again s' =>
      rw [run_succ_of_again hb] at h
      exact ih (hagain s s' hs hb) h
    | done b' =>
      rw [run_succ_of_done hb] at h
      obtain rfl := Option.some.inj h
      exact hdone s b' hs hb

/-- A result is produced by one of the states the loop passes through. -/
theorem exists_last {fuel : ℕ} {s : σ} {b : β} (h : run body fuel s = some b) :
    ∃ s', Visits body s s' ∧ body s' = .done b :=
  @of_run σ β body (Visits body s) (fun b ↦ ∃ s', Visits body s s' ∧ body s' = .done b)
    (fun _ _ hv hstep ↦ Relation.ReflTransGen.tail hv hstep)
    (fun s' _ hv hdone ↦ ⟨s', hv, hdone⟩) fuel s b (Visits.refl s) h

/-- Every state a loop passes through goes round again or is the one that ends it. -/
theorem again_or_done_of_visits {fuel : ℕ} {s s' : σ} {b : β} (hv : Visits body s s')
    (h : run body fuel s = some b) : (∃ s'', body s' = .again s'') ∨ body s' = .done b := by
  have hrun : ∃ fuel', run body fuel' s' = some b := by
    induction hv with
    | refl => exact ⟨fuel, h⟩
    | tail _ hstep ih =>
      obtain ⟨fuel', h'⟩ := ih
      cases fuel' with
      | zero => simp at h'
      | succ fuel' => exact ⟨fuel', by rwa [run_succ_of_again hstep] at h'⟩
  obtain ⟨fuel', h'⟩ := hrun
  cases hb : body s' with
  | again s'' => exact Or.inl ⟨s'', rfl⟩
  | done b' =>
    obtain ⟨fuel', rfl⟩ : ∃ k, fuel' = k + 1 :=
      Nat.exists_eq_succ_of_ne_zero fun h0 ↦ by simp [h0] at h'
    rw [run_succ_of_done hb] at h'
    exact Or.inr (by rw [Option.some.inj h'])

/-- **The measure rule.** If every further round keeps `I` and lowers `μ`, then `μ s + 1` rounds are
enough. -/
theorem run_isSome {I : σ → Prop} {μ : σ → ℕ}
    (hagain : ∀ s s', I s → body s = .again s' → I s' ∧ μ s' < μ s) {fuel : ℕ} {s : σ} (hs : I s)
    (h : μ s < fuel) : (run body fuel s).isSome := by
  induction fuel generalizing s with
  | zero => omega
  | succ fuel ih =>
    cases hb : body s with
    | again s' =>
      obtain ⟨hs', hμ⟩ := hagain s s' hs hb
      rw [run_succ_of_again hb]
      exact ih hs' (by omega)
    | done b => rw [run_succ_of_done hb]; rfl

end Loop
