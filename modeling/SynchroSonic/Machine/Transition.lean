import Mathlib.Tactic

/-!
# Runs of a partial step function

The substrate for every state machine of the development: a `step` takes a state and an input and
may refuse. `run` folds it over a list of inputs, oldest first. `Along P s is` says that `P` holds of
the state in front of every step of the run, together with that step's input; `Throughout P s is`
says that `P` holds of every state the run comes through. `emitted out s is` is what the steps of the
run put out.

* `run_invariant` — what every step preserves holds at the end of every run;
* `run_invariant_along` — the same for steps that meet a condition, along runs that meet it;
* `along_of_invariant` — what an invariant says of every step along such a run;
* `run_iff_along` — what a run keeps exactly when each of its steps does;
* `throughout_iff_along` — the same for what holds all the way;
* `run_history` — an invariant of the state and the inputs taken so far;
* `run_simulation` — a run that another machine follows, along a condition;
* `run_emitted` — a run whose output another machine accepts;
* `run_recorded` — a record that every step adds its output to;
* `exists_run` — a step that is never refused gives runs that are never refused.
-/

namespace Transition

variable {σ ι : Type*} (step : σ → ι → Option σ)

/-- Take the inputs one after the other; `none` as soon as one is refused. -/
def run : σ → List ι → Option σ
  | s, [] => some s
  | s, i :: is => (step s i).bind fun s' ↦ run s' is

@[simp] theorem run_nil (s : σ) : run step s [] = some s := rfl

/-- `P` holds in front of every step of the run. -/
def Along (P : σ → ι → Prop) : σ → List ι → Prop
  | _, [] => True
  | s, i :: is => P s i ∧ ∀ s', step s i = some s' → Along P s' is

/-- `P` holds of every state the run comes through, the first and the last included. -/
def Throughout (P : σ → Prop) (s : σ) (is : List ι) : Prop :=
  ∀ before s', before <+: is → run step s before = some s' → P s'

/-- What the steps of the run put out, one after the other. -/
def emitted {ε : Type*} (out : σ → ι → List ε) : σ → List ι → List ε
  | _, [] => []
  | s, i :: is => out s i ++ ((step s i).map fun s' ↦ emitted out s' is).getD []

variable {step}

theorem run_cons {s s' : σ} {i : ι} {is : List ι} :
    run step s (i :: is) = some s' ↔ ∃ s₁, step s i = some s₁ ∧ run step s₁ is = some s' :=
  Option.bind_eq_some_iff

theorem run_map {κ : Type*} (f : κ → ι) (s : σ) (ks : List κ) :
    run step s (ks.map f) = run (fun s k ↦ step s (f k)) s ks := by
  induction ks generalizing s with
  | nil => rfl
  | cons k ks ih => exact congrArg (Option.bind (step s (f k))) (funext ih)

theorem run_append {s s' : σ} {is js : List ι} :
    run step s (is ++ js) = some s' ↔ ∃ s₁, run step s is = some s₁ ∧ run step s₁ js = some s' := by
  induction is generalizing s with
  | nil => simp
  | cons i is ih =>
    simp only [List.cons_append, run_cons, ih]
    constructor
    · rintro ⟨s₁, hs₁, s₂, hrun, hrest⟩
      exact ⟨s₂, ⟨s₁, hs₁, hrun⟩, hrest⟩
    · rintro ⟨s₂, ⟨s₁, hs₁, hrun⟩, hrest⟩
      exact ⟨s₁, hs₁, s₂, hrun, hrest⟩

theorem run_append_singleton {s s' : σ} {i : ι} {is : List ι} :
    run step s (is ++ [i]) = some s' ↔ ∃ s₁, run step s is = some s₁ ∧ step s₁ i = some s' := by
  simp only [run_append, run_cons, run_nil, Option.some.injEq, exists_eq_right]

theorem along_cons_of_step {P : σ → ι → Prop} {s s' : σ} {i : ι} {is : List ι}
    (h : step s i = some s') : Along step P s (i :: is) ↔ P s i ∧ Along step P s' is := by
  refine and_congr_right fun _ ↦ ⟨fun hrest ↦ hrest s' h, fun hrest s'' hs'' ↦ ?_⟩
  obtain rfl := Option.some.inj (h.symm.trans hs'')
  exact hrest

theorem along_cons_of_refused {P : σ → ι → Prop} {s : σ} {i : ι} {is : List ι}
    (h : step s i = none) : Along step P s (i :: is) ↔ P s i := by
  refine and_iff_left fun s' hs' ↦ ?_
  rw [h] at hs'
  cases hs'

/-- A condition that can be decided can be decided along a run. -/
instance decidableAlong {P : σ → ι → Prop} [∀ s i, Decidable (P s i)] :
    ∀ (s : σ) (is : List ι), Decidable (Along step P s is)
  | _, [] => isTrue trivial
  | s, i :: is =>
    match h : step s i with
    | none => decidable_of_iff _ (along_cons_of_refused h).symm
    | some s' =>
      have : Decidable (Along step P s' is) := decidableAlong s' is
      decidable_of_iff _ (along_cons_of_step h).symm

/-- **The invariant rule along a condition.** -/
theorem run_invariant_along {P : σ → ι → Prop} {I : σ → Prop}
    (hstep : ∀ s i s', I s → P s i → step s i = some s' → I s') {s s' : σ} {is : List ι}
    (hs : I s) (hP : Along step P s is) (h : run step s is = some s') : I s' := by
  induction is generalizing s with
  | nil =>
    obtain rfl := Option.some.inj h
    exact hs
  | cons i is ih =>
    obtain ⟨s₁, hs₁, hrun⟩ := run_cons.1 h
    exact ih (hstep s i s₁ hs hP.1 hs₁) (hP.2 s₁ hs₁) hrun

/-- What follows from the invariant and the condition holds in front of every step. -/
theorem along_of_invariant {P Q : σ → ι → Prop} {I : σ → Prop}
    (hstep : ∀ s i s', I s → P s i → step s i = some s' → I s')
    (hfollows : ∀ s i, I s → P s i → Q s i) {s : σ} {is : List ι} (hs : I s)
    (h : Along step P s is) : Along step Q s is := by
  induction is generalizing s with
  | nil => trivial
  | cons i is ih =>
    obtain ⟨hcondition, hrest⟩ := h
    exact ⟨hfollows s i hs hcondition,
      fun s' hs' ↦ ih (hstep s i s' hs hcondition hs') (hrest s' hs')⟩

/-- **The invariant rule with history.** `I` may speak about the inputs taken so far. -/
theorem run_history {I : List ι → σ → Prop}
    (hstep : ∀ is s i s', I is s → step s i = some s' → I (is ++ [i]) s') {s s' : σ} {is : List ι}
    (hs : I [] s) (h : run step s is = some s') : I is s' := by
  have hfrom : ∀ (is before : List ι) (s : σ), I before s → run step s is = some s' →
      I (before ++ is) s' := by
    intro is
    induction is with
    | nil =>
      intro before s hs h
      obtain rfl := Option.some.inj h
      rwa [List.append_nil]
    | cons i is ih =>
      intro before s hs h
      obtain ⟨s₁, hs₁, hrun⟩ := run_cons.1 h
      have := ih (before ++ [i]) s₁ (hstep before s i s₁ hs hs₁) hrun
      rwa [List.append_assoc] at this
  exact hfrom is [] s hs h

/-- **The rule for losses.** If a step leaves a state clean exactly when it found it clean and met the
condition, then a run ends clean exactly when it started clean and met the condition throughout. -/
theorem run_iff_along {P : σ → ι → Prop} {I clean : σ → Prop}
    (hinvariant : ∀ s i s', I s → step s i = some s' → I s')
    (hclean : ∀ s i s', I s → step s i = some s' → (clean s' ↔ clean s ∧ P s i)) {s s' : σ}
    {is : List ι} (hs : I s) (h : run step s is = some s') :
    clean s' ↔ clean s ∧ Along step P s is := by
  induction is generalizing s with
  | nil =>
    obtain rfl := Option.some.inj h
    exact (and_iff_left trivial).symm
  | cons i is ih =>
    obtain ⟨s₁, hs₁, hrun⟩ := run_cons.1 h
    rw [ih (hinvariant s i s₁ hs hs₁) hrun, hclean s i s₁ hs hs₁, and_assoc]
    refine and_congr_right fun _ ↦ and_congr_right fun _ ↦ ⟨fun halong s₂ hs₂ ↦ ?_, fun h ↦ h s₁ hs₁⟩
    obtain rfl := Option.some.inj (hs₁.symm.trans hs₂)
    exact halong

theorem throughout_nil {P : σ → Prop} {s : σ} :
    Throughout step P s ([] : List ι) ↔ P s := by
  refine ⟨fun h ↦ h [] s List.nil_prefix rfl, fun h before s' hbefore hrun ↦ ?_⟩
  obtain rfl := List.prefix_nil.1 hbefore
  obtain rfl := Option.some.inj hrun
  exact h

theorem throughout_cons_of_step {P : σ → Prop} {s s' : σ} {i : ι} {is : List ι}
    (h : step s i = some s') : Throughout step P s (i :: is) ↔ P s ∧ Throughout step P s' is := by
  constructor
  · intro hall
    refine ⟨hall [] s List.nil_prefix rfl, fun before s'' hbefore hrun ↦ ?_⟩
    exact hall (i :: before) s'' (List.cons_prefix_cons.2 ⟨rfl, hbefore⟩)
      (run_cons.2 ⟨s', h, hrun⟩)
  · rintro ⟨hfirst, hrest⟩ before s'' hbefore hrun
    rcases List.prefix_cons_iff.1 hbefore with rfl | ⟨before, rfl, hlater⟩
    · obtain rfl := Option.some.inj hrun
      exact hfirst
    · obtain ⟨s₁, hs₁, hrun⟩ := run_cons.1 hrun
      obtain rfl := Option.some.inj (h.symm.trans hs₁)
      exact hrest before s'' hlater hrun

/-- **The rule for what holds all the way.** If every step is taken, and ends in `P` exactly when it met
the condition, then `P` holds throughout a run exactly when the run meets the condition. -/
theorem throughout_iff_along {P : σ → Prop} {C : σ → ι → Prop} {I : σ → Prop}
    (hstep : ∀ s i, I s → P s → ∃ s', step s i = some s' ∧ I s' ∧ (P s' ↔ C s i)) {s : σ}
    {is : List ι} (hI : I s) (hP : P s) : Throughout step P s is ↔ Along step C s is := by
  induction is generalizing s with
  | nil => exact throughout_nil.trans (iff_of_true hP trivial)
  | cons i is ih =>
    obtain ⟨s', hs', hI', hiff⟩ := hstep s i hI hP
    rw [throughout_cons_of_step hs', along_cons_of_step hs', and_iff_right hP, ← hiff]
    constructor
    · intro hall
      have hP' := hall [] s' List.nil_prefix rfl
      exact ⟨hP', (ih hI' hP').1 hall⟩
    · rintro ⟨hP', halong⟩
      exact (ih hI' hP').2 halong

/-- A run meets a condition when every step of it does, wherever it is. -/
theorem along_of_prefix {P : σ → ι → Prop} {s : σ} {is : List ι}
    (h : ∀ before i s', before ++ [i] <+: is → run step s before = some s' → P s' i) :
    Along step P s is := by
  induction is generalizing s with
  | nil => trivial
  | cons i is ih =>
    refine ⟨h [] i s (List.cons_prefix_cons.2 ⟨rfl, List.nil_prefix⟩) rfl, fun s' hs' ↦ ?_⟩
    refine ih fun before j s'' hbefore hrun ↦ ?_
    exact h (i :: before) j s'' (List.cons_prefix_cons.2 ⟨rfl, hbefore⟩)
      (run_cons.2 ⟨s', hs', hrun⟩)

/-- What holds along a run holds along its rest. -/
theorem along_rest {P : σ → ι → Prop} {s s' : σ} {before after : List ι}
    (h : Along step P s (before ++ after)) (hrun : run step s before = some s') :
    Along step P s' after := by
  induction before generalizing s with
  | nil =>
    obtain rfl := Option.some.inj hrun
    exact h
  | cons j before ih =>
    obtain ⟨s₁, hs₁, hrun⟩ := run_cons.1 hrun
    exact ih (h.2 s₁ hs₁) hrun

/-- What holds along a run holds in front of each of its steps. -/
theorem holds_of_along {P : σ → ι → Prop} {s s' : σ} {before after : List ι} {i : ι}
    (h : Along step P s (before ++ i :: after)) (hrun : run step s before = some s') : P s' i :=
  (along_rest h hrun).1

theorem along_of_forall {P : σ → ι → Prop} {is : List ι} (h : ∀ i ∈ is, ∀ s, P s i) (s : σ) :
    Along step P s is := by
  induction is generalizing s with
  | nil => trivial
  | cons i is ih =>
    obtain ⟨hfirst, hrest⟩ := List.forall_mem_cons.1 h
    exact ⟨hfirst s, fun s' _ ↦ ih hrest s'⟩

theorem along_true (s : σ) (is : List ι) : Along step (fun _ _ ↦ True) s is :=
  along_of_forall (fun _ _ _ ↦ trivial) s

/-- **The invariant rule.** -/
theorem run_invariant {I : σ → Prop} (hstep : ∀ s i s', I s → step s i = some s' → I s')
    {s s' : σ} {is : List ι} (hs : I s) (h : run step s is = some s') : I s' :=
  run_invariant_along (fun s i s' hs _ ↦ hstep s i s' hs) hs (along_true s is) h

/-- **The simulation rule.** A machine that follows every step that meets the condition follows every run
that meets it. -/
theorem run_simulation {τ : Type*} {step' : τ → ι → Option τ} {P : σ → ι → Prop} {R : σ → τ → Prop}
    (hstep : ∀ s t i s', R s t → P s i → step s i = some s' → ∃ t', step' t i = some t' ∧ R s' t')
    {s s' : σ} {t : τ} {is : List ι} (hR : R s t) (hP : Along step P s is)
    (h : run step s is = some s') : ∃ t', run step' t is = some t' ∧ R s' t' := by
  induction is generalizing s t with
  | nil =>
    obtain rfl := Option.some.inj h
    exact ⟨t, rfl, hR⟩
  | cons i is ih =>
    obtain ⟨s₁, hs₁, hrun⟩ := run_cons.1 h
    obtain ⟨t₁, ht₁, hR₁⟩ := hstep s t i s₁ hR hP.1 hs₁
    obtain ⟨t', hrun', hR'⟩ := ih hR₁ (hP.2 s₁ hs₁) hrun
    exact ⟨t', run_cons.2 ⟨t₁, ht₁, hrun'⟩, hR'⟩

/-- **The refinement rule.** A machine that accepts what every step that meets the condition puts out
accepts what every run that meets it puts out. -/
theorem run_emitted {τ ε : Type*} {step' : τ → ε → Option τ} {out : σ → ι → List ε}
    {P : σ → ι → Prop} {R : σ → τ → Prop}
    (hstep : ∀ s t i s', R s t → P s i → step s i = some s' →
      ∃ t', run step' t (out s i) = some t' ∧ R s' t') {s s' : σ} {t : τ} {is : List ι} (hR : R s t)
    (hP : Along step P s is) (h : run step s is = some s') :
    ∃ t', run step' t (emitted step out s is) = some t' ∧ R s' t' := by
  induction is generalizing s t with
  | nil =>
    obtain rfl := Option.some.inj h
    exact ⟨t, rfl, hR⟩
  | cons i is ih =>
    obtain ⟨s₁, hs₁, hrun⟩ := run_cons.1 h
    obtain ⟨t₁, ht₁, hR₁⟩ := hstep s t i s₁ hR hP.1 hs₁
    obtain ⟨t', hrun', hR'⟩ := ih hR₁ (hP.2 s₁ hs₁) hrun
    refine ⟨t', ?_, hR'⟩
    rw [emitted, hs₁, Option.map_some, Option.getD_some]
    exact run_append.2 ⟨t₁, ht₁, hrun'⟩

/-- A record to which every step adds what it puts out records what the run puts out. -/
theorem run_recorded {ε : Type*} {out : σ → ι → List ε} {record : σ → List ε}
    (hstep : ∀ s i s', step s i = some s' → record s' = record s ++ out s i) {s s' : σ} {is : List ι}
    (h : run step s is = some s') : record s' = record s ++ emitted step out s is := by
  induction is generalizing s with
  | nil =>
    obtain rfl := Option.some.inj h
    exact (List.append_nil _).symm
  | cons i is ih =>
    obtain ⟨s₁, hs₁, hrun⟩ := run_cons.1 h
    rw [ih hrun, hstep s i s₁ hs₁, emitted, hs₁, List.append_assoc]
    rfl

/-- What the steps that meet a condition put out is all that is put out. -/
theorem forall_emitted {ε : Type*} {out : σ → ι → List ε} {P : σ → ι → Prop} {Q : ε → Prop}
    (hout : ∀ s i, P s i → ∀ e ∈ out s i, Q e) {s : σ} {is : List ι}
    (hP : Along step P s is) : ∀ e ∈ emitted step out s is, Q e := by
  induction is generalizing s with
  | nil => exact fun e hmem ↦ absurd hmem List.not_mem_nil
  | cons i is ih =>
    intro e hmem
    rcases List.mem_append.1 hmem with hmem | hmem
    · exact hout s i hP.1 e hmem
    · rcases hs' : step s i with - | s'
      · rw [hs'] at hmem
        exact absurd hmem List.not_mem_nil
      · rw [hs'] at hmem
        exact ih (hP.2 s' hs') e hmem

/-- **The progress rule.** If no step is refused and every step keeps `I`, no run is refused. -/
theorem exists_run {I : σ → Prop} (hstep : ∀ s i, I s → ∃ s', step s i = some s' ∧ I s') {s : σ}
    (hs : I s) (is : List ι) : ∃ s', run step s is = some s' ∧ I s' := by
  induction is generalizing s with
  | nil => exact ⟨s, rfl, hs⟩
  | cons i is ih =>
    obtain ⟨s₁, hs₁, hI⟩ := hstep s i hs
    obtain ⟨s', hrun, hs'⟩ := ih hI
    exact ⟨s', run_cons.2 ⟨s₁, hs₁, hrun⟩, hs'⟩

end Transition
