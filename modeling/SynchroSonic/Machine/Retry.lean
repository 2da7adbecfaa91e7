import SynchroSonic.Machine.Transition

/-!
# Bounded, sequential retries

One thing is tried at a time, and after a failure there is a pause. A `Policy` says which results are
worth another attempt, how many attempts there are, and how long the pause after each of them is.
`step` is the machine that follows the policy: it is shown what happens — a restart, an attempt that
starts, an answer — and refuses what the policy does not allow.

**Between two restarts, what the machine accepts is bounded and sequential** (`rounds_sequential`).
-/

namespace Retry

/-- What can be seen. -/
inductive Event (α ρ τ : Type*)
  /-- The attempts so far no longer count. The first of a new series is due at `due`, if there is to be
  one. -/
  | restarted (due : Option τ)
  | started (attempt : α) (now : τ)
  | answered (attempt : α) (result : ρ) (now : τ)

/-- What is tried, how often, and when. -/
structure Policy (α ρ τ : Type*) where
  /-- Which attempt of its series this is. -/
  number : α → ℕ
  retryable : ρ → Bool
  limit : ℕ
  backoff : ℕ → τ

/-- Where a series of attempts stands. -/
inductive Phase (α τ : Type*)
  /-- Nothing is to be tried. -/
  | settled
  /-- So many attempts have failed, and the next is due. -/
  | waiting (failed : ℕ) (due : τ)
  | trying (attempt : α)

variable {α ρ τ : Type*}

namespace Event

def isRestart : Event α ρ τ → Bool
  | .restarted _ => true
  | _ => false

/-- The attempt that starts. -/
def starting : Event α ρ τ → Option α
  | .started attempt _ => some attempt
  | _ => none

end Event

/-- Where a series stands after a restart. -/
def Phase.restarted : Option τ → Phase α τ
  | none => .settled
  | some due => .waiting 0 due

/-- The attempt that is under way. -/
def Phase.underWay : Phase α τ → List α
  | .trying attempt => [attempt]
  | _ => []

/-- Nothing has been tried yet. -/
def Phase.Fresh (phase : Phase α τ) : Prop := ∃ due, phase = Phase.restarted due

namespace Policy

variable (policy : Policy α ρ τ)

/-- The result is followed by another attempt. -/
def again (attempt : α) (result : ρ) : Bool :=
  policy.retryable result && decide (policy.number attempt < policy.limit)

/-- **A bounded, sequential series of attempts.** They are numbered from 1 up to the limit at most. An
answer follows the start of its attempt; every start but the first follows an answer that asks for
another attempt, after the pause; an answer that does not is the end of it. -/
structure Sequential (round : List (Event α ρ τ)) [Add τ] [LE τ] : Prop where
  numbered : ∃ tried ≤ policy.limit,
    (round.filterMap Event.starting).map policy.number = List.range' 1 tried
  answers : ∀ before attempt result now after, round = before ++ .answered attempt result now :: after →
    ∃ earlier startedAt, before = earlier ++ [.started attempt startedAt]
  follows : ∀ before attempt now after, round = before ++ .started attempt now :: after →
    before = [] ∨ ∃ earlier previous result answeredAt,
      before = earlier ++ [.answered previous result answeredAt] ∧
        policy.again previous result = true ∧
        policy.number attempt = policy.number previous + 1 ∧
        answeredAt + policy.backoff (policy.number previous) ≤ now
  final : ∀ before attempt result now after, round = before ++ .answered attempt result now :: after →
    policy.again attempt result = false → after = []

variable [Add τ]

/-- Where a series stands after an answer. -/
def answered (attempt : α) (result : ρ) (now : τ) : Phase α τ :=
  if policy.again attempt result then
    .waiting (policy.number attempt) (now + policy.backoff (policy.number attempt))
  else .settled

theorem underWay_answered (attempt : α) (result : ρ) (now : τ) :
    (policy.answered attempt result now).underWay = [] := by
  unfold answered
  split <;> rfl

def step [LE τ] [DecidableLE τ] [DecidableEq α] : Phase α τ → Event α ρ τ → Option (Phase α τ)
  | .trying _, .restarted _ => none
  | _, .restarted due => some (.restarted due)
  | .waiting failed due, .started attempt now =>
    if policy.number attempt = failed + 1 ∧ failed < policy.limit ∧ due ≤ now then
      some (.trying attempt)
    else none
  | .trying attempt, .answered other result now =>
    if other = attempt then some (policy.answered attempt result now) else none
  | _, _ => none

variable {policy} {phase next : Phase α τ} {event : Event α ρ τ}
  {round : List (Event α ρ τ)} {attempt : α}

/-! ### Rounds -/

/-- What a round without restarts says about the phase it ends in. -/
def Stands (policy : Policy α ρ τ) (round : List (Event α ρ τ)) : Phase α τ → Prop
  | .settled => True
  | .waiting failed due =>
    (round.filterMap Event.starting).map policy.number = List.range' 1 failed ∧
      (round = [] ∨ ∃ earlier previous result answeredAt,
        round = earlier ++ [.answered previous result answeredAt] ∧
          policy.again previous result = true ∧ failed = policy.number previous ∧
          due = answeredAt + policy.backoff failed)
  | .trying attempt =>
    (∃ earlier startedAt, round = earlier ++ [.started attempt startedAt]) ∧
      (round.filterMap Event.starting).map policy.number = List.range' 1 (policy.number attempt) ∧
      policy.number attempt ≤ policy.limit

/-- A place in a list with one more element is the last one, or one of the list. -/
theorem place_cases {β : Type*} {round before after : List β} {last e : β}
    (h : round ++ [last] = before ++ e :: after) :
    (before = round ∧ e = last ∧ after = []) ∨
      ∃ rest, after = rest ++ [last] ∧ round = before ++ e :: rest := by
  rcases List.eq_nil_or_concat' after with rfl | ⟨rest, other, rfl⟩
  · obtain ⟨rfl, hlast⟩ := List.append_inj' h rfl
    exact Or.inl ⟨rfl, (List.singleton_inj.1 hlast).symm, rfl⟩
  · rw [← List.cons_append, ← List.append_assoc] at h
    obtain ⟨rfl, hlast⟩ := List.append_inj' h rfl
    exact Or.inr ⟨rest, by rw [List.singleton_inj.1 hlast], rfl⟩

/-- While something is still to come, the last answer asked for another attempt. -/
theorem Stands.not_final (h : policy.Stands round phase) (hphase : phase ≠ .settled)
    {before : List (Event α ρ τ)} {result : ρ} {now : τ}
    (hround : round = before ++ [.answered attempt result now]) :
    policy.again attempt result = true := by
  cases phase with
  | settled => exact absurd rfl hphase
  | waiting failed due =>
    rcases h.2 with rfl | ⟨earlier, previous, result', answeredAt, rfl, hagain, -⟩
    · simp at hround
    · obtain ⟨-, hlast⟩ := List.append_inj' hround rfl
      obtain ⟨rfl, rfl, -⟩ := Event.answered.inj (List.singleton_inj.1 hlast)
      exact hagain
  | trying trying =>
    obtain ⟨⟨earlier, startedAt, rfl⟩, -⟩ := h
    obtain ⟨-, hlast⟩ := List.append_inj' hround rfl
    simp at hlast

theorem stands_fresh (h : phase.Fresh) : policy.Stands [] phase := by
  obtain ⟨due | due, rfl⟩ := h
  · trivial
  · exact ⟨rfl, Or.inl rfl⟩

variable [LE τ]

theorem sequential_nil : policy.Sequential ([] : List (Event α ρ τ)) :=
  ⟨⟨0, Nat.zero_le _, rfl⟩, by simp, by simp, by simp⟩

/-- No answer before the end is the last one. -/
theorem Sequential.final_concat (h : policy.Sequential round) (hstands : policy.Stands round phase)
    (hphase : phase ≠ .settled) {before after : List (Event α ρ τ)} {result : ρ} {now : τ}
    (hround : round ++ [event] = before ++ .answered attempt result now :: after)
    (hagain : policy.again attempt result = false) : after = [] := by
  rcases place_cases hround with ⟨-, -, hafter⟩ | ⟨rest, -, hrest⟩
  · exact hafter
  · obtain rfl := h.final _ _ _ _ _ hrest hagain
    rw [hstands.not_final hphase hrest] at hagain
    cases hagain

theorem Sequential.started (h : policy.Sequential round) {failed : ℕ} {due now : τ}
    (hstands : policy.Stands round (.waiting failed due))
    (hnumber : policy.number attempt = failed + 1) (hlimit : failed < policy.limit)
    (hdue : due ≤ now) : policy.Sequential (round ++ [.started attempt now]) ∧
      policy.Stands (round ++ [.started attempt now]) (.trying attempt) := by
  have hnumbers :
      ((round ++ [Event.started attempt now]).filterMap Event.starting).map policy.number =
      List.range' 1 (failed + 1) := by
    rw [List.filterMap_append, List.map_append, hstands.1, List.range'_1_concat]
    show _ ++ [policy.number attempt] = _
    rw [hnumber, Nat.add_comm 1]
  refine ⟨⟨⟨failed + 1, hlimit, hnumbers⟩, ?_, ?_, fun before other result at' after hround ↦
    h.final_concat hstands (by simp) hround⟩, ⟨round, now, rfl⟩, hnumber ▸ hnumbers, hnumber ▸ hlimit⟩
  · intro before other result answeredAt after hround
    rcases place_cases hround with ⟨-, hlast, -⟩ | ⟨rest, -, hrest⟩
    · cases hlast
    · exact h.answers _ _ _ _ _ hrest
  · intro before other startedAt after hround
    rcases place_cases hround with ⟨rfl, hlast, -⟩ | ⟨rest, -, hrest⟩
    · obtain ⟨rfl, rfl⟩ := Event.started.inj hlast
      refine hstands.2.imp id ?_
      rintro ⟨earlier, previous, result, answeredAt, hbefore, hagain, rfl, rfl⟩
      exact ⟨earlier, previous, result, answeredAt, hbefore, hagain, hnumber, hdue⟩
    · exact h.follows _ _ _ _ hrest

theorem Sequential.answered (h : policy.Sequential round) (result : ρ) (now : τ)
    (hstands : policy.Stands round (.trying attempt)) :
    policy.Sequential (round ++ [.answered attempt result now]) ∧
      policy.Stands (round ++ [.answered attempt result now])
        (policy.answered attempt result now) := by
  have ⟨hlast, hnumbers, hlimit⟩ := hstands
  have hsame : (round ++ [Event.answered attempt result now]).filterMap Event.starting =
      round.filterMap Event.starting := by
    rw [List.filterMap_append]
    exact List.append_nil _
  refine ⟨⟨⟨policy.number attempt, hlimit, hsame ▸ hnumbers⟩, ?_, ?_, ?_⟩, ?_⟩
  · intro before other result' answeredAt after hround
    rcases place_cases hround with ⟨rfl, hanswer, -⟩ | ⟨rest, -, hrest⟩
    · obtain ⟨rfl, -, -⟩ := Event.answered.inj hanswer
      exact hlast
    · exact h.answers _ _ _ _ _ hrest
  · intro before other startedAt after hround
    rcases place_cases hround with ⟨-, hstart, -⟩ | ⟨rest, -, hrest⟩
    · cases hstart
    · exact h.follows _ _ _ _ hrest
  · intro before other result' answeredAt after hround
    exact h.final_concat hstands (by simp) hround
  · unfold Policy.answered
    split
    next hagain =>
      exact ⟨hsame ▸ hnumbers, Or.inr ⟨round, attempt, result, now, rfl, hagain, rfl, rfl⟩⟩
    · trivial

variable [DecidableLE τ] [DecidableEq α]

/-! ### Steps -/

theorem step_restarted {due : Option τ} (h : policy.step phase (.restarted due) = some next) :
    next = .restarted due := by
  cases phase with
  | trying attempt => exact absurd h.symm (Option.some_ne_none _)
  | settled => exact (Option.some.inj h).symm
  | waiting failed due => exact (Option.some.inj h).symm

theorem step_started {now : τ} (h : policy.step phase (.started attempt now) = some next) :
    ∃ failed due, phase = .waiting failed due ∧ next = .trying attempt ∧
      policy.number attempt = failed + 1 ∧ failed < policy.limit ∧ due ≤ now := by
  cases phase with
  | trying attempt => exact absurd h.symm (Option.some_ne_none _)
  | settled => exact absurd h.symm (Option.some_ne_none _)
  | waiting failed due =>
    obtain ⟨⟨hnumber, hlimit, hdue⟩, hnext⟩ := Option.ite_none_right_eq_some.1 h
    exact ⟨failed, due, rfl, (Option.some.inj hnext).symm, hnumber, hlimit, hdue⟩

theorem step_answered {result : ρ} {now : τ}
    (h : policy.step phase (.answered attempt result now) = some next) :
    phase = .trying attempt ∧ next = policy.answered attempt result now := by
  cases phase with
  | settled => exact absurd h.symm (Option.some_ne_none _)
  | waiting failed due => exact absurd h.symm (Option.some_ne_none _)
  | trying trying =>
    obtain ⟨rfl, hnext⟩ := Option.ite_none_right_eq_some.1 h
    exact ⟨rfl, (Option.some.inj hnext).symm⟩

/-! ### Runs -/

theorem Sequential.step (h : policy.Sequential round) (hstands : policy.Stands round phase)
    (hevent : event.isRestart = false) (hstep : policy.step phase event = some next) :
    policy.Sequential (round ++ [event]) ∧ policy.Stands (round ++ [event]) next := by
  cases event with
  | restarted due => cases hevent
  | started attempt now =>
    obtain ⟨failed, due, rfl, rfl, hnumber, hlimit, hdue⟩ := step_started hstep
    exact h.started hstands hnumber hlimit hdue
  | answered attempt result now =>
    obtain ⟨rfl, rfl⟩ := step_answered hstep
    exact h.answered result now hstands

/-- **A round is bounded and sequential.** -/
theorem sequential_of_run (hfresh : phase.Fresh) (hround : ∀ event ∈ round, event.isRestart = false)
    (h : Transition.run policy.step phase round = some next) : policy.Sequential round := by
  have hrounds : (∀ event ∈ round, event.isRestart = false) →
      policy.Sequential round ∧ policy.Stands round next := by
    refine Transition.run_history (I := fun round phase ↦
      (∀ event ∈ round, event.isRestart = false) →
        policy.Sequential round ∧ policy.Stands round phase) ?_
      (fun _ ↦ ⟨sequential_nil, stands_fresh hfresh⟩) h
    intro round phase event next ih hstep hround
    obtain ⟨hround, hevent⟩ := List.forall_mem_append.1 hround
    obtain ⟨hsequential, hstands⟩ := ih hround
    exact hsequential.step hstands (hevent event List.mem_cons_self) hstep
  exact (hrounds hround).1

/-- **Between two restarts, what the machine accepts is bounded and sequential.** -/
theorem rounds_sequential (hfresh : phase.Fresh) {events before after : List (Event α ρ τ)}
    (h : Transition.run policy.step phase events = some next)
    (hevents : events = before ++ round ++ after)
    (hbefore : before = [] ∨ ∃ due, before.getLast? = some (.restarted due))
    (hround : ∀ event ∈ round, event.isRestart = false) : policy.Sequential round := by
  rw [hevents] at h
  obtain ⟨ended, h, -⟩ := Transition.run_append.1 h
  obtain ⟨start, hstart, hrun⟩ := Transition.run_append.1 h
  rcases hbefore with rfl | ⟨due, hlast⟩
  · obtain rfl := Option.some.inj hstart
    exact sequential_of_run hfresh hround hrun
  · obtain ⟨earlier, rfl⟩ := List.getLast?_eq_some_iff.1 hlast
    obtain ⟨middle, -, hrestart⟩ := Transition.run_append_singleton.1 hstart
    exact sequential_of_run ⟨due, step_restarted hrestart⟩ hround hrun

/-- **What is settled stays settled**: without a restart that sets a new time, nothing is tried. -/
theorem starting_eq_none_of_settled {events : List (Event α ρ τ)}
    (h : Transition.run policy.step .settled events = some next)
    (hevents : ∀ event ∈ events, ∀ due, event ≠ .restarted (some due)) :
    ∀ event ∈ events, event.starting = none := by
  induction events with
  | nil => exact fun event hmem ↦ absurd hmem List.not_mem_nil
  | cons event events ih =>
    obtain ⟨hevent, hlater⟩ := List.forall_mem_cons.1 hevents
    obtain ⟨after, hstep, hrun⟩ := Transition.run_cons.1 h
    cases event with
    | restarted due =>
      cases due with
      | some due => exact absurd rfl (hevent due)
      | none =>
        obtain rfl := step_restarted hstep
        exact List.forall_mem_cons.2 ⟨rfl, ih hrun hlater⟩
    | started attempt now => exact absurd hstep.symm (Option.some_ne_none _)
    | answered attempt result now => exact absurd hstep.symm (Option.some_ne_none _)

end Policy

end Retry
