import SynchroSonic.Transport.BranchQueue

/-!
# Drop-oldest, with one producer

With a single producer a `push` finds room on its second try, since nobody else fills the queue. What is
left of the policy then depends on one moment: when the oldest item is to be taken out, is there one? If
so, the pushed item is in the queue or received by the time `push` returns; if the consumer has emptied
the queue since it was found full, `push` gives up the new item, into an empty queue
(`push_keeps_newest_iff`).

`BufferedBranchQueue.push`, in which all of this is one step, is one interleaving of the machine
(`push_is_run`).
-/

namespace SynchroSonic

/-- The producer is about to take the oldest item out. -/
def PushStage.makesRoom {T : Type} : PushStage T → Bool
  | .makeRoom _ => true
  | _ => false

/-- The producer at this stage has given its item up. -/
def PushStage.GivenUp {T : Type} : PushStage T → Prop
  | .countNewest _ => True
  | .done _ outcome => outcome = .droppedNewest
  | _ => False

namespace SharedBranchQueue

variable {T : Type} {shared next : SharedBranchQueue Unit T} {action : BranchQueueAction Unit T}

/-- A `push` that returns has not dropped its item: the item is in the queue or was received. -/
def KeepsNewest (shared : SharedBranchQueue Unit T) : BranchQueueAction Unit T → Prop
  | .proceed producer => ∀ item outcome, shared.stages producer = .done item outcome →
    (outcome = .enqueued ∨ outcome = .droppedOldest) ∧
      (item ∈ shared.queue.items ∨ item ∈ shared.received)
  | _ => True

/-- When the oldest item is to be taken out, the queue is not empty. -/
def OldestLeft (shared : SharedBranchQueue Unit T) : BranchQueueAction Unit T → Prop
  | .proceed producer => (shared.stages producer).makesRoom = true → 0 < shared.queue.items.length
  | _ => True

instance (shared : SharedBranchQueue Unit T) (action : BranchQueueAction Unit T) :
    Decidable (shared.OldestLeft action) :=
  match action with
  | .proceed producer => inferInstanceAs (Decidable ((shared.stages producer).makesRoom = true → _))
  | .push _ _ => isTrue trivial
  | .recv => isTrue trivial

/-! ### While there is an oldest item -/

/-- The producer at this stage will not give its item up. -/
def Keeping (shared : SharedBranchQueue Unit T) : PushStage T → Prop
  | .idle => True
  | .makeRoom _ => True
  | .countOldest _ => shared.queue.items.length < shared.queue.capacity
  | .retry _ => shared.queue.items.length < shared.queue.capacity
  | .countNewest _ => False
  | .done item outcome => (outcome = .enqueued ∨ outcome = .droppedOldest) ∧
    (item ∈ shared.queue.items ∨ item ∈ shared.received)

/-- The queue is within its bound and the producer will not give its item up. -/
structure Keeps (shared : SharedBranchQueue Unit T) : Prop where
  bound : shared.queue.items.length ≤ shared.queue.capacity
  keeping : shared.Keeping (shared.stages ())

theorem keeps_new (capacity : ℕ) : (new capacity : SharedBranchQueue Unit T).Keeps :=
  ⟨Nat.zero_le _, trivial⟩

/-- **A step keeps the item**, unless the queue is empty when room is to be made. -/
theorem Keeps.step (h : shared.Keeps) (hleft : shared.OldestLeft action)
    (hstep : shared.step action = some next) : next.Keeps := by
  obtain ⟨hbound, hkeeping⟩ := h
  cases moves_of_step hstep with
  | sent producer item hstage hroom =>
    refine ⟨?_, Or.inl rfl, Or.inl ?_⟩
    · simp only [setStage, setItems, List.length_append, List.length_singleton]
      omega
    · exact List.mem_append_right _ List.mem_cons_self
  | full producer item hstage hfull => exact ⟨hbound, trivial⟩
  | evicted producer item oldest rest hstage hitems =>
    -- from here on the consumer alone touches the queue, so there is room for one item
    rw [hitems, List.length_cons] at hbound
    exact ⟨Nat.le_of_succ_le hbound, hbound⟩
  | drained producer item hstage hitems =>
    have hpos := hleft (by rw [hstage]; rfl)
    rw [hitems] at hpos
    exact absurd hpos (Nat.lt_irrefl 0)
  | countedOldest producer item hstage =>
    rw [hstage] at hkeeping
    exact ⟨hbound, hkeeping⟩
  | resent producer item hstage hroom =>
    refine ⟨?_, Or.inr rfl, Or.inl ?_⟩
    · simp only [setStage, setItems, List.length_append, List.length_singleton]
      omega
    · exact List.mem_append_right _ List.mem_cons_self
  | refused producer item hstage hfull =>
    rw [hstage] at hkeeping
    exact absurd hkeeping (not_lt.2 hfull)
  | countedNewest producer item hstage =>
    rw [hstage] at hkeeping
    exact hkeeping.elim
  | returned producer item outcome hstage => exact ⟨hbound, trivial⟩
  | received item rest hitems =>
    rw [hitems, List.length_cons] at hbound
    refine ⟨Nat.le_of_succ_le hbound, ?_⟩
    show Keeping _ (shared.stages ())
    rcases hstage : shared.stages () with - | pushed | pushed | pushed | pushed | ⟨pushed, outcome⟩
    · trivial
    · trivial
    · exact hbound
    · exact hbound
    · rw [hstage] at hkeeping
      exact hkeeping
    · -- the pushed item may be the one that is received
      rw [hstage] at hkeeping
      obtain ⟨houtcome, hitem⟩ := hkeeping
      rw [hitems, List.mem_cons] at hitem
      refine ⟨houtcome, ?_⟩
      rcases hitem with (rfl | hrest) | hreceived
      · exact Or.inr (List.mem_append_right _ List.mem_cons_self)
      · exact Or.inl hrest
      · exact Or.inr (List.mem_append_left _ hreceived)

theorem Keeps.keepsNewest (h : shared.Keeps) (action : BranchQueueAction Unit T) :
    shared.KeepsNewest action := by
  cases action with
  | push producer item => trivial
  | proceed producer =>
    intro item outcome hstage
    have hkeeping := h.keeping
    rw [hstage] at hkeeping
    exact hkeeping
  | recv => trivial

/-! ### Once the item is given up -/

/-- An item that is given up stays given up until `push` returns and says so. -/
theorem givenUp_step (h : (shared.stages ()).GivenUp) (hkeeps : shared.KeepsNewest action)
    (hstep : shared.step action = some next) : (next.stages ()).GivenUp := by
  cases moves_of_step hstep with
  | sent producer item hstage hroom => exact (hstage ▸ h : PushStage.GivenUp .idle).elim
  | full producer item hstage hfull => exact (hstage ▸ h : PushStage.GivenUp .idle).elim
  | evicted producer item oldest rest hstage hitems =>
    exact (hstage ▸ h : PushStage.GivenUp (.makeRoom item)).elim
  | drained producer item hstage hitems =>
    exact (hstage ▸ h : PushStage.GivenUp (.makeRoom item)).elim
  | countedOldest producer item hstage =>
    exact (hstage ▸ h : PushStage.GivenUp (.countOldest item)).elim
  | resent producer item hstage hroom => exact (hstage ▸ h : PushStage.GivenUp (.retry item)).elim
  | refused producer item hstage hfull => exact (hstage ▸ h : PushStage.GivenUp (.retry item)).elim
  | countedNewest producer item hstage => rfl
  | returned producer item outcome hstage =>
    rw [hstage] at h
    obtain rfl : outcome = .droppedNewest := h
    rcases (hkeeps item .droppedNewest hstage).1 with houtcome | houtcome
    · cases houtcome
    · cases houtcome
  | received item rest hitems => exact h

/-- **The policy is drop-oldest, never drop-newest**, in a run that ends between pushes, exactly if the
queue is not empty at any moment at which an oldest item is to be taken out. -/
theorem push_keeps_newest_iff (capacity : ℕ) (actions : List (BranchQueueAction Unit T))
    (reached : SharedBranchQueue Unit T)
    (hrun : Transition.run step (new capacity) actions = some reached)
    (hidle : reached.stages () = .idle) :
    Transition.Along step KeepsNewest (new capacity) actions ↔
      Transition.Along step OldestLeft (new capacity) actions := by
  constructor
  · intro hkeeps
    refine Transition.along_of_prefix fun before action shared hbefore hshared ↦ ?_
    cases action with
    | push producer item => trivial
    | proceed producer =>
      intro hstage
      by_contra hempty
      obtain ⟨after, rfl⟩ := hbefore
      rw [List.append_assoc, List.singleton_append] at hkeeps hrun
      obtain ⟨between, hbetween, hrest⟩ := Transition.run_append.1 hrun
      obtain rfl := Option.some.inj (hshared.symm.trans hbetween)
      obtain ⟨next, hstep, hafter⟩ := Transition.run_cons.1 hrest
      have halong := Transition.along_rest hkeeps hshared
      -- the item is given up here, and no later `push` can begin before this one returns
      have hgiven : (next.stages ()).GivenUp := by
        cases moves_of_step hstep with
        | drained _ item hstage hitems => trivial
        | evicted _ item oldest rest hstage hitems =>
          rw [hitems] at hempty
          exact absurd (Nat.succ_pos _) hempty
        | countedOldest _ item hstage' => cases hstage' ▸ hstage
        | resent _ item hstage' hroom => cases hstage' ▸ hstage
        | refused _ item hstage' hfull => cases hstage' ▸ hstage
        | countedNewest _ item hstage' => cases hstage' ▸ hstage
        | returned _ item outcome hstage' => cases hstage' ▸ hstage
      have hend : (reached.stages ()).GivenUp :=
        Transition.run_invariant_along (I := fun shared ↦ (shared.stages ()).GivenUp)
          (fun _ _ _ h hkeeps hstep ↦ givenUp_step h hkeeps hstep) hgiven (halong.2 next hstep) hafter
      rw [hidle] at hend
      exact hend
    | recv => trivial
  · exact Transition.along_of_invariant (fun _ _ _ h hleft hstep ↦ h.step hleft hstep)
      (fun _ action h _ ↦ h.keepsNewest action) (keeps_new capacity)

/-! ### The sequential `push` -/

/-- The state after the consumer has received a number of items. -/
def receive (taken : ℕ) (shared : SharedBranchQueue Unit T) : SharedBranchQueue Unit T :=
  { shared.setItems (shared.queue.items.drop taken) with
    received := shared.received ++ shared.queue.items.take taken }

/-- The state after the first send of an item to a full queue. -/
def foundFull (item : T) (shared : SharedBranchQueue Unit T) : SharedBranchQueue Unit T :=
  ({ shared with pushed := shared.pushed ++ [item] } : SharedBranchQueue Unit T).setStage ()
    (.makeRoom item)

theorem run_recv {taken : ℕ} (h : taken ≤ shared.queue.items.length) :
    Transition.run step shared (List.replicate taken .recv) = some (shared.receive taken) := by
  induction taken generalizing shared with
  | zero =>
    rw [List.replicate_zero, Transition.run_nil, receive, List.drop_zero, List.take_zero,
      List.append_nil]
    rfl
  | succ taken ih =>
    rcases hitems : shared.queue.items with - | ⟨item, rest⟩
    · rw [hitems] at h
      exact absurd h (Nat.not_succ_le_zero taken)
    · have hstep : shared.step .recv =
          some { shared.setItems rest with received := shared.received ++ [item] } := by
        simp only [step, hitems]
      rw [hitems, List.length_cons] at h
      rw [List.replicate_succ]
      refine Transition.run_cons.2 ⟨_, hstep, (ih (Nat.le_of_succ_le_succ h)).trans (congrArg some ?_)⟩
      simp only [receive, setItems, hitems, List.drop_succ_cons, List.take_succ_cons,
        List.append_assoc, List.singleton_append]

theorem step_proceed {stage : PushStage T} (hstage : shared.stages () = stage) :
    shared.step (.proceed ()) = shared.proceedFrom () stage := by
  rw [← hstage]
  rfl

/-- The rest of a `push` that finds no oldest item. -/
theorem run_drained {item : T} (hstage : shared.stages () = .makeRoom item)
    (hitems : shared.queue.items = []) :
    ∃ reached, Transition.run step shared [.proceed (), .proceed ()] = some reached ∧
      reached.stages () = .done item .droppedNewest ∧
      reached.queue =
        { shared.queue with items := [], droppedPackets := shared.queue.droppedPackets + 1 } := by
  have hfirst : shared.step (.proceed ()) = some (shared.setStage () (.countNewest item)) := by
    rw [step_proceed hstage, proceedFrom]
    simp only [hitems]
  refine ⟨_, Transition.run_cons.2 ⟨_, hfirst, Transition.run_cons.2 ⟨_, rfl, rfl⟩⟩, rfl, ?_⟩
  rw [← hitems]
  rfl

/-- The rest of a `push` that finds one. -/
theorem run_replaced {item oldest : T} {rest : List T} (hstage : shared.stages () = .makeRoom item)
    (hitems : shared.queue.items = oldest :: rest) (hroom : rest.length < shared.queue.capacity) :
    ∃ reached, Transition.run step shared [.proceed (), .proceed (), .proceed ()] = some reached ∧
      reached.stages () = .done item .droppedOldest ∧
      reached.queue =
        { shared.queue with
          items := rest ++ [item]
          droppedPackets := shared.queue.droppedPackets + 1 } := by
  have hfirst : shared.step (.proceed ()) =
      some ((shared.setItems rest).setStage () (.countOldest item)) := by
    rw [step_proceed hstage, proceedFrom]
    simp only [hitems]
  have hlast : (((shared.setItems rest).setStage () (.countOldest item)).count.setStage ()
      (.retry item)).step (.proceed ()) =
        some (((((shared.setItems rest).setStage () (.countOldest item)).count.setStage ()
          (.retry item)).setItems (rest ++ [item])).setStage () (.done item .droppedOldest)) :=
    if_neg (isFull_iff.not.2 (not_le.2 hroom))
  exact ⟨_, Transition.run_cons.2 ⟨_, hfirst, Transition.run_cons.2 ⟨_, rfl,
    Transition.run_cons.2 ⟨_, hlast, rfl⟩⟩⟩, rfl, rfl⟩

/-- **The sequential `push` is an interleaving**: the producer's steps, with the items the consumer takes
received between the first two. -/
theorem push_is_run (shared : SharedBranchQueue Unit T) (item : T) (taken : ℕ)
    (hidle : shared.stages () = .idle)
    (hbound : shared.queue.items.length ≤ shared.queue.capacity) :
    ∃ (actions : List (BranchQueueAction Unit T)) (reached : SharedBranchQueue Unit T)
      (outcome : BufferedPushOutcome),
      Transition.run step shared (.push () item :: actions) = some reached ∧
        reached.stages () = .done item outcome ∧
        shared.queue.push ⟨false, taken⟩ item = (.ok outcome, reached.queue) := by
  rcases Nat.lt_or_ge shared.queue.items.length shared.queue.capacity with hroom | hfull
  · have hstep : shared.step (.push () item) = some
        ((({ shared with pushed := shared.pushed ++ [item] } : SharedBranchQueue Unit T).setItems
          (shared.queue.items ++ [item])).setStage () (.done item .enqueued)) := by
      simp only [step, hidle, isFull, not_le.2 hroom, decide_false, Bool.false_eq_true, if_false]
    refine ⟨[], _, .enqueued, Transition.run_cons.2 ⟨_, hstep, rfl⟩, rfl, ?_⟩
    simp only [BufferedBranchQueue.push, Bool.false_eq_true, if_false, if_pos hroom]
    rfl
  · have hstep : shared.step (.push () item) = some (shared.foundFull item) := by
      simp only [step, hidle, isFull, hfull, decide_true, if_true]
      rfl
    -- the consumer takes no more than there is
    obtain ⟨received, hreceived⟩ : ∃ received, received = min taken shared.queue.items.length := ⟨_, rfl⟩
    have hrecv : Transition.run step (shared.foundFull item) (List.replicate received .recv) =
        some ((shared.foundFull item).receive received) :=
      run_recv (hreceived ▸ min_le_right taken shared.queue.items.length)
    have hdrop : shared.queue.items.drop taken = shared.queue.items.drop received := by
      rcases le_total taken shared.queue.items.length with hle | hle
      · rw [hreceived, min_eq_left hle]
      · rw [hreceived, min_eq_right hle, List.drop_length, List.drop_eq_nil_of_le hle]
    have hstage : ((shared.foundFull item).receive received).stages () = .makeRoom item := rfl
    rcases hleft : shared.queue.items.drop received with - | ⟨oldest, rest⟩
    · obtain ⟨reached, hrest, hdone, hqueue⟩ := run_drained hstage hleft
      refine ⟨_, reached, .droppedNewest, Transition.run_cons.2 ⟨_, hstep,
        Transition.run_append.2 ⟨_, hrecv, hrest⟩⟩, hdone, ?_⟩
      simp only [BufferedBranchQueue.push, Bool.false_eq_true, if_false, if_neg (not_lt.2 hfull),
        hdrop, hleft, hqueue]
      rfl
    · have hlength : rest.length < shared.queue.capacity := by
        have hlength := congrArg List.length hleft
        rw [List.length_drop, List.length_cons] at hlength
        omega
      obtain ⟨reached, hrest, hdone, hqueue⟩ := run_replaced hstage hleft hlength
      refine ⟨_, reached, .droppedOldest, Transition.run_cons.2 ⟨_, hstep,
        Transition.run_append.2 ⟨_, hrecv, hrest⟩⟩, hdone, ?_⟩
      simp only [BufferedBranchQueue.push, Bool.false_eq_true, if_false, if_neg (not_lt.2 hfull),
        hdrop, hleft, hqueue]
      rfl

end SharedBranchQueue

namespace Sample

/-- The queue of one place again, but the first item is received after the queue was found full. -/
def overtaken : List (BranchQueueAction Unit ℕ) :=
  [.push () 1, .proceed (), .push () 2, .recv, .proceed (), .proceed ()]

end Sample

namespace SharedBranchQueue

/-- The second item was kept. -/
theorem push_keeps_newest_replaced :
    Transition.Along step KeepsNewest (new 1) Sample.replaced := by
  have hrun : (Transition.run step (new 1) Sample.replaced).map (fun shared ↦ shared.stages ()) =
      some .idle := by
    decide
  obtain ⟨reached, hrun, hidle⟩ := Option.map_eq_some_iff.1 hrun
  exact (push_keeps_newest_iff 1 Sample.replaced reached hrun hidle).2 (by decide)

/-- The new item is dropped, and the queue is empty. -/
theorem push_drops_newest :
    ¬∀ (capacity : ℕ) (actions : List (BranchQueueAction Unit ℕ)), 1 ≤ capacity →
      Transition.Along step KeepsNewest (new capacity) actions := by
  intro hall
  have hrun : (Transition.run step (new 1) Sample.overtaken).map (fun shared ↦ shared.stages ()) =
      some (.done 2 .droppedNewest) := by
    decide
  obtain ⟨reached, hrun, hstage⟩ := Option.map_eq_some_iff.1 hrun
  have hkeeps := Transition.holds_of_along (hall 1 (Sample.overtaken ++ [.proceed ()]) le_rfl) hrun
  rcases (hkeeps 2 .droppedNewest hstage).1 with houtcome | houtcome
  · cases houtcome
  · cases houtcome

end SharedBranchQueue

end SynchroSonic
