import SynchroSonic.Machine.Threads
import SynchroSonic.Machine.Transition
import SynchroSonic.Transport.Fanout

/-!
# A branch queue and its threads

`push` is no atomic step: it sends, takes the oldest item out if the queue was full, counts it, sends
again and counts the item it has to give up. The channel operations and the updates of the counter are
the steps of this machine; producers and the consumer take them in any order.

An item that was pushed is received, counted as dropped, in the queue, or in the hands of a producer
(`branch_queue_accounting`). The policy is *drop-oldest* only as long as there is an oldest item to drop:
if the consumer empties the queue between the two steps, the new item is dropped
(`push_keeps_newest_iff`).
-/

namespace SynchroSonic

/-- Where a producer is inside `push`, with the item it pushes. -/
inductive PushStage (T : Type)
  | idle
  /-- The queue was full; the oldest item is to be taken out. -/
  | makeRoom (item : T)
  /-- An item has been taken out and is to be counted. -/
  | countOldest (item : T)
  /-- The item is to be sent again. -/
  | retry (item : T)
  /-- The item is given up and is to be counted. -/
  | countNewest (item : T)
  /-- `push` returns. -/
  | done (item : T) (outcome : BufferedPushOutcome)
  deriving DecidableEq, Repr

/-- A queue with its producers `P` and its consumer. -/
structure SharedBranchQueue (P T : Type) where
  queue : BufferedBranchQueue T
  stages : P → PushStage T := fun _ ↦ .idle
  /-- The items of all calls of `push`, in the order of their first send. -/
  pushed : List T := []
  /-- What the consumer has received, oldest first. -/
  received : List T := []

/-- A channel operation, an update of the counter or the end of a `push`. -/
inductive BranchQueueAction (P T : Type)
  /-- A producer calls `push`, which sends the item. -/
  | push (producer : P) (item : T)
  /-- A producer takes the next step of its `push`. -/
  | proceed (producer : P)
  /-- The consumer receives an item. -/
  | recv
  deriving DecidableEq, Repr

namespace SharedBranchQueue

variable {P T : Type} [DecidableEq P]

def new (capacity : ℕ) : SharedBranchQueue P T where
  queue := .new capacity

/-- The queue does not take another item. -/
def isFull (shared : SharedBranchQueue P T) : Bool :=
  decide (shared.queue.capacity ≤ shared.queue.items.length)

def setItems (items : List T) (shared : SharedBranchQueue P T) : SharedBranchQueue P T :=
  { shared with queue := { shared.queue with items } }

/-- `dropped_packets.fetch_add(1)`. -/
def count (shared : SharedBranchQueue P T) : SharedBranchQueue P T :=
  { shared with queue := { shared.queue with droppedPackets := shared.queue.droppedPackets + 1 } }

def setStage (producer : P) (stage : PushStage T) (shared : SharedBranchQueue P T) :
    SharedBranchQueue P T :=
  { shared with stages := Function.update shared.stages producer stage }

/-- The next step of a producer at this stage. -/
def proceedFrom (producer : P) (shared : SharedBranchQueue P T) :
    PushStage T → Option (SharedBranchQueue P T)
  | .idle => none
  | .makeRoom item =>
    match shared.queue.items with
    | _ :: rest => some ((shared.setItems rest).setStage producer (.countOldest item))
    -- the consumer was faster
    | [] => some (shared.setStage producer (.countNewest item))
  | .countOldest item => some (shared.count.setStage producer (.retry item))
  | .retry item =>
    if shared.isFull then some (shared.setStage producer (.countNewest item))
    else some ((shared.setItems (shared.queue.items ++ [item])).setStage producer
      (.done item .droppedOldest))
  | .countNewest item => some (shared.count.setStage producer (.done item .droppedNewest))
  | .done _ _ => some (shared.setStage producer .idle)

/-- One step of one thread. -/
def step (shared : SharedBranchQueue P T) :
    BranchQueueAction P T → Option (SharedBranchQueue P T)
  | .push producer item =>
    match shared.stages producer with
    | .idle =>
      let shared := { shared with pushed := shared.pushed ++ [item] }
      if shared.isFull then some (shared.setStage producer (.makeRoom item))
      else some ((shared.setItems (shared.queue.items ++ [item])).setStage producer
        (.done item .enqueued))
    | _ => none
  | .proceed producer => shared.proceedFrom producer (shared.stages producer)
  | .recv =>
    match shared.queue.items with
    | item :: rest => some { shared.setItems rest with received := shared.received ++ [item] }
    | [] => none

/-- What a step can be. -/
inductive Moves (shared : SharedBranchQueue P T) :
    BranchQueueAction P T → SharedBranchQueue P T → Prop
  | sent (producer : P) (item : T) (hstage : shared.stages producer = .idle)
      (hroom : shared.queue.items.length < shared.queue.capacity) :
      Moves shared (.push producer item)
        ((({ shared with pushed := shared.pushed ++ [item] } : SharedBranchQueue P T).setItems
          (shared.queue.items ++ [item])).setStage producer (.done item .enqueued))
  | full (producer : P) (item : T) (hstage : shared.stages producer = .idle)
      (hfull : shared.queue.capacity ≤ shared.queue.items.length) :
      Moves shared (.push producer item)
        (({ shared with pushed := shared.pushed ++ [item] } : SharedBranchQueue P T).setStage producer
          (.makeRoom item))
  | evicted (producer : P) (item oldest : T) (rest : List T)
      (hstage : shared.stages producer = .makeRoom item) (hitems : shared.queue.items = oldest :: rest) :
      Moves shared (.proceed producer)
        ((shared.setItems rest).setStage producer (.countOldest item))
  | drained (producer : P) (item : T) (hstage : shared.stages producer = .makeRoom item)
      (hitems : shared.queue.items = []) :
      Moves shared (.proceed producer) (shared.setStage producer (.countNewest item))
  | countedOldest (producer : P) (item : T) (hstage : shared.stages producer = .countOldest item) :
      Moves shared (.proceed producer) (shared.count.setStage producer (.retry item))
  | resent (producer : P) (item : T) (hstage : shared.stages producer = .retry item)
      (hroom : shared.queue.items.length < shared.queue.capacity) :
      Moves shared (.proceed producer)
        ((shared.setItems (shared.queue.items ++ [item])).setStage producer (.done item .droppedOldest))
  | refused (producer : P) (item : T) (hstage : shared.stages producer = .retry item)
      (hfull : shared.queue.capacity ≤ shared.queue.items.length) :
      Moves shared (.proceed producer) (shared.setStage producer (.countNewest item))
  | countedNewest (producer : P) (item : T) (hstage : shared.stages producer = .countNewest item) :
      Moves shared (.proceed producer)
        (shared.count.setStage producer (.done item .droppedNewest))
  | returned (producer : P) (item : T) (outcome : BufferedPushOutcome)
      (hstage : shared.stages producer = .done item outcome) :
      Moves shared (.proceed producer) (shared.setStage producer .idle)
  | received (item : T) (rest : List T) (hitems : shared.queue.items = item :: rest) :
      Moves shared .recv { shared.setItems rest with received := shared.received ++ [item] }

variable {shared next : SharedBranchQueue P T} {action : BranchQueueAction P T}

omit [DecidableEq P] in
theorem isFull_iff : shared.isFull = true ↔ shared.queue.capacity ≤ shared.queue.items.length :=
  decide_eq_true_iff

/-- **Every step is one of these.** -/
theorem moves_of_step (h : shared.step action = some next) : shared.Moves action next := by
  cases action with
  | push producer item =>
    simp only [step] at h
    split at h
    next hstage =>
      split at h
      next hfull =>
        obtain rfl := Option.some.inj h
        exact .full producer item hstage (isFull_iff.1 hfull)
      next hroom =>
        obtain rfl := Option.some.inj h
        exact .sent producer item hstage (not_le.1 (isFull_iff.not.1 hroom))
    · cases h
  | proceed producer =>
    simp only [step] at h
    rcases hstage : shared.stages producer with - | item | item | item | item | ⟨item, outcome⟩
    · rw [hstage] at h
      cases h
    · rw [hstage] at h
      rcases hitems : shared.queue.items with - | ⟨oldest, rest⟩
      · simp only [proceedFrom, hitems] at h
        obtain rfl := Option.some.inj h
        exact .drained producer item hstage hitems
      · simp only [proceedFrom, hitems] at h
        obtain rfl := Option.some.inj h
        exact .evicted producer item oldest rest hstage hitems
    · rw [hstage] at h
      obtain rfl := Option.some.inj h
      exact .countedOldest producer item hstage
    · rw [hstage, proceedFrom] at h
      split at h
      next hfull =>
        obtain rfl := Option.some.inj h
        exact .refused producer item hstage (isFull_iff.1 hfull)
      next hroom =>
        obtain rfl := Option.some.inj h
        exact .resent producer item hstage (not_le.1 (isFull_iff.not.1 hroom))
    · rw [hstage] at h
      obtain rfl := Option.some.inj h
      exact .countedNewest producer item hstage
    · rw [hstage] at h
      obtain rfl := Option.some.inj h
      exact .returned producer item outcome hstage
  | recv =>
    simp only [step] at h
    split at h
    next item rest hitems =>
      obtain rfl := Option.some.inj h
      exact .received item rest hitems
    · cases h

end SharedBranchQueue

/-! ### Accounting -/

/-- How many items a producer at this stage has neither counted nor handed over. -/
def PushStage.holds {T : Type} : PushStage T → ℕ
  | .idle => 0
  | .makeRoom _ => 1
  | .countOldest _ => 2
  | .retry _ => 1
  | .countNewest _ => 1
  | .done _ _ => 0

/-- The item a producer at this stage may still hand over. -/
def PushStage.inHand {T : Type} : PushStage T → List T
  | .makeRoom item => [item]
  | .countOldest item => [item]
  | .retry item => [item]
  | _ => []

namespace SharedBranchQueue

variable {P T : Type} [DecidableEq P] {shared next : SharedBranchQueue P T}
  {action : BranchQueueAction P T}

/-- Every pushed item is accounted for, and the queue holds no more than it may. -/
structure Accounted [Fintype P] (capacity : ℕ) (shared : SharedBranchQueue P T) : Prop where
  capacity : shared.queue.capacity = max capacity 1
  bound : shared.queue.items.length ≤ shared.queue.capacity
  balance : shared.pushed.length = shared.received.length + shared.queue.droppedPackets +
    shared.queue.items.length + Threads.total PushStage.holds shared.stages

omit [DecidableEq P] in
theorem accounted_new [Fintype P] (capacity : ℕ) :
    (new capacity : SharedBranchQueue P T).Accounted capacity where
  capacity := rfl
  bound := Nat.zero_le _
  balance := by
    have hidle : Threads.total PushStage.holds (fun _ : P ↦ (.idle : PushStage T)) = 0 :=
      Threads.total_eq_zero PushStage.holds fun _ ↦ rfl
    show 0 = 0 + 0 + 0 + Threads.total PushStage.holds (fun _ : P ↦ (.idle : PushStage T))
    rw [hidle]

/-- **A step keeps the accounts.** -/
theorem Accounted.step [Fintype P] {capacity : ℕ} (h : shared.Accounted capacity)
    (hstep : shared.step action = some next) : next.Accounted capacity := by
  obtain ⟨hcapacity, hbound, hbalance⟩ := h
  have htotal := Threads.total_update PushStage.holds shared.stages
  cases moves_of_step hstep with
  | sent producer item hstage hroom =>
    have hupdate := htotal producer (.done item .enqueued)
    simp only [hstage, PushStage.holds] at hupdate
    refine ⟨hcapacity, ?_, ?_⟩
    · simp only [setStage, setItems, List.length_append, List.length_singleton]
      omega
    · simp only [setStage, setItems, List.length_append, List.length_singleton]
      omega
  | full producer item hstage hfull =>
    have hupdate := htotal producer (.makeRoom item)
    simp only [hstage, PushStage.holds] at hupdate
    refine ⟨hcapacity, hbound, ?_⟩
    simp only [setStage, List.length_append, List.length_singleton]
    omega
  | evicted producer item oldest rest hstage hitems =>
    -- one item less in the queue, one more that is still to be counted
    have hupdate := htotal producer (.countOldest item)
    simp only [hstage, PushStage.holds] at hupdate
    simp only [hitems, List.length_cons] at hbound hbalance
    refine ⟨hcapacity, ?_, ?_⟩
    · simp only [setStage, setItems]
      omega
    · simp only [setStage, setItems]
      omega
  | drained producer item hstage hitems =>
    have hupdate := htotal producer (.countNewest item)
    simp only [hstage, PushStage.holds] at hupdate
    refine ⟨hcapacity, hbound, ?_⟩
    simp only [setStage]
    omega
  | countedOldest producer item hstage =>
    have hupdate := htotal producer (.retry item)
    simp only [hstage, PushStage.holds] at hupdate
    refine ⟨hcapacity, hbound, ?_⟩
    simp only [setStage, count]
    omega
  | resent producer item hstage hroom =>
    have hupdate := htotal producer (.done item .droppedOldest)
    simp only [hstage, PushStage.holds] at hupdate
    refine ⟨hcapacity, ?_, ?_⟩
    · simp only [setStage, setItems, List.length_append, List.length_singleton]
      omega
    · simp only [setStage, setItems, List.length_append, List.length_singleton]
      omega
  | refused producer item hstage hfull =>
    have hupdate := htotal producer (.countNewest item)
    simp only [hstage, PushStage.holds] at hupdate
    refine ⟨hcapacity, hbound, ?_⟩
    simp only [setStage]
    omega
  | countedNewest producer item hstage =>
    have hupdate := htotal producer (.done item .droppedNewest)
    simp only [hstage, PushStage.holds] at hupdate
    refine ⟨hcapacity, hbound, ?_⟩
    simp only [setStage, count]
    omega
  | returned producer item outcome hstage =>
    have hupdate := htotal producer .idle
    simp only [hstage, PushStage.holds] at hupdate
    refine ⟨hcapacity, hbound, ?_⟩
    simp only [setStage]
    omega
  | received item rest hitems =>
    simp only [hitems, List.length_cons] at hbound hbalance
    refine ⟨hcapacity, ?_, ?_⟩
    · simp only [setItems]
      omega
    · simp only [setItems, List.length_append, List.length_singleton]
      omega

/-! ### The order of one producer -/

/-- What has come out, what is in the queue and what the producer has in its hands was pushed, in this
order and each at most once. -/
def Ordered (producer : P) (shared : SharedBranchQueue P T) : Prop :=
  (shared.received ++ shared.queue.items ++ (shared.stages producer).inHand).Sublist shared.pushed

omit [DecidableEq P] in
theorem ordered_new (capacity : ℕ) (producer : P) :
    (new capacity : SharedBranchQueue P T).Ordered producer := List.Sublist.refl []

/-- **A step keeps the order**, if there is no other producer. -/
theorem Ordered.step {producer : P} (halone : ∀ other, other = producer)
    (h : shared.Ordered producer) (hstep : shared.step action = some next) : next.Ordered producer := by
  -- what has been received, is queued or in hand stays in the order pushed; evicting drops from it
  rw [Ordered] at h ⊢
  cases moves_of_step hstep with
  | sent other item hstage hroom =>
    obtain rfl := halone other
    simp only [hstage, PushStage.inHand, List.append_nil] at h
    simp only [setStage, setItems, Function.update_self, PushStage.inHand, List.append_nil]
    rw [← List.append_assoc]
    exact h.append (List.Sublist.refl [item])
  | full other item hstage hfull =>
    obtain rfl := halone other
    simp only [hstage, PushStage.inHand, List.append_nil] at h
    simp only [setStage, Function.update_self, PushStage.inHand]
    exact h.append (List.Sublist.refl [item])
  | evicted other item oldest rest hstage hitems =>
    obtain rfl := halone other
    simp only [hstage, hitems, PushStage.inHand] at h
    simp only [setStage, setItems, Function.update_self, PushStage.inHand]
    refine List.Sublist.trans ?_ h
    exact ((List.Sublist.refl _).append (List.sublist_cons_self oldest rest)).append
      (List.Sublist.refl _)
  | drained other item hstage hitems =>
    obtain rfl := halone other
    simp only [setStage, Function.update_self, PushStage.inHand, List.append_nil]
    exact (List.sublist_append_left _ _).trans h
  | countedOldest other item hstage =>
    obtain rfl := halone other
    simp only [hstage, PushStage.inHand] at h
    simpa only [setStage, count, Function.update_self, PushStage.inHand] using h
  | resent other item hstage hroom =>
    obtain rfl := halone other
    simp only [hstage, PushStage.inHand] at h
    simp only [setStage, setItems, Function.update_self, PushStage.inHand, List.append_nil]
    rwa [← List.append_assoc]
  | refused other item hstage hfull =>
    obtain rfl := halone other
    simp only [setStage, Function.update_self, PushStage.inHand, List.append_nil]
    exact (List.sublist_append_left _ _).trans h
  | countedNewest other item hstage =>
    obtain rfl := halone other
    simp only [hstage, PushStage.inHand] at h
    simpa only [setStage, count, Function.update_self, PushStage.inHand] using h
  | returned other item outcome hstage =>
    obtain rfl := halone other
    simp only [hstage, PushStage.inHand] at h
    simpa only [setStage, Function.update_self, PushStage.inHand] using h
  | received item rest hitems =>
    rw [hitems] at h
    simp only [setItems]
    rwa [List.append_assoc shared.received, List.singleton_append]

/-! ### What is recorded -/

end SharedBranchQueue

/-- The item this step offers to the queue: a call of `push` does. -/
def BranchQueueAction.pushes {P T : Type} : BranchQueueAction P T → List T
  | .push _ item => [item]
  | _ => []

namespace SharedBranchQueue

variable {P T : Type} [DecidableEq P] {shared next : SharedBranchQueue P T}
  {action : BranchQueueAction P T}

/-- What the consumer takes out of the queue in this step. -/
def receives (shared : SharedBranchQueue P T) : BranchQueueAction P T → List T
  | .recv => shared.queue.items.head?.toList
  | _ => []

/-- A step records what is offered to the queue, and what the consumer takes out of it. -/
theorem recorded_step (h : shared.step action = some next) :
    next.pushed = shared.pushed ++ action.pushes ∧
      next.received = shared.received ++ shared.receives action := by
  cases moves_of_step h with
  | sent producer item hstage hroom => exact ⟨rfl, (List.append_nil _).symm⟩
  | full producer item hstage hfull => exact ⟨rfl, (List.append_nil _).symm⟩
  | received item rest hitems =>
    refine ⟨(List.append_nil _).symm, ?_⟩
    rw [receives, hitems]
    rfl
  | _ => exact ⟨(List.append_nil _).symm, (List.append_nil _).symm⟩

/-- **The accounts of a branch queue**, after any interleaving of its producers and its consumer: between
pushes every item was received, dropped or is in the queue; the queue is never longer than its capacity;
and what a single producer pushes is received in its order, each item at most once. Here the items pushed
are those the calls of `push` have brought, and the items received those the consumer has taken out of the
queue. -/
theorem branch_queue_accounting [Fintype P] (capacity : ℕ) (actions : List (BranchQueueAction P T))
    (reached : SharedBranchQueue P T)
    (hrun : Transition.run step (new capacity) actions = some reached) :
    reached.pushed = actions.flatMap BranchQueueAction.pushes ∧
      reached.received = Transition.emitted step receives (new capacity) actions ∧
      ((∀ producer, reached.stages producer = .idle) →
        reached.pushed.length = reached.received.length + reached.queue.droppedPackets +
          reached.queue.items.length) ∧
      reached.queue.items.length ≤ max capacity 1 ∧
      ∀ producer : P, (∀ other, other = producer) → reached.received.Sublist reached.pushed := by
  have haccounted : reached.Accounted capacity :=
    Transition.run_invariant (fun _ _ _ h hstep ↦ h.step hstep) (accounted_new capacity) hrun
  refine ⟨?_, Transition.run_recorded (fun _ _ _ hstep ↦ (recorded_step hstep).2) hrun,
    fun hidle ↦ ?_, haccounted.bound.trans haccounted.capacity.le, fun producer halone ↦ ?_⟩
  · refine @Transition.run_history _ _ step
      (fun actions reached ↦ reached.pushed = actions.flatMap BranchQueueAction.pushes)
      (fun actions shared action next hpushed hstep ↦ ?_) _ _ _ rfl hrun
    rw [(recorded_step hstep).1, hpushed, List.flatMap_append, List.flatMap_singleton]
  · have hbalance := haccounted.balance
    rwa [Threads.total_eq_zero PushStage.holds fun producer ↦ by rw [hidle producer]; rfl,
      Nat.add_zero] at hbalance
  · have hordered : reached.Ordered producer :=
      Transition.run_invariant (fun _ _ _ h hstep ↦ h.step halone hstep) (ordered_new capacity producer)
        hrun
    rw [Ordered, List.append_assoc] at hordered
    exact (List.sublist_append_left _ _).trans hordered

end SharedBranchQueue

namespace Sample

/-- A queue of one place is filled, and the second item takes the place of the first. -/
def replaced : List (BranchQueueAction Unit ℕ) :=
  [.push () 1, .proceed (), .push () 2, .proceed (), .proceed (), .proceed (), .proceed ()]

end Sample

namespace SharedBranchQueue

/-- After the second `push` the accounts are settled. -/
theorem branch_queue_accounting_replaced :
    ∃ reached : SharedBranchQueue Unit ℕ,
      Transition.run step (new 1) Sample.replaced = some reached ∧
        (reached.pushed = [1, 2] ∧
          reached.received = Transition.emitted step receives (new 1) Sample.replaced ∧
          ((∀ producer, reached.stages producer = .idle) →
            reached.pushed.length = reached.received.length + reached.queue.droppedPackets +
              reached.queue.items.length) ∧
          reached.queue.items.length ≤ max 1 1 ∧
          ∀ producer : Unit, (∀ other, other = producer) →
            reached.received.Sublist reached.pushed) := by
  have hrun : (Transition.run step (new 1) Sample.replaced).isSome := by decide
  obtain ⟨reached, hrun⟩ := Option.isSome_iff_exists.1 hrun
  exact ⟨reached, hrun, branch_queue_accounting 1 Sample.replaced reached hrun⟩

end SharedBranchQueue

end SynchroSonic
