import SynchroSonic.Machine.Retry
import SynchroSonic.Transport.ConnectAttempts
import SynchroSonic.Transport.PublishedState

/-!
# Retries

A failed attempt is tried again after a pause, three times in all. The count of attempts is nowhere
kept by itself: it stands in the snapshot of the pending entry, goes from there into the connect thread,
comes back in the snapshot of the failure and is written into the entry again.

`connectPolicy` is the rule, and `attemptJournal` is what a run shows of one target: the commands that
take effect, the attempts that start, the results the manager takes. **The journal follows the rule**
(`step_tracks`), whatever happens to other targets, as long as the target is not removed while an attempt
for it is outstanding.
-/

namespace SynchroSonic

/-- What the manager tries again, how often, and when. -/
def connectPolicy : Retry.Policy ConnectAttempt TargetConnectResult Instant where
  number := ConnectAttempt.attemptCount
  retryable
    | .ok _ => false
    | .error failure => failure.retryable
  limit := MAX_CONNECT_ATTEMPTS
  backoff := retryBackoff

/-- What can be seen of the attempts for one target. -/
abbrev AttemptEvent := Retry.Event ConnectAttempt TargetConnectResult Instant

/-- What can be seen of the attempts for one target. A command is seen if it takes effect. -/
def SenderSystem.attemptEvents (deviceId : DeviceId) (system : SenderSystem) :
    SenderInput → List AttemptEvent
  | .command env (.addTarget target) =>
    if target.receiverId = deviceId ∧
        (system.manager.entryOf deviceId).all fun entry ↦ !entry.state.isBusy then
      [.restarted (some env.now)]
    else []
  | .command _ (.removeTarget removed) =>
    if removed = deviceId ∧ (system.manager.entryOf deviceId).isSome then [.restarted none] else []
  | .pendingTargets env =>
    let started := (system.manager.processPendingTargets env).threads.drop
      system.manager.threads.length
    (started.filter (·.receiverId = deviceId)).map fun attempt ↦ .started attempt env.now
  | .connectResult env =>
    match system.manager.connectRx with
    | [] => []
    | (attempt, result) :: _ =>
      if attempt.receiverId = deviceId then [.answered attempt result env.now] else []
  | .command _ _ | .noCommand | .noConnectResult | .mirrorEvents _ | .tick _ | .capture _ | .idle _
  | .refresh _ | .shutdownAll _ | .connected _ _ => []

/-- What a run shows of one target. -/
def SenderSystem.attemptJournal (secsF64 : SecsF64) (format : WireFormat) (deviceId : DeviceId) :
    SenderSystem → List SenderInput → List AttemptEvent :=
  Transition.emitted (SenderSystem.step secsF64 format) (SenderSystem.attemptEvents deviceId)

/-- The target is not removed while an attempt for it is outstanding. -/
def KeptInFlight (deviceId : DeviceId) (system : SenderSystem) : SenderInput → Prop
  | .command _ (.removeTarget removed) => removed = deviceId →
      ∀ attempt ∈ system.manager.outstanding, attempt.receiverId ≠ deviceId
  | _ => True

/-! ### The count of attempts -/

/-- A failure carries the count of its attempt. -/
def ConnectAttempt.Counts (attempt : ConnectAttempt) : TargetConnectResult → Prop
  | .ok _ => True
  | .error failure => failure.snapshot.attemptCount = attempt.attemptCount

theorem ManagedTargetSession.connect_counts (secsF64 : SecsF64) (format : WireFormat)
    (env : ConnectEnv) (attempt : ConnectAttempt) :
    attempt.Counts (attempt.result secsF64 format env) := by
  unfold ConnectAttempt.result
  have houtcome := connect_outcome secsF64 format env ⟨attempt.attempt⟩ attempt.target
    attempt.attemptCount attempt.request
  generalize connect secsF64 format env ⟨attempt.attempt⟩ attempt.target attempt.attemptCount
    attempt.request = result at houtcome
  cases houtcome with
  | failed receiverId attempts => exact attempts
  | opened => trivial

namespace TargetEvent

/-- Events that concern open sessions only. -/
def isPassing : TargetEvent → Bool
  | .ticked _ _ _ | .offered _ _ _ | .errored _ => true
  | _ => false

/-- They leave a pending entry as it is, and make none. -/
theorem queued_apply {event : TargetEvent} (hevent : event.isPassing = true)
    (entry : Option TargetSessionEntry) :
    (apply entry event).bind TargetSessionEntry.queued =
      entry.bind TargetSessionEntry.queued := by
  have hmap {change : TargetSessionEntry → TargetSessionEntry}
      (hchange : ∀ entry, (change entry).queued = entry.queued) :
      (entry.map change).bind TargetSessionEntry.queued =
        entry.bind TargetSessionEntry.queued := by
    rw [Option.bind_map]
    exact congrArg entry.bind (funext hchange)
  have hactOn (act : ManagedTargetSession → Bool × ManagedTargetSession) (writerJoined : Bool)
      (entry : TargetSessionEntry) : (entry.actOn act writerJoined).queued = entry.queued := by
    cases entry with
    | pending queued => rfl
    | failed snapshot => rfl
    | active session =>
      show (TargetSessionEntry.settled writerJoined (act session)).queued = none
      unfold TargetSessionEntry.settled
      split <;> rfl
  cases event with
  | ticked interval env writerJoined => exact hmap (hactOn _ writerJoined)
  | offered env frame writerJoined => exact hmap (hactOn _ writerJoined)
  | errored message => exact hmap fun entry ↦ by cases entry <;> rfl
  | _ => cases hevent

theorem queued_foldl_apply {events : List TargetEvent}
    (hevents : ∀ event ∈ events, event.isPassing = true) (entry : Option TargetSessionEntry) :
    (events.foldl apply entry).bind TargetSessionEntry.queued =
      entry.bind TargetSessionEntry.queued := by
  induction events generalizing entry with
  | nil => rfl
  | cons event events ih =>
    obtain ⟨hevent, hevents⟩ := List.forall_mem_cons.1 hevents
    exact (ih hevents _).trans (queued_apply hevent entry)

end TargetEvent

/-- What a step that starts nothing and takes no result holds in store for a target, unless it is
removed. -/
theorem targetEvents_passing {system : SenderSystem} {input : SenderInput}
    (hquiet : input.isQuiet = true) {deviceId : DeviceId}
    (hkept : ∀ env, input ≠ .command env (.removeTarget deviceId)) :
    ∀ event ∈ system.targetEvents deviceId input, event.isPassing = true := by
  intro event hmem
  cases input with
  | command env command =>
    cases command with
    | addTarget target => cases hquiet
    | removeTarget removed =>
      simp only [SenderSystem.targetEvents] at hmem
      split at hmem
      next heq => exact absurd (congrArg _ (congrArg _ heq)) (hkept env)
      · exact absurd hmem List.not_mem_nil
    | _ => exact absurd hmem List.not_mem_nil
  | tick env =>
    obtain rfl := List.mem_singleton.1 hmem
    rfl
  | capture env =>
    simp only [SenderSystem.targetEvents, SenderManager.captureEvents] at hmem
    split at hmem
    · exact absurd hmem List.not_mem_nil
    split at hmem
    · exact absurd hmem List.not_mem_nil
    all_goals
      obtain rfl := List.mem_singleton.1 hmem
      rfl
  | pendingTargets env => cases hquiet
  | connectResult env => cases hquiet
  | shutdownAll env => cases hquiet
  | connected attempt env => cases hquiet
  | _ => exact absurd hmem List.not_mem_nil

namespace SenderManager

variable {manager next : SenderManager} {deviceId : DeviceId} {env : ManagerEnv}

/-! ### One target and its attempts -/

/-- The outstanding attempts for a target. -/
def attemptsFor (deviceId : DeviceId) (manager : SenderManager) : List ConnectAttempt :=
  manager.outstanding.filter (·.receiverId = deviceId)

/-- The pending entry of a target, without the number of its attempt. -/
def pendingFor (deviceId : DeviceId) (manager : SenderManager) : Option PendingTargetSession :=
  (manager.view deviceId).bind TargetSessionEntry.queued

/-- What a phase says of the pending entry. -/
def Describes (pending : Option PendingTargetSession) : Retry.Phase ConnectAttempt Instant → Prop
  | .settled => pending = none
  | .waiting failed due => failed < MAX_CONNECT_ATTEMPTS ∧ ∃ queued, pending = some queued ∧
      queued.inFlight = false ∧ queued.nextAttemptAt = due ∧ queued.snapshot.attemptCount = failed
  | .trying _ => ∃ queued, pending = some queued ∧ queued.inFlight = true ∧
      queued.snapshot.state = .connecting

/-- The target is in this phase: the attempt under way is the one that is outstanding, and the entry
says so. -/
structure Tracks (deviceId : DeviceId) (manager : SenderManager)
    (phase : Retry.Phase ConnectAttempt Instant) : Prop where
  attempts : (manager.attemptsFor deviceId).Perm phase.underWay
  pending : Describes (manager.pendingFor deviceId) phase

theorem attemptsFor_eq_nil :
    manager.attemptsFor deviceId = [] ↔
      ∀ attempt ∈ manager.outstanding, attempt.receiverId ≠ deviceId := by
  simp [attemptsFor, List.filter_eq_nil_iff]

theorem pendingFor_of_entryOf {queued : PendingTargetSession}
    (h : manager.entryOf deviceId = some (.pending queued)) :
    manager.pendingFor deviceId = some { queued with launched := none } := by
  rw [pendingFor, view, h]
  rfl

theorem view_of_pendingFor {queued : PendingTargetSession}
    (h : manager.pendingFor deviceId = some queued) :
    manager.view deviceId = some (.pending queued) := by
  obtain ⟨entry, hview, hqueued⟩ := Option.bind_eq_some_iff.1 h
  cases entry with
  | pending before =>
    obtain rfl := Option.some.inj hqueued
    exact hview
  | active session => exact absurd hqueued.symm (Option.some_ne_none _)
  | failed snapshot => exact absurd hqueued.symm (Option.some_ne_none _)

/-- A pending entry that is seen is there. -/
theorem entryOf_of_pendingFor {queued : PendingTargetSession}
    (h : manager.pendingFor deviceId = some queued) :
    ∃ before : PendingTargetSession, manager.entryOf deviceId = some (.pending before) ∧
      { before with launched := none } = queued := by
  rcases hentry : manager.entryOf deviceId with - | before | session | snapshot
  · simp [pendingFor, view, hentry] at h
  · exact ⟨before, rfl, Option.some.inj ((pendingFor_of_entryOf hentry).symm.trans h)⟩
  · simp [pendingFor, view, hentry, TargetSessionEntry.unnamed, TargetSessionEntry.queued] at h
  · simp [pendingFor, view, hentry, TargetSessionEntry.unnamed, TargetSessionEntry.queued] at h

/-! ### Attempts that start -/

theorem threads_launch {queued : PendingTargetSession}
    (h : manager.entryOf deviceId = some (.pending queued)) :
    ∃ attempt : ConnectAttempt, attempt.receiverId = queued.target.receiverId ∧
      attempt.attemptCount = Word.satAdd 32 queued.snapshot.attemptCount 1 ∧
      (manager.launch deviceId).threads = manager.threads ++ [attempt] ∧
      (manager.launch deviceId).connectRx = manager.connectRx := by
  rw [launch, TargetSessionCollection.pendingSession_eq_some.2 h]
  exact ⟨_, rfl, rfl, rfl, rfl⟩

/-- Starting an attempt for each of these targets starts one for each of them. -/
theorem threads_foldl_launch {deviceIds : List DeviceId} (hnodup : deviceIds.Nodup)
    (hpending : ∀ other ∈ deviceIds, ∃ queued, manager.entryOf other = some (.pending queued) ∧
      queued.target.receiverId = other) (deviceId : DeviceId) :
    ∃ started, (deviceIds.foldl (fun manager deviceId ↦ manager.launch deviceId) manager).threads =
        manager.threads ++ started ∧
      (deviceIds.foldl (fun manager deviceId ↦ manager.launch deviceId) manager).connectRx =
        manager.connectRx ∧
      (deviceId ∉ deviceIds → started.filter (·.receiverId = deviceId) = []) ∧
      ∀ queued, deviceId ∈ deviceIds → manager.entryOf deviceId = some (.pending queued) →
        ∃ attempt : ConnectAttempt,
          attempt.attemptCount = Word.satAdd 32 queued.snapshot.attemptCount 1 ∧
            started.filter (·.receiverId = deviceId) = [attempt] := by
  induction deviceIds generalizing manager with
  | nil => exact ⟨[], (List.append_nil _).symm, rfl, fun _ ↦ rfl, fun _ hmem ↦ absurd hmem List.not_mem_nil⟩
  | cons first deviceIds ih =>
    obtain ⟨hnotMem, hnodup⟩ := List.nodup_cons.1 hnodup
    obtain ⟨⟨before, hbefore, htarget⟩, hpending⟩ := List.forall_mem_cons.1 hpending
    have hothers {other : DeviceId} (hne : other ≠ first) :
        (manager.launch first).entryOf other = manager.entryOf other :=
      entryOf_launch_ne hne manager
    obtain ⟨started, hthreads, hconnectRx, habsent, hpresent⟩ := @ih (manager.launch first) hnodup
      fun other hmem ↦ by
        rw [hothers fun heq ↦ hnotMem (heq ▸ hmem)]
        exact hpending other hmem
    obtain ⟨launched, hid, hlaunchedCount, hlaunched, hsameRx⟩ := threads_launch hbefore
    rw [htarget] at hid
    refine ⟨launched :: started, ?_, hconnectRx.trans hsameRx, fun hout ↦ ?_, fun queued hmem hentry ↦ ?_⟩
    · rw [List.foldl_cons, hthreads, hlaunched, List.append_assoc, List.singleton_append]
    · obtain ⟨hne, hout⟩ := not_or.1 (mt List.mem_cons.2 hout)
      rw [List.filter_cons_of_neg (by simpa [hid] using Ne.symm hne), habsent hout]
    · rcases eq_or_ne deviceId first with rfl | hne
      · obtain rfl := TargetSessionEntry.pending.inj (Option.some.inj (hbefore.symm.trans hentry))
        refine ⟨launched, hlaunchedCount, ?_⟩
        rw [List.filter_cons_of_pos (by simpa using hid), habsent hnotMem]
      · obtain ⟨attempt, hcount, hstarted⟩ := hpresent queued
          ((List.mem_cons.1 hmem).resolve_left hne) ((hothers hne).trans hentry)
        refine ⟨attempt, hcount, ?_⟩
        rw [List.filter_cons_of_neg (by simpa [hid] using hne.symm), hstarted]

/-- **An attempt starts for a target exactly when its entry is due.** -/
theorem started_processPendingTargets (h : manager.Keyed) (hwalked : manager.WalkedBy env)
    (deviceId : DeviceId) :
    ∃ started, (manager.processPendingTargets env).threads = manager.threads ++ started ∧
      (manager.processPendingTargets env).connectRx = manager.connectRx ∧
      ((∃ queued attempt, manager.pendingFor deviceId = some queued ∧ queued.inFlight = false ∧
          queued.nextAttemptAt ≤ env.now ∧
          attempt.attemptCount = Word.satAdd 32 queued.snapshot.attemptCount 1 ∧
          started.filter (·.receiverId = deviceId) = [attempt]) ∨
        ((∀ queued, manager.pendingFor deviceId = some queued → queued.inFlight = false →
            ¬ queued.nextAttemptAt ≤ env.now) ∧
          started.filter (·.receiverId = deviceId) = [])) := by
  have hdue {other : DeviceId} :
      other ∈ manager.targets.duePendingTargets env.order env.now ↔
        ∃ queued, manager.entryOf other = some (.pending queued) ∧ queued.inFlight = false ∧
          queued.nextAttemptAt ≤ env.now := by
    rw [TargetSessionCollection.duePendingTargets, List.mem_filter, hwalked.mem_iff,
      ← AList.mem_keys, ← AList.lookup_isSome]
    show (manager.entryOf other).isSome = true ∧ (manager.entryOf other).any _ = true ↔ _
    rcases manager.entryOf other with - | queued | session | snapshot <;>
      simp [TargetSessionEntry.isDue]
  obtain ⟨started, hthreads, hconnectRx, habsent, hpresent⟩ := threads_foldl_launch
    ((hwalked.nodup_iff.2 manager.targets.entries.keys_nodup).filter _)
    (fun other hmem ↦ by
      obtain ⟨queued, hentry, -⟩ := hdue.1 hmem
      exact ⟨queued, hentry, (h other _ hentry).1⟩) deviceId
  refine ⟨started, hthreads, hconnectRx, ?_⟩
  by_cases hmem : deviceId ∈ manager.targets.duePendingTargets env.order env.now
  · obtain ⟨queued, hentry, hidle, hnow⟩ := hdue.1 hmem
    obtain ⟨attempt, hcount, hstarted⟩ := hpresent queued hmem hentry
    exact Or.inl ⟨_, attempt, pendingFor_of_entryOf hentry, hidle, hnow, hcount, hstarted⟩
  · refine Or.inr ⟨fun queued hqueued hidle hnow ↦ hmem (hdue.2 ?_), habsent hmem⟩
    obtain ⟨before, hentry, rfl⟩ := entryOf_of_pendingFor hqueued
    exact ⟨before, hentry, hidle, hnow⟩

theorem pendingFor_processPendingTargets (hwalked : manager.WalkedBy env) (deviceId : DeviceId) :
    (manager.processPendingTargets env).pendingFor deviceId =
      (manager.pendingFor deviceId).map fun queued ↦
        if (TargetSessionEntry.pending queued).isDue env.now then
          { queued.markInFlight 0 with launched := none }
        else queued := by
  rw [pendingFor, view_processPendingTargets hwalked, pendingFor]
  rcases manager.view deviceId with - | queued | session | snapshot
  · rfl
  · show TargetSessionEntry.queued (if _ then _ else _) = some (if _ then _ else _)
    split <;> rfl
  · rfl
  · rfl

/-! ### Phases -/

variable {phase : Retry.Phase ConnectAttempt Instant}

/-- An attempt that is outstanding is the one under way. -/
theorem Tracks.trying (h : manager.Tracks deviceId phase) {attempt : ConnectAttempt}
    (hmem : attempt ∈ manager.outstanding) (hid : attempt.receiverId = deviceId) :
    phase = .trying attempt := by
  have hunderWay : attempt ∈ phase.underWay :=
    h.attempts.mem_iff.1 (List.mem_filter.2 ⟨hmem, by simpa using hid⟩)
  cases phase with
  | settled => exact absurd hunderWay List.not_mem_nil
  | waiting failed due => exact absurd hunderWay List.not_mem_nil
  | trying trying => rw [List.mem_singleton.1 hunderWay]

/-- While an attempt is under way, its target is busy. -/
theorem Tracks.busy {attempt : ConnectAttempt} (h : manager.Tracks deviceId (.trying attempt)) :
    ∃ entry, manager.entryOf deviceId = some entry ∧ entry.state.isBusy = true := by
  obtain ⟨queued, hqueued, -, hstate⟩ := h.pending
  obtain ⟨before, hentry, rfl⟩ := entryOf_of_pendingFor hqueued
  exact ⟨_, hentry, by rw [TargetSessionEntry.state, TargetSessionEntry.snapshot, hstate]; rfl⟩

/-- Nothing happened to the target. -/
theorem Tracks.of_same (h : manager.Tracks deviceId phase)
    (houtstanding : next.outstanding.Perm manager.outstanding)
    (hpending : next.pendingFor deviceId = manager.pendingFor deviceId) :
    next.Tracks deviceId phase :=
  ⟨(houtstanding.filter _).trans h.attempts, hpending ▸ h.pending⟩

/-- The target is removed. -/
theorem Tracks.removeTarget (h : manager.Tracks deviceId phase)
    (hfree : ∀ attempt ∈ manager.outstanding, attempt.receiverId ≠ deviceId) :
    ∃ after, Transition.run connectPolicy.step phase
        (if (manager.entryOf deviceId).isSome then [.restarted none] else []) = some after ∧
      (manager.removeTarget deviceId).Tracks deviceId after := by
  have hnone : (manager.removeTarget deviceId).pendingFor deviceId = none := by
    rw [pendingFor, view, entryOf_removeTarget]
    rfl
  have houtstanding := (retired_removeTarget deviceId manager).toSameThreads.outstanding
  have hattempts : (manager.removeTarget deviceId).attemptsFor deviceId = [] := by
    rw [attemptsFor, houtstanding]
    exact attemptsFor_eq_nil.2 hfree
  have hsettled : (manager.removeTarget deviceId).Tracks deviceId .settled :=
    ⟨by rw [hattempts]; exact .refl _, hnone⟩
  split
  · refine ⟨.settled, ?_, hsettled⟩
    cases phase with
    | settled => rfl
    | waiting failed due => rfl
    | trying attempt =>
      have hmem : attempt ∈ manager.attemptsFor deviceId :=
        h.attempts.mem_iff.2 (List.mem_singleton_self attempt)
      rw [attemptsFor_eq_nil.2 hfree] at hmem
      exact absurd hmem List.not_mem_nil
  next habsent =>
    -- without an entry nothing is waiting
    have hpending : manager.pendingFor deviceId = none := by
      rw [pendingFor, view, Option.not_isSome_iff_eq_none.1 habsent]
      rfl
    refine ⟨phase, rfl, h.of_same (houtstanding ▸ .refl _) (hnone.trans hpending.symm)⟩

theorem outstanding_queueTargetConnect (now : Instant) (target : SenderTarget) :
    (manager.queueTargetConnect now target).outstanding = manager.outstanding := by
  rcases queueTargetConnect_cases now target manager with ⟨-, -, -, hsame⟩ | ⟨-, hreplaced⟩
  · rw [hsame]
  · exact hreplaced.toSameThreads.outstanding

/-- The target is added. -/
theorem Tracks.queueTargetConnect (h : manager.Tracks deviceId phase) (now : Instant)
    {target : SenderTarget} (htarget : target.receiverId = deviceId) :
    ∃ after, Transition.run connectPolicy.step phase
        (if (manager.entryOf deviceId).all fun entry ↦ !entry.state.isBusy then
          [.restarted (some now)] else []) = some after ∧
      (manager.queueTargetConnect now target).Tracks deviceId after := by
  subst htarget
  rcases queueTargetConnect_cases now target manager with
    ⟨entry, hentry, hbusy, hsame⟩ | ⟨hidle, hreplaced⟩
  · rw [hentry, hsame]
    refine ⟨phase, ?_, h⟩
    simp [hbusy]
  · have hnotBusy : ((manager.entryOf target.receiverId).all fun entry ↦ !entry.state.isBusy) =
        true := by
      simpa [Option.all_eq_true] using hidle
    have hoff {attempt : ConnectAttempt} : phase ≠ .trying attempt := by
      rintro rfl
      obtain ⟨entry, hentry, hbusy⟩ := h.busy
      rw [hidle entry hentry] at hbusy
      cases hbusy
    have hunderWay : phase.underWay = [] := by
      cases phase with
      | trying attempt => exact absurd rfl hoff
      | _ => rfl
    rw [if_pos hnotBusy]
    refine ⟨.waiting 0 now, ?_, ?_, by decide, _, pendingFor_of_entryOf hreplaced.entry, rfl, rfl, rfl⟩
    · cases phase with
      | trying attempt => exact absurd rfl hoff
      | _ => rfl
    · rw [attemptsFor, outstanding_queueTargetConnect]
      show List.Perm _ []
      rw [← hunderWay]
      exact h.attempts

/-- Attempts that are due are started. -/
theorem Tracks.processPendingTargets (h : manager.Tracks deviceId phase) (hkeyed : manager.Keyed)
    (hwalked : manager.WalkedBy env) :
    ∃ after, Transition.run connectPolicy.step phase
        ((((manager.processPendingTargets env).threads.drop manager.threads.length).filter
          (·.receiverId = deviceId)).map fun attempt ↦ .started attempt env.now) = some after ∧
      (manager.processPendingTargets env).Tracks deviceId after := by
  obtain ⟨started, hthreads, hconnectRx, hstarted⟩ :=
    started_processPendingTargets hkeyed hwalked deviceId
  have hattempts : ((manager.processPendingTargets env).attemptsFor deviceId).Perm
      (started.filter (·.receiverId = deviceId) ++ manager.attemptsFor deviceId) := by
    rw [attemptsFor, attemptsFor, SenderManager.outstanding, SenderManager.outstanding, hthreads,
      hconnectRx, List.append_assoc, ← List.filter_append]
    refine List.Perm.filter _ ?_
    rw [← List.append_assoc, ← List.append_assoc]
    exact List.perm_append_comm.append_right _
  have hpending := pendingFor_processPendingTargets hwalked deviceId
  rw [hthreads, List.drop_left]
  -- either the target is due and one attempt starts, or it is not and none does
  rcases hstarted with ⟨queued, attempt, hqueued, hidle, hdue, hcount, hone⟩ | ⟨hnotDue, hnone⟩
  · have hisDue : (TargetSessionEntry.pending queued).isDue env.now = true := by
      simp [TargetSessionEntry.isDue, hidle, hdue]
    rw [hqueued, Option.map_some, if_pos hisDue] at hpending
    have hbefore := h.pending
    rw [hqueued] at hbefore
    rw [hone] at hattempts ⊢
    cases phase with
    | settled => exact absurd hbefore (Option.some_ne_none queued)
    | trying trying =>
      obtain ⟨_, hsame, hinFlight, -⟩ := hbefore
      obtain rfl := Option.some.inj hsame
      rw [hidle] at hinFlight
      cases hinFlight
    | waiting failed due =>
      -- only a waiting round is due: below the limit `saturating_add` is exact
      obtain ⟨hlimit, _, hsame, -, rfl, rfl⟩ := hbefore
      obtain rfl := Option.some.inj hsame
      have hnumber : attempt.attemptCount = queued.snapshot.attemptCount + 1 := by
        rw [hcount]
        refine Word.satAdd_of_le ?_
        simp only [MAX_CONNECT_ATTEMPTS, Word.max] at hlimit ⊢
        omega
      exact ⟨.trying attempt, Transition.run_cons.2 ⟨_, if_pos ⟨hnumber, hlimit, hdue⟩, rfl⟩,
        hattempts.trans (h.attempts.append_left _), _, hpending, rfl, rfl⟩
  · rw [hnone] at hattempts ⊢
    refine ⟨phase, rfl, hattempts.trans h.attempts, ?_⟩
    have hbefore := h.pending
    rcases hqueued : manager.pendingFor deviceId with - | queued
    · rw [hqueued] at hbefore hpending
      rwa [hpending]
    · have hisDue : ¬ (TargetSessionEntry.pending queued).isDue env.now = true := by
        intro hisDue
        simp only [TargetSessionEntry.isDue, Bool.and_eq_true, Bool.not_eq_true',
          decide_eq_true_eq] at hisDue
        exact hnotDue queued hqueued hisDue.1 hisDue.2
      rw [hqueued] at hbefore
      rwa [hpending, hqueued, Option.map_some, if_neg hisDue]

/-! ### Results -/

variable {attempt : ConnectAttempt} {result : TargetConnectResult}

/-- The result of another target at most fails the open sessions. -/
theorem resultEvents_passing (hne : receiverIdOf result ≠ deviceId) :
    ∀ event ∈ manager.resultEvents deviceId env result, event.isPassing = true := by
  intro event hmem
  cases result with
  | ok session =>
    simp only [resultEvents, if_neg (show ¬ session.target.receiverId = deviceId from hne),
      List.nil_append] at hmem
    split at hmem
    · split at hmem
      · exact absurd hmem List.not_mem_nil
      · obtain rfl := List.mem_singleton.1 hmem
        rfl
    · exact absurd hmem List.not_mem_nil
  | error failure =>
    simp only [resultEvents, if_neg (show ¬ failure.snapshot.receiverId = deviceId from hne)] at hmem
    exact absurd hmem List.not_mem_nil

theorem resultEvents_connected {session : ManagedTargetSession}
    (hcontains : manager.targets.contains session.target.receiverId = true) :
    ∃ rest, manager.resultEvents session.target.receiverId env (.ok session) =
        .connected session.unnamed :: rest ∧
      ∀ event ∈ rest, event.isPassing = true := by
  simp only [resultEvents, hcontains, if_true, List.singleton_append]
  refine ⟨_, rfl, fun event hmem ↦ ?_⟩
  split at hmem
  · exact absurd hmem List.not_mem_nil
  · obtain rfl := List.mem_singleton.1 hmem
    rfl

/-- The manager and the policy agree on which failures are tried again. -/
theorem retries_eq_again {failure : TargetConnectFailure} (hcounts : attempt.Counts (.error failure)) :
    retries failure = connectPolicy.again attempt (.error failure) :=
  congrArg (fun count ↦ failure.retryable && decide (count < MAX_CONNECT_ATTEMPTS)) hcounts

/-- **The result of the attempt under way** puts the entry where the policy says. -/
theorem describes_answered {queued : PendingTargetSession}
    (hview : manager.view deviceId = some (.pending queued)) (hid : receiverIdOf result = deviceId)
    (hcounts : attempt.Counts result) :
    Describes (((manager.resultEvents deviceId env result).foldl TargetEvent.apply
        (manager.view deviceId)).bind TargetSessionEntry.queued)
      (connectPolicy.answered attempt result env.now) := by
  subst hid
  cases result with
  | ok session =>
    have hcontains : manager.targets.contains session.target.receiverId = true := by
      by_contra hcontains
      rw [receiverIdOf, view_of_not_contains hcontains] at hview
      exact Option.some_ne_none _ hview.symm
    obtain ⟨rest, hevents, hpassing⟩ := @resultEvents_connected manager env session hcontains
    show Describes _ .settled
    simp only [receiverIdOf] at hview ⊢
    rw [hevents, List.foldl_cons, hview]
    exact TargetEvent.queued_foldl_apply hpassing _
  | error failure =>
    rw [hview, resultEvents, receiverIdOf, if_pos rfl, Retry.Policy.answered,
      ← retries_eq_again hcounts]
    show Describes (Option.bind (some (TargetSessionEntry.afterFailure _ _ _ _)) _) _
    by_cases hretries : retries failure = true
    · rw [TargetSessionEntry.afterFailure_of_retries hretries, if_pos hretries]
      have hcounts : failure.snapshot.attemptCount = attempt.attemptCount := hcounts
      have hlimit : attempt.attemptCount < MAX_CONNECT_ATTEMPTS := by
        rw [← hcounts]
        exact of_decide_eq_true (Bool.and_eq_true_iff.1 hretries).2
      have hdue : env.now + retryBackoff failure.snapshot.attemptCount =
          env.now + retryBackoff attempt.attemptCount := by rw [hcounts]
      exact ⟨hlimit, _, rfl, rfl, hdue, hcounts⟩
    · rw [TargetSessionEntry.afterFailure_of_not_retries hretries, if_neg hretries]
      rfl

/-- The manager takes the result at the head of the channel. -/
theorem Tracks.answered {connectRx : List (ConnectAttempt × TargetConnectResult)}
    (h : manager.Tracks deviceId phase) (hhead : manager.connectRx = (attempt, result) :: connectRx)
    (hanswers : receiverIdOf result = attempt.receiverId) (hcounts : attempt.Counts result)
    (houtstanding : next.outstanding = (manager.received connectRx).outstanding)
    (hpending : next.pendingFor deviceId = ((manager.resultEvents deviceId env result).foldl
      TargetEvent.apply (manager.view deviceId)).bind TargetSessionEntry.queued) :
    ∃ after, Transition.run connectPolicy.step phase
        (if attempt.receiverId = deviceId then [.answered attempt result env.now] else []) =
          some after ∧
      next.Tracks deviceId after := by
  have hperm := (outstanding_received hhead).filter (·.receiverId = deviceId)
  rw [← houtstanding] at hperm
  by_cases hid : attempt.receiverId = deviceId
  · rw [if_pos hid]
    have hmem : attempt ∈ manager.outstanding :=
      (outstanding_received hhead).mem_iff.2 List.mem_cons_self
    obtain rfl := h.trying hmem hid
    obtain ⟨queued, hqueued, -⟩ := h.pending
    rw [List.filter_cons_of_pos (by simpa using hid)] at hperm
    refine ⟨connectPolicy.answered attempt result env.now,
      Transition.run_cons.2 ⟨_, if_pos rfl, rfl⟩, ?_, ?_⟩
    · rw [connectPolicy.underWay_answered]
      exact (hperm.symm.trans h.attempts).cons_inv
    · rw [hpending]
      exact describes_answered (view_of_pendingFor hqueued) (hanswers.trans hid) hcounts
  · rw [if_neg hid]
    rw [List.filter_cons_of_neg (by simpa using hid)] at hperm
    exact ⟨phase, rfl, hperm.symm.trans h.attempts, by
      rw [hpending, TargetEvent.queued_foldl_apply (resultEvents_passing (hanswers ▸ hid))]
      exact h.pending⟩

end SenderManager

/-! ### Steps -/

variable {secsF64 : SecsF64} {format : WireFormat} {system next : SenderSystem}
  {input : SenderInput} {deviceId : DeviceId} {phase : Retry.Phase ConnectAttempt Instant}

theorem attemptEvents_of_isQuiet (hquiet : input.isQuiet = true)
    (hkept : ∀ env, input ≠ .command env (.removeTarget deviceId)) :
    system.attemptEvents deviceId input = [] := by
  cases input with
  | command env command =>
    cases command with
    | addTarget target => cases hquiet
    | removeTarget removed =>
      refine if_neg fun hremoved ↦ hkept env ?_
      rw [hremoved.1]
    | _ => rfl
  | pendingTargets env => cases hquiet
  | connectResult env => cases hquiet
  | _ => rfl

/-- The target is in this phase, while the manager runs. -/
structure SenderSystem.Retries (deviceId : DeviceId) (system : SenderSystem)
    (phase : Retry.Phase ConnectAttempt Instant) : Prop where
  consistent : system.manager.Consistent
  counts : ∀ result ∈ system.manager.connectRx, result.1.Counts result.2
  tracks : system.phase ≠ .ended → system.manager.Tracks deviceId phase

/-- **What a step shows of a target follows the rule.** -/
theorem step_retries (h : system.Retries deviceId phase) (hkept : KeptInFlight deviceId system input)
    (hstep : system.step secsF64 format input = some next) :
    ∃ after, Transition.run connectPolicy.step phase (system.attemptEvents deviceId input) =
        some after ∧ next.Retries deviceId after := by
  have hpending : next.manager.pendingFor deviceId =
      ((system.targetEvents deviceId input).foldl TargetEvent.apply
        (system.manager.view deviceId)).bind TargetSessionEntry.queued :=
    congrArg (Option.bind · TargetSessionEntry.queued)
      (step_view h.consistent.keyed hstep deviceId)
  -- the other parts of `Retries` are step lemmas of their own: what is left is the phase
  suffices htracks : ∃ after,
      Transition.run connectPolicy.step phase (system.attemptEvents deviceId input) = some after ∧
        (next.phase ≠ .ended → next.manager.Tracks deviceId after) by
    obtain ⟨after, hrun, htracks⟩ := htracks
    exact ⟨after, hrun, step_consistent h.consistent hstep,
      step_connectRx (fun attempt env ↦
        ManagedTargetSession.connect_counts secsF64 format env attempt) h.consistent.keyed hstep
        h.counts, htracks⟩
  cases step_effect h.consistent.keyed hstep with
  | tended quiet running phase tended =>
    -- a removal ends the round of attempts, and any other quiet step leaves the phase alone
    by_cases hremoved : ∃ env, input = .command env (.removeTarget deviceId)
    · obtain ⟨env, rfl⟩ := hremoved
      obtain ⟨-, hnext⟩ := Option.ite_none_right_eq_some.1 hstep
      obtain rfl := Option.some.inj hnext
      obtain ⟨after, hrun, htracks⟩ := (h.tracks running).removeTarget (hkept rfl)
      refine ⟨after, ?_, fun _ ↦ htracks⟩
      rw [← hrun]
      exact congrArg _ (if_congr (and_iff_right rfl) rfl rfl)
    · have hnot : ∀ env, input ≠ .command env (.removeTarget deviceId) := fun env heq ↦
        hremoved ⟨env, heq⟩
      refine ⟨_, by rw [attemptEvents_of_isQuiet quiet hnot]; rfl, fun _ ↦ (h.tracks running).of_same
        (tended.sameThreads.outstanding ▸ .refl _) ?_⟩
      exact hpending.trans
        (TargetEvent.queued_foldl_apply (targetEvents_passing quiet hnot) _)
  | queued env target running phase manager =>
    -- only a request for this target can open a round
    by_cases hid : target.receiverId = deviceId
    · obtain ⟨after, hrun, htracks⟩ := (h.tracks running).queueTargetConnect env.now hid
      refine ⟨after, ?_, fun _ ↦ manager ▸ htracks⟩
      rw [← hrun]
      exact congrArg _ (if_congr (and_iff_right hid) rfl rfl)
    · have hevents : system.attemptEvents deviceId (.command env (.addTarget target)) = [] :=
        if_neg fun hboth ↦ hid hboth.1
      refine ⟨_, by rw [hevents]; rfl, fun _ ↦ (h.tracks running).of_same ?_ ?_⟩
      · rw [manager, SenderManager.outstanding_queueTargetConnect]
      · rw [hpending, SenderSystem.targetEvents, if_neg hid]
        rfl
  | launched env running phase walked manager =>
    obtain ⟨after, hrun, htracks⟩ :=
      (h.tracks running).processPendingTargets h.consistent.keyed walked
    exact ⟨after, hrun, fun _ ↦ manager ▸ htracks⟩
  | result env attempt result connectRx running phase head manager =>
    have hmem : (attempt, result) ∈ system.manager.connectRx := by
      rw [head]
      exact List.mem_cons_self
    have heffect := SenderManager.processConnectResult_effect env result
      (system.manager.received connectRx)
    have houtstanding : next.manager.outstanding =
        (system.manager.received connectRx).outstanding := by
      rw [manager]
      exact heffect.sameThreads.outstanding
    simp only [SenderSystem.targetEvents, head] at hpending
    simp only [SenderSystem.attemptEvents, head]
    obtain ⟨after, hrun, htracks⟩ := (h.tracks running).answered head
      (SenderManager.receiverIdOf_of_answers (h.consistent.answers _ hmem)) (h.counts _ hmem)
      houtstanding hpending
    exact ⟨after, hrun, fun _ ↦ htracks⟩
  | ended env running phase walked manager =>
    exact ⟨_, rfl, fun hphase ↦ absurd phase hphase⟩
  | sent attempt env phase running thread manager =>
    refine ⟨_, rfl, fun _ ↦ (h.tracks running).of_same ?_ ?_⟩
    · rw [manager]
      exact SenderManager.outstanding_sent _ thread
    · exact hpending
  | unsent attempt env phase closed thread manager =>
    exact ⟨_, rfl, fun hphase ↦ absurd phase hphase⟩

/-! ### Runs -/

theorem start_retries (secsF64 : SecsF64) (setup : SenderSetup) (now : Instant)
    (target : SenderTarget) (deviceId : DeviceId) :
    ∃ phase : Retry.Phase ConnectAttempt Instant, phase.Fresh ∧
      (SenderSystem.start secsF64 setup now target).Retries deviceId phase := by
  have hnew : (SenderManager.new secsF64 setup).Tracks deviceId .settled := ⟨.refl _, rfl⟩
  have hconsistent := start_consistent secsF64 setup now target
  have hconnectRx : (SenderSystem.start secsF64 setup now target).manager.connectRx = [] := rfl
  have hcounts : ∀ result ∈ (SenderSystem.start secsF64 setup now target).manager.connectRx,
      result.1.Counts result.2 := by
    rw [hconnectRx]
    exact fun result hmem ↦ absurd hmem List.not_mem_nil
  by_cases hid : target.receiverId = deviceId
  · obtain ⟨after, hrun, htracks⟩ := hnew.queueTargetConnect now hid
    obtain ⟨middle, hstep, hrest⟩ := Transition.run_cons.1 hrun
    obtain rfl := Option.some.inj hrest
    exact ⟨middle, ⟨some now, Retry.Policy.step_restarted hstep⟩, hconsistent, hcounts, fun _ ↦ htracks⟩
  · have hview := SenderManager.view_queueTargetConnect now target deviceId
      (SenderManager.new secsF64 setup)
    rw [if_neg hid] at hview
    refine ⟨.settled, ⟨none, rfl⟩, hconsistent, hcounts, fun _ ↦ hnew.of_same (.refl _) ?_⟩
    exact congrArg (Option.bind · TargetSessionEntry.queued) hview

/-- What a run shows of a target follows the rule. -/
theorem run_retries {final : SenderSystem} {inputs : List SenderInput}
    (h : system.Retries deviceId phase)
    (hkept : Transition.Along (SenderSystem.step secsF64 format) (KeptInFlight deviceId) system
      inputs)
    (hrun : Transition.run (SenderSystem.step secsF64 format) system inputs = some final) :
    ∃ after, Transition.run connectPolicy.step phase
        (system.attemptJournal secsF64 format deviceId inputs) = some after ∧
      final.Retries deviceId after :=
  Transition.run_emitted (fun _ _ _ _ h hkept hstep ↦ step_retries h hkept hstep) h hkept hrun

/-- **The last failure** takes the place of the entry, and plans no retry. -/
theorem failed_of_not_again (h : system.Retries deviceId phase) {attempt : ConnectAttempt}
    {failure : TargetConnectFailure} {connectRx : List (ConnectAttempt × TargetConnectResult)}
    {env : ManagerEnv} (hhead : system.manager.connectRx = (attempt, .error failure) :: connectRx)
    (hid : attempt.receiverId = deviceId)
    (hlast : connectPolicy.again attempt (.error failure) = false)
    (hstep : system.step secsF64 format (.connectResult env) = some next) :
    next.manager.entryOf deviceId = some (.failed failure.snapshot) ∧
      failure.snapshot.nextRetryAtUnixMs = none := by
  have hmem : (attempt, .error failure) ∈ system.manager.connectRx := by
    rw [hhead]
    exact List.mem_cons_self
  have hanswers := SenderManager.receiverIdOf_of_answers (h.consistent.answers _ hmem)
  refine ⟨?_, (h.consistent.results _ hmem).retry⟩
  have hnotRetried : SenderManager.isRetried (.error failure) = false :=
    (SenderManager.retries_eq_again (h.counts _ hmem)).trans hlast
  cases step_effect h.consistent.keyed hstep with
  | tended quiet running phase tended => cases quiet
  | result _ attempt' result' connectRx' running phase head manager =>
    obtain ⟨⟨rfl, rfl⟩, rfl⟩ := by simpa using hhead.symm.trans head
    have hentry : (SenderManager.receiverIdOf (.error failure)) = deviceId := hanswers.trans hid
    cases SenderManager.processConnectResult_effect env (.error failure)
        (system.manager.received connectRx) with
    | unwanted absent threads targets shutDown dropped =>
      -- the entry of an attempt under way is there
      have htracks := h.tracks running
      obtain rfl := htracks.trying (List.mem_append_right _ (List.mem_map_of_mem hmem)) hid
      obtain ⟨entry, hpresent, -⟩ := htracks.busy
      rw [hentry] at absent
      exact absurd (hpresent.symm.trans absent) (Option.some_ne_none _)
    | ignored retried present refreshed => exact absurd (retried.symm.trans hnotRetried) (by simp)
    | requeued queued retried requeued idle snapshot =>
      exact absurd (retried.symm.trans hnotRetried) (by simp)
    | placed inserted final present replaced refreshed =>
      rw [hentry] at replaced
      have hrefreshed := refreshed.entry deviceId
      rw [replaced.entry] at hrefreshed
      rw [manager]
      exact hrefreshed.eq_of_not_active fun session hactive ↦ by
        cases Option.some.inj hactive

/-- Once the manager has ended, nothing is seen any more. -/
theorem attemptJournal_of_ended {final : SenderSystem} {inputs : List SenderInput}
    (h : system.manager.Consistent) (hended : system.phase = .ended)
    (hrun : Transition.run (SenderSystem.step secsF64 format) system inputs = some final) :
    system.attemptJournal secsF64 format deviceId inputs = [] := by
  induction inputs generalizing system with
  | nil => rfl
  | cons input inputs ih =>
    obtain ⟨next, hstep, hrun⟩ := Transition.run_cons.1 hrun
    have hrest (hnext : next.phase = .ended) := ih (step_consistent h hstep) hnext hrun
    cases step_effect h.keyed hstep with
    | unsent attempt env phase closed thread manager =>
      rw [SenderSystem.attemptJournal, Transition.emitted, hstep]
      exact hrest phase
    | tended quiet running phase tended => exact absurd hended running
    | queued env target running phase manager => exact absurd hended running
    | launched env running phase walked manager => exact absurd hended running
    | result env attempt result connectRx running phase head manager => exact absurd hended running
    | ended env running phase walked manager => exact absurd hended running
    | sent attempt env phase running thread manager => exact absurd hended running

/-- Only adding the target sets a time for it. -/
theorem addTarget_of_restarted {due : Instant}
    (h : .restarted (some due) ∈ system.attemptEvents deviceId input) :
    ∃ env target, input = .command env (.addTarget target) ∧ target.receiverId = deviceId := by
  cases input with
  | command env command =>
    cases command with
    | addTarget target =>
      simp only [SenderSystem.attemptEvents] at h
      split at h
      next hadded => exact ⟨env, target, rfl, hadded.1⟩
      · exact absurd h List.not_mem_nil
    | removeTarget removed =>
      simp only [SenderSystem.attemptEvents] at h
      split at h
      · simp at h
      · exact absurd h List.not_mem_nil
    | _ => exact absurd h List.not_mem_nil
  | pendingTargets env =>
    obtain ⟨attempt, -, hstarted⟩ := List.mem_map.1 h
    cases hstarted
  | connectResult env =>
    simp only [SenderSystem.attemptEvents] at h
    split at h
    · exact absurd h List.not_mem_nil
    · split at h
      · simp at h
      · exact absurd h List.not_mem_nil
  | _ => exact absurd h List.not_mem_nil

/-- A failed entry is not tried again unless its target is added. -/
theorem no_attempt_of_failed {final : SenderSystem} {inputs : List SenderInput}
    {snapshot : StreamTargetSnapshot} (h : system.Retries deviceId phase)
    (hfailed : system.manager.entryOf deviceId = some (.failed snapshot))
    (hkept : Transition.Along (SenderSystem.step secsF64 format) (KeptInFlight deviceId) system
      inputs)
    (hrun : Transition.run (SenderSystem.step secsF64 format) system inputs = some final)
    (hnotAdded : ∀ env target, .command env (.addTarget target) ∈ inputs →
      target.receiverId ≠ deviceId) :
    ∀ event ∈ system.attemptJournal secsF64 format deviceId inputs, event.starting = none := by
  by_cases hended : system.phase = .ended
  · rw [attemptJournal_of_ended h.consistent hended hrun]
    exact fun event hmem ↦ absurd hmem List.not_mem_nil
  have hnone : system.manager.pendingFor deviceId = none := by
    rw [SenderManager.pendingFor, SenderManager.view, hfailed]
    rfl
  have hpending := (h.tracks hended).pending
  rw [hnone] at hpending
  obtain ⟨after, hjournal, -⟩ := run_retries h hkept hrun
  cases phase with
  | waiting failed due =>
    obtain ⟨-, queued, hqueued, -⟩ := hpending
    exact absurd hqueued.symm (Option.some_ne_none queued)
  | trying attempt =>
    obtain ⟨queued, hqueued, -⟩ := hpending
    exact absurd hqueued.symm (Option.some_ne_none queued)
  | settled =>
    refine Retry.Policy.starting_eq_none_of_settled hjournal (Transition.forall_emitted
      (P := fun _ input ↦ ∀ env target, input = .command env (.addTarget target) →
        target.receiverId ≠ deviceId) ?_ (Transition.along_of_forall ?_ system))
    · rintro system input hnotAdded event hmem due rfl
      obtain ⟨env, target, rfl, hid⟩ := addTarget_of_restarted hmem
      exact hnotAdded env target rfl hid
    · rintro input hmem _ env target rfl
      exact hnotAdded env target hmem

/-- A target that is busy is not added again. -/
theorem addTarget_ignored {env : ManagerEnv} {target : SenderTarget} {entry : TargetSessionEntry}
    (hentry : system.manager.entryOf target.receiverId = some entry)
    (hbusy : entry.state.isBusy = true)
    (hstep : system.step secsF64 format (.command env (.addTarget target)) = some next) :
    next = system := by
  obtain ⟨hphase, hnext⟩ := Option.ite_none_right_eq_some.1 hstep
  obtain rfl := Option.some.inj hnext
  rcases SenderManager.queueTargetConnect_cases env.now target system.manager with
    ⟨-, -, -, hsame⟩ | ⟨hidle, -⟩
  · rw [SenderManager.processCommand, hsame, if_neg (by simp), ← hphase]
  · rw [hidle entry hentry] at hbusy
    cases hbusy

/-- **Retries are bounded and sequential.** Take a run and a target that is not removed while an attempt
for it is outstanding.

* Between two commands that take effect on the target, its attempts are a bounded, sequential series:
  numbered from 1 to 3 at most, each started after the result of the one before it was taken, and not
  before its pause was over.
* A failure that is not retryable, or the third, makes the entry a failed one with no retry planned.
* While there is a failed entry, no attempt starts before the target is added again.
* Adding a target that connects or streams changes nothing. -/
theorem retries_bounded_and_sequential (secsF64 : SecsF64) (format : WireFormat) (setup : SenderSetup)
    (now : Instant) (target : SenderTarget) (deviceId : DeviceId) (inputs : List SenderInput)
    (system : SenderSystem)
    (hrun : Transition.run (SenderSystem.step secsF64 format)
      (SenderSystem.start secsF64 setup now target) inputs = some system)
    (hkept : Transition.Along (SenderSystem.step secsF64 format) (KeptInFlight deviceId)
      (SenderSystem.start secsF64 setup now target) inputs) :
    (∀ before round after,
      (SenderSystem.start secsF64 setup now target).attemptJournal secsF64 format deviceId inputs =
        before ++ round ++ after →
      (before = [] ∨ ∃ due, before.getLast? = some (.restarted due)) →
      (∀ event ∈ round, event.isRestart = false) → connectPolicy.Sequential round) ∧
    (∀ attempt failure connectRx env next,
      system.manager.connectRx = (attempt, .error failure) :: connectRx →
      attempt.receiverId = deviceId →
      ¬ (failure.retryable = true ∧ attempt.attemptCount < MAX_CONNECT_ATTEMPTS) →
      system.step secsF64 format (.connectResult env) = some next →
      next.manager.entryOf deviceId = some (.failed failure.snapshot) ∧
        failure.snapshot.nextRetryAtUnixMs = none) ∧
    (∀ snapshot more final, system.manager.entryOf deviceId = some (.failed snapshot) →
      Transition.Along (SenderSystem.step secsF64 format) (KeptInFlight deviceId) system more →
      Transition.run (SenderSystem.step secsF64 format) system more = some final →
      (∀ env other, .command env (.addTarget other) ∈ more → other.receiverId ≠ deviceId) →
      ∀ event ∈ system.attemptJournal secsF64 format deviceId more, event.starting = none) ∧
    ∀ env other entry next, system.manager.entryOf other.receiverId = some entry →
      (entry.state = .connecting ∨ entry.state = .streaming) →
      system.step secsF64 format (.command env (.addTarget other)) = some next → next = system := by
  obtain ⟨phase, hfresh, hstart⟩ := start_retries secsF64 setup now target deviceId
  obtain ⟨reached, hjournal, hsystem⟩ := run_retries hstart hkept hrun
  refine ⟨?_, ?_, ?_, ?_⟩
  · intro before round after hround hbefore hnoRestart
    exact Retry.Policy.rounds_sequential hfresh hjournal hround hbefore hnoRestart
  · intro attempt failure connectRx env next hhead hid hlast hstep
    refine failed_of_not_again hsystem hhead hid (Bool.eq_false_iff.2 fun hagain ↦ hlast ?_) hstep
    obtain ⟨hretryable, hlimit⟩ := Bool.and_eq_true_iff.1 hagain
    exact ⟨hretryable, of_decide_eq_true hlimit⟩
  · intro snapshot more final hfailed hkept hmore hnotAdded
    exact no_attempt_of_failed hsystem hfailed hkept hmore hnotAdded
  · intro env other entry next hentry hbusy hstep
    exact addTarget_ignored hentry (by rcases hbusy with h | h <;> rw [h] <;> rfl) hstep

/-- An iteration in which an attempt is started and refused. -/
def refusedRound (attempt : ℕ) (now : Instant) : List SenderInput :=
  [.noCommand, .pendingTargets { Sample.managerEnv with now },
    .connected ⟨attempt, Sample.senderTarget 1, attempt + 1, Sample.connectRequest⟩ Sample.refused,
    .connectResult { Sample.managerEnv with now }, .noConnectResult, .mirrorEvents Sample.managerEnv,
    .tick Sample.managerEnv, .capture Sample.managerEnv, .idle Sample.managerEnv,
    .refresh Sample.managerEnv]

/-- Three refused attempts, each as soon as it may start, and an iteration in which none does. -/
def threeRefused : List SenderInput :=
  refusedRound 0 0 ++ refusedRound 1 500000000 ++ refusedRound 2 2000000000 ++
    [.noCommand, .pendingTargets { Sample.managerEnv with now := 9000000000 }]

/-- Three attempts, and no more. -/
theorem retries_bounded_and_sequential_refused :
    ∃ system, Transition.run (SenderSystem.step Sample.secsF64 Sample.senderFormat)
        (SenderSystem.start Sample.secsF64 Sample.senderSetup 0 (Sample.senderTarget 1))
        threeRefused = some system ∧
      (((SenderSystem.start Sample.secsF64 Sample.senderSetup 0
        (Sample.senderTarget 1)).attemptJournal Sample.secsF64 Sample.senderFormat Sample.receiverId
          threeRefused).filterMap Retry.Event.starting).map ConnectAttempt.attemptCount = [1, 2, 3] ∧
      connectPolicy.Sequential ((SenderSystem.start Sample.secsF64 Sample.senderSetup 0
        (Sample.senderTarget 1)).attemptJournal Sample.secsF64 Sample.senderFormat Sample.receiverId
          threeRefused) := by
  have hrun : (Transition.run (SenderSystem.step Sample.secsF64 Sample.senderFormat)
      (SenderSystem.start Sample.secsF64 Sample.senderSetup 0 (Sample.senderTarget 1))
      threeRefused).isSome = true := by decide +kernel
  obtain ⟨system, hrun⟩ := Option.isSome_iff_exists.1 hrun
  have hkept : Transition.Along (SenderSystem.step Sample.secsF64 Sample.senderFormat)
      (KeptInFlight Sample.receiverId)
      (SenderSystem.start Sample.secsF64 Sample.senderSetup 0 (Sample.senderTarget 1))
      threeRefused := by
    refine Transition.along_of_forall (fun input hmem system ↦ ?_) _
    cases input with
    | command env command => simp [threeRefused, refusedRound] at hmem
    | _ => trivial
  refine ⟨system, hrun, by decide +kernel, ?_⟩
  refine (retries_bounded_and_sequential _ _ _ _ _ Sample.receiverId _ _ hrun hkept).1 [] _ []
    (List.append_nil _).symm (Or.inl rfl) ?_
  have hnoRestart : ((SenderSystem.start Sample.secsF64 Sample.senderSetup 0
      (Sample.senderTarget 1)).attemptJournal Sample.secsF64 Sample.senderFormat Sample.receiverId
      threeRefused).all (fun event ↦ !event.isRestart) = true := by decide +kernel
  intro event hmem
  simpa using List.all_eq_true.1 hnoRestart event hmem

end SynchroSonic
