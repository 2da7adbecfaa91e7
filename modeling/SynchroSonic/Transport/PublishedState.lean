import SynchroSonic.Transport.TargetView

/-!
# The published session state

`derive_manager_state` sees nothing but the snapshots of the targets. That it nevertheless says what
the collection holds is an invariant of the entries: `Consistent` says which states and retry times the
snapshot of an entry can have, constructor by constructor. Every event keeps it
(`TargetEvent.apply_consistent`), given what a connect thread can come back with (`connect_sound`).
-/

namespace SynchroSonic

/-! ### Snapshots of entries -/

/-- The snapshot of an open session: it streams or has failed, and no retry is planned. -/
structure StreamTargetSnapshot.Open (snapshot : StreamTargetSnapshot) : Prop where
  state : snapshot.state = .streaming ∨ snapshot.state = .error
  retry : snapshot.nextRetryAtUnixMs = none

/-- The snapshot of a failure that is not tried again. -/
structure StreamTargetSnapshot.Lost (snapshot : StreamTargetSnapshot) : Prop where
  state : snapshot.state = .error
  retry : snapshot.nextRetryAtUnixMs = none

namespace TargetSessionEntry

/-- The snapshot of an entry is one its constructor allows. -/
def Consistent : TargetSessionEntry → Prop
  | .pending queued => queued.snapshot.state = .connecting ∨
      (queued.snapshot.state = .error ∧ queued.snapshot.nextRetryAtUnixMs.isSome = true)
  | .active session => session.snapshot.Open
  | .failed snapshot => snapshot.Lost

/-- The constructor of an entry does not depend on the name of its connection. -/
theorem consistent_unnamed {entry : TargetSessionEntry} :
    entry.unnamed.Consistent ↔ entry.Consistent := by
  cases entry <;> rfl

end TargetSessionEntry

namespace ManagedTargetSession

variable {session : ManagedTargetSession}

/-- A session that reports an error is still an open one. -/
theorem open_setError (h : session.snapshot.Open) (message : String) (health : StreamTargetHealth) :
    (session.setError message health).snapshot.Open :=
  ⟨Or.inr rfl, h.retry⟩

/-- The health of a session is not its state. -/
theorem open_refreshHealth (h : session.snapshot.Open) : session.refreshHealth.snapshot.Open := by
  unfold refreshHealth
  split
  · exact h
  · exact ⟨h.state, h.retry⟩

/-- Whatever is received, the session streams on or has failed. -/
theorem open_handleInbound (h : session.snapshot.Open) (now : Instant) (inbound : InboundControl) :
    (session.handleInbound now inbound).snapshot.Open := by
  cases inbound with
  | heartbeatAck nonce wireBytes =>
    simp only [handleInbound]
    split <;> exact ⟨h.state, h.retry⟩
  | stop reason wireBytes => exact ⟨Or.inr rfl, h.retry⟩
  | error message wireBytes => exact ⟨Or.inr rfl, h.retry⟩
  | disconnected => exact open_setError h _ _

/-- The same for the reports of the writer thread. -/
theorem open_handleNetworkEvent (h : session.snapshot.Open) (now : Instant) (event : NetworkEvent) :
    (session.handleNetworkEvent now event).snapshot.Open := by
  cases event with
  | error message => exact open_setError h _ _
  | _ => exact ⟨h.state, h.retry⟩

/-- A heartbeat plans no retry. -/
theorem open_heartbeat (h : session.snapshot.Open) (interval : Duration) (writerListens : Bool)
    (checkedAt sentAt rearmedAt : Instant) :
    (session.heartbeat interval writerListens checkedAt sentAt rearmedAt).snapshot.Open := by
  unfold heartbeat
  dsimp only
  split
  · split
    · exact ⟨h.state, h.retry⟩
    · exact ⟨Or.inr rfl, h.retry⟩
  · exact h

/-- A tick leaves the snapshot one of an open session. -/
theorem open_tick (interval : Duration) (env : TickEnv) (h : session.snapshot.Open) :
    (session.tick interval env).2.snapshot.Open :=
  @tick_invariant (fun session ↦ session.snapshot.Open)
    (fun now _ inbound h ↦ open_handleInbound h now inbound)
    (fun now _ event h ↦ open_handleNetworkEvent h now event)
    (fun _ _ _ _ _ _ h ↦ open_heartbeat h _ _ _ _ _) (fun _ _ h ↦ ⟨h.state, h.retry⟩)
    (fun _ h ↦ open_refreshHealth h) interval env session h

/-- A tick is not passed by a session that has failed, and by no other. -/
theorem state_of_tick_failed (interval : Duration) (env : TickEnv) (h : session.snapshot.Open)
    (hfailed : (session.tick interval env).1 = false) :
    (session.tick interval env).2.snapshot.state = .error := by
  have hstate : (session.tick interval env).1 =
      decide ((session.tick interval env).2.snapshot.state = .streaming) := rfl
  rw [hstate, decide_eq_false_iff_not] at hfailed
  exact (open_tick interval env h).state.resolve_left hfailed

/-- So does a frame; one that is refused has made an error of the session. -/
theorem open_offer (env : QueueEnv) (frame : FanoutAudioFrame) (h : session.snapshot.Open) :
    (session.offer env frame).2.snapshot.Open ∧
      ((session.offer env frame).1 = false → (session.offer env frame).2.snapshot.state = .error) := by
  unfold offer pushFrame
  rcases session.networkBranch.push env frame with ⟨error | outcome, networkBranch⟩
  · exact ⟨⟨Or.inr rfl, h.retry⟩, fun _ ↦ rfl⟩
  · refine ⟨open_refreshHealth ⟨h.state, h.retry⟩, fun hfailed ↦ ?_⟩
    cases hfailed

end ManagedTargetSession

/-! ### Events -/

/-- What a connect thread comes back with. -/
def SenderManager.SoundResult : TargetConnectResult → Prop
  | .ok session => session.snapshot.Open
  | .error failure => failure.snapshot.Lost

/-- An attempt ends in an open session or in a failure that says so. -/
theorem ManagedTargetSession.connect_sound (secsF64 : SecsF64) (format : WireFormat)
    (env : ConnectEnv) (stream : TcpStream) (target : SenderTarget) (attemptCount : ℕ)
    (request : TargetConnectRequest) :
    SenderManager.SoundResult (connect secsF64 format env stream target attemptCount request) := by
  have houtcome := connect_outcome secsF64 format env stream target attemptCount request
  generalize connect secsF64 format env stream target attemptCount request = result at houtcome
  cases houtcome with
  | failed receiverId attempts retry => exact ⟨rfl, retry⟩
  | opened sameStream sameTarget receiverId state retry => exact ⟨Or.inl state, retry⟩

namespace TargetEvent

/-- An event carries only snapshots a connect thread can come back with. -/
def Sound : TargetEvent → Prop
  | .connected session => session.snapshot.Open
  | .failed _ _ failure => failure.snapshot.Lost
  | _ => True

/-- What is done to a session leaves an entry that its constructor allows, failed or not. -/
theorem actOn_consistent {act : ManagedTargetSession → Bool × ManagedTargetSession}
    (hact : ∀ session : ManagedTargetSession, session.snapshot.Open → (act session).2.snapshot.Open ∧
      ((act session).1 = false → (act session).2.snapshot.state = .error))
    (writerJoined : Bool) {entry : TargetSessionEntry} (h : entry.Consistent) :
    (entry.actOn act writerJoined).Consistent := by
  cases entry with
  | pending queued => exact h
  | failed snapshot => exact h
  | active session =>
    obtain ⟨hopen, hfailed⟩ := hact session h
    show (TargetSessionEntry.settled writerJoined (act session)).Consistent
    unfold TargetSessionEntry.settled
    split
    · exact hopen
    next hpasses => exact ⟨hfailed (Bool.eq_false_iff.2 hpasses), hopen.retry⟩

/-- **Every event keeps the snapshots consistent.** -/
theorem apply_consistent {event : TargetEvent} {entry : Option TargetSessionEntry}
    (hevent : event.Sound) (h : ∀ before, entry = some before → before.Consistent)
    {after : TargetSessionEntry} (hafter : apply entry event = some after) : after.Consistent := by
  -- events that change the entry that is there
  have hmap {change : TargetSessionEntry → TargetSessionEntry}
      (hchange : ∀ entry : TargetSessionEntry, entry.Consistent → (change entry).Consistent)
      (hafter : entry.map change = some after) : after.Consistent := by
    obtain ⟨before, hbefore, rfl⟩ := Option.map_eq_some_iff.1 hafter
    exact hchange before (h before hbefore)
  cases event with
  | queued now target =>
    simp only [apply] at hafter
    split at hafter
    · exact h after hafter
    · obtain rfl := Option.some.inj hafter
      exact Or.inl rfl
  | removed => cases hafter
  | started now =>
    refine hmap (fun entry hentry ↦ ?_) hafter
    cases entry with
    | pending queued =>
      show TargetSessionEntry.Consistent (if _ then _ else _)
      split
      · exact Or.inl rfl
      · exact hentry
    | active session => exact hentry
    | failed snapshot => exact hentry
  | connected session =>
    obtain ⟨before, -, rfl⟩ := Option.map_eq_some_iff.1 hafter
    exact hevent
  | failed now nowUnixMs failure =>
    refine hmap (fun entry hentry ↦ ?_) hafter
    by_cases hretries : SenderManager.retries failure = true
    · rw [TargetSessionEntry.afterFailure_of_retries hretries]
      cases entry with
      | pending queued => exact Or.inr ⟨hevent.state, rfl⟩
      | active session => exact hentry
      | failed snapshot => exact hentry
    · rw [TargetSessionEntry.afterFailure_of_not_retries hretries]
      exact hevent
  | ticked interval env writerJoined =>
    exact hmap (fun _ ↦ actOn_consistent (fun session hopen ↦
      ⟨ManagedTargetSession.open_tick interval env hopen,
        ManagedTargetSession.state_of_tick_failed interval env hopen⟩) writerJoined) hafter
  | offered env frame writerJoined =>
    exact hmap (fun _ ↦ actOn_consistent (fun session hopen ↦
      ManagedTargetSession.open_offer env frame hopen) writerJoined) hafter
  | errored message =>
    refine hmap (fun entry hentry ↦ ?_) hafter
    cases entry with
    | pending queued => exact hentry
    | active session => exact ManagedTargetSession.open_setError hentry message .error
    | failed snapshot => exact hentry

/-- A target's events leave its entry one that can be published. -/
theorem foldl_apply_consistent {events : List TargetEvent} {entry : Option TargetSessionEntry}
    (hevents : ∀ event ∈ events, event.Sound)
    (h : ∀ before, entry = some before → before.Consistent) {after : TargetSessionEntry}
    (hafter : events.foldl apply entry = some after) : after.Consistent := by
  induction events generalizing entry with
  | nil => exact h after hafter
  | cons event events ih =>
    obtain ⟨hevent, hevents⟩ := List.forall_mem_cons.1 hevents
    exact ih hevents (fun _ hbefore ↦ apply_consistent hevent h hbefore) hafter

end TargetEvent

/-! ### Reachable states -/

namespace SenderManager

/-- Every entry and every result on its way is one that can be published. -/
structure Consistent (manager : SenderManager) : Prop extends WellKept manager where
  entries : ∀ deviceId entry, manager.entryOf deviceId = some entry → entry.Consistent
  results : ∀ result ∈ manager.connectRx, SoundResult result.2

variable {manager : SenderManager} {env : ManagerEnv} {deviceId : DeviceId}

/-- A sound result makes sound events. -/
theorem resultEvents_sound {result : TargetConnectResult} (h : SoundResult result) :
    ∀ event ∈ manager.resultEvents deviceId env result, event.Sound := by
  intro event hmem
  cases result with
  | ok session =>
    simp only [resultEvents] at hmem
    split at hmem
    · rcases List.mem_append.1 hmem with hmem | hmem
      · split at hmem
        · obtain rfl := List.mem_singleton.1 hmem
          exact h
        · exact absurd hmem List.not_mem_nil
      · split at hmem
        · exact absurd hmem List.not_mem_nil
        · obtain rfl := List.mem_singleton.1 hmem
          trivial
    · exact absurd hmem List.not_mem_nil
  | error failure =>
    simp only [resultEvents] at hmem
    split at hmem
    · obtain rfl := List.mem_singleton.1 hmem
      exact h
    · exact absurd hmem List.not_mem_nil

/-- So does a captured frame, or a capture that has ended. -/
theorem captureEvents_sound : ∀ event ∈ manager.captureEvents deviceId env, event.Sound := by
  intro event hmem
  simp only [captureEvents] at hmem
  split at hmem
  · exact absurd hmem List.not_mem_nil
  split at hmem
  · exact absurd hmem List.not_mem_nil
  all_goals
    obtain rfl := List.mem_singleton.1 hmem
    trivial

end SenderManager

/-- What a step does to a target is sound, whatever the step. -/
theorem targetEvents_sound {system : SenderSystem} (h : system.manager.Consistent)
    (deviceId : DeviceId) (input : SenderInput) :
    ∀ event ∈ system.targetEvents deviceId input, event.Sound := by
  intro event hmem
  cases input with
  | command env command =>
    cases command with
    | addTarget target =>
      simp only [SenderSystem.targetEvents] at hmem
      split at hmem
      · obtain rfl := List.mem_singleton.1 hmem
        trivial
      · exact absurd hmem List.not_mem_nil
    | removeTarget removed =>
      simp only [SenderSystem.targetEvents] at hmem
      split at hmem
      · obtain rfl := List.mem_singleton.1 hmem
        trivial
      · exact absurd hmem List.not_mem_nil
    | _ => exact absurd hmem List.not_mem_nil
  | connectResult env =>
    simp only [SenderSystem.targetEvents] at hmem
    split at hmem
    · exact absurd hmem List.not_mem_nil
    next attempt result connectRx hhead =>
      exact SenderManager.resultEvents_sound
        (h.results (attempt, result) (hhead ▸ List.mem_cons_self)) event hmem
  | pendingTargets env =>
    obtain rfl := List.mem_singleton.1 hmem
    trivial
  | tick env =>
    obtain rfl := List.mem_singleton.1 hmem
    trivial
  | capture env => exact SenderManager.captureEvents_sound event hmem
  | shutdownAll env =>
    obtain rfl := List.mem_singleton.1 hmem
    trivial
  | _ => exact absurd hmem List.not_mem_nil

/-- The rule for the channel: what holds of whatever a connect thread reports holds of everything in the
channel. -/
theorem step_connectRx {secsF64 : SecsF64} {format : WireFormat} {system next : SenderSystem}
    {input : SenderInput} {P : ConnectAttempt × TargetConnectResult → Prop}
    (hreport : ∀ attempt env, P (attempt, attempt.result secsF64 format env))
    (hkeyed : system.manager.Keyed) (hstep : system.step secsF64 format input = some next)
    (h : ∀ result ∈ system.manager.connectRx, P result) :
    ∀ result ∈ next.manager.connectRx, P result := by
  -- only a thread that reports adds to the channel
  cases step_effect hkeyed hstep with
  | tended quiet running phase tended =>
    rw [tended.sameThreads.connectRx]
    exact h
  | queued env target running phase manager =>
    rw [manager]
    rcases SenderManager.queueTargetConnect_cases env.now target system.manager with
      ⟨-, -, -, hsame⟩ | ⟨-, hreplaced⟩
    · rw [hsame]
      exact h
    · rw [hreplaced.connectRx]
      exact h
  | launched env running phase walked manager =>
    rw [manager]
    exact SenderManager.processPendingTargets_invariant
      (I := fun manager ↦ ∀ result ∈ manager.connectRx, P result)
      (fun _ _ _ _ h hlaunched ↦ by rw [hlaunched.connectRx]; exact h) walked h
  | result env attempt result connectRx running phase head manager =>
    rw [manager, (SenderManager.processConnectResult_effect env result _).sameThreads.connectRx]
    intro later hmem
    exact h later (by rw [head]; exact List.mem_cons_of_mem _ hmem)
  | ended env running phase walked manager =>
    rw [manager]
    exact fun _ hmem ↦ absurd hmem List.not_mem_nil
  | sent attempt env phase running thread manager =>
    rw [manager]
    intro result hmem
    rcases List.mem_append.1 hmem with hmem | hmem
    · exact h result hmem
    · obtain rfl := List.mem_singleton.1 hmem
      exact hreport attempt env
  | unsent attempt env phase closed thread manager =>
    rw [manager]
    exact h

/-- **Every step keeps every entry publishable.** -/
theorem step_consistent {secsF64 : SecsF64} {format : WireFormat} {system next : SenderSystem}
    {input : SenderInput} (h : system.manager.Consistent)
    (hstep : system.step secsF64 format input = some next) : next.manager.Consistent := by
  refine ⟨step_wellKept h.toWellKept hstep, fun deviceId entry hentry ↦ ?_,
    step_connectRx (fun attempt env ↦ ManagedTargetSession.connect_sound secsF64 format env _ _ _ _)
      h.keyed hstep h.results⟩
  have hview : next.manager.view deviceId = some entry.unnamed :=
    congrArg (Option.map TargetSessionEntry.unnamed) hentry
  rw [step_view h.keyed hstep deviceId] at hview
  refine TargetSessionEntry.consistent_unnamed.1 (TargetEvent.foldl_apply_consistent
    (targetEvents_sound h deviceId input) (fun before hbefore ↦ ?_) hview)
  obtain ⟨entry, hentry, rfl⟩ := Option.map_eq_some_iff.1 hbefore
  exact TargetSessionEntry.consistent_unnamed.2 (h.entries deviceId entry hentry)

/-- The first entry waits for its first attempt. -/
theorem start_consistent (secsF64 : SecsF64) (setup : SenderSetup) (now : Instant)
    (target : SenderTarget) : (SenderSystem.start secsF64 setup now target).manager.Consistent := by
  refine ⟨start_wellKept secsF64 setup now target, fun deviceId entry hentry ↦ ?_,
    fun _ hmem ↦ ?_⟩
  · have hview := SenderManager.view_queueTargetConnect now target deviceId
      (SenderManager.new secsF64 setup)
    rw [SenderManager.view, show ((SenderManager.new secsF64 setup).queueTargetConnect now
      target).entryOf deviceId = some entry from hentry] at hview
    split at hview
    · refine TargetSessionEntry.consistent_unnamed.1 (@TargetEvent.apply_consistent
        (.queued now target) _ trivial (fun before hbefore ↦ ?_) _ hview.symm)
      cases hbefore
    · cases hview
  · rw [show (SenderSystem.start secsF64 setup now target).manager.connectRx = [] from rfl] at hmem
    exact absurd hmem List.not_mem_nil

/-! ### The snapshots in order -/

namespace TargetSessionCollection

/-- The order of the snapshots: by the receiver's name, then by its id. -/
theorem snapshotLe_iff {left right : StreamTargetSnapshot} :
    snapshotLe left right = true ↔ left.receiverName < right.receiverName ∨
      left.receiverName = right.receiverName ∧ left.receiverId.value ≤ right.receiverId.value := by
  simp only [snapshotLe, Bool.or_eq_true, Bool.and_eq_true, decide_eq_true_eq, beq_iff_eq,
    Bool.not_eq_true', decide_eq_false_iff_not, String.not_lt]

/-- It is transitive. -/
theorem snapshotLe_trans {first second third : StreamTargetSnapshot}
    (h : snapshotLe first second = true) (h' : snapshotLe second third = true) :
    snapshotLe first third = true := by
  rw [snapshotLe_iff] at h h' ⊢
  rcases h with hname | ⟨hname, hid⟩
  · rcases h' with hname' | ⟨hname', -⟩
    · exact Or.inl (String.lt_trans hname hname')
    · exact Or.inl (hname' ▸ hname)
  · rcases h' with hname' | ⟨hname', hid'⟩
    · exact Or.inl (hname ▸ hname')
    · exact Or.inr ⟨hname.trans hname', String.le_trans hid hid'⟩

/-- It is total. -/
theorem snapshotLe_total (left right : StreamTargetSnapshot) :
    (snapshotLe left right || snapshotLe right left) = true := by
  rw [Bool.or_eq_true, snapshotLe_iff, snapshotLe_iff]
  by_cases hleft : left.receiverName < right.receiverName
  · exact Or.inl (Or.inl hleft)
  by_cases hright : right.receiverName < left.receiverName
  · exact Or.inr (Or.inl hright)
  -- neither name comes first, so they are the same
  have hname := String.le_antisymm (String.not_lt.1 hright) (String.not_lt.1 hleft)
  rcases String.le_total left.receiverId.value right.receiverId.value with hid | hid
  · exact Or.inl (Or.inr ⟨hname, hid⟩)
  · exact Or.inr (Or.inr ⟨hname.symm, hid⟩)

/-- Snapshots the sort does not tell apart have the same identifier. -/
theorem receiverId_of_snapshotLe {left right : StreamTargetSnapshot}
    (h : snapshotLe left right = true) (h' : snapshotLe right left = true) :
    left.receiverId = right.receiverId := by
  rw [snapshotLe_iff] at h h'
  have hid : left.receiverId.value = right.receiverId.value := by
    rcases h with hname | ⟨hname, hid⟩
    · rcases h' with hname' | ⟨hname', -⟩
      · exact absurd (String.lt_trans hname hname') (String.lt_irrefl _)
      · exact absurd (hname' ▸ hname) (String.lt_irrefl _)
    · rcases h' with hname' | ⟨-, hid'⟩
      · exact absurd (hname ▸ hname') (String.lt_irrefl _)
      · exact String.le_antisymm hid hid'
  rcases hleft : left.receiverId with ⟨leftValue⟩
  rcases hright : right.receiverId with ⟨rightValue⟩
  rw [hleft, hright] at hid
  exact congrArg DeviceId.mk hid

variable {targets : TargetSessionCollection} {order : List DeviceId}

/-- The snapshots are those of the entries, in whatever order they are walked through. -/
theorem mem_collectSnapshots (horder : order.Perm targets.entries.keys)
    {snapshot : StreamTargetSnapshot} :
    snapshot ∈ targets.collectSnapshots order ↔
      ∃ deviceId entry, targets.entries.lookup deviceId = some entry ∧ entry.snapshot = snapshot := by
  rw [collectSnapshots, List.mem_mergeSort, List.mem_filterMap]
  constructor
  · rintro ⟨deviceId, -, hsnapshot⟩
    obtain ⟨entry, hentry, rfl⟩ := Option.map_eq_some_iff.1 hsnapshot
    exact ⟨deviceId, entry, hentry, rfl⟩
  · rintro ⟨deviceId, entry, hentry, rfl⟩
    have hmem : deviceId ∈ targets.entries.keys :=
      AList.lookup_isSome.1 (Option.isSome_of_mem (Option.mem_def.2 hentry))
    exact ⟨deviceId, horder.mem_iff.2 hmem, by rw [hentry]; rfl⟩

/-- The snapshots do not depend on the order of the walk, as long as no two entries have the same
snapshot identifier. -/
theorem collectSnapshots_congr (horder : order.Perm targets.entries.keys) {order' : List DeviceId}
    (horder' : order'.Perm targets.entries.keys)
    (hkeyed : ∀ deviceId entry, targets.entries.lookup deviceId = some entry →
      entry.snapshot.receiverId = deviceId) :
    targets.collectSnapshots order = targets.collectSnapshots order' := by
  have hsorted (order : List DeviceId) :
      (targets.collectSnapshots order).Pairwise fun left right ↦ snapshotLe left right = true := by
    rw [collectSnapshots]
    exact @List.pairwise_mergeSort _ snapshotLe (fun _ _ _ h h' ↦ snapshotLe_trans h h')
      (fun left right ↦ snapshotLe_total left right) _
  refine List.Perm.eq_of_pairwise (fun left right hleft hright h h' ↦ ?_) (hsorted order)
    (hsorted order') ?_
  · obtain ⟨leftId, leftEntry, hleftEntry, rfl⟩ := (mem_collectSnapshots horder).1 hleft
    obtain ⟨rightId, rightEntry, hrightEntry, rfl⟩ := (mem_collectSnapshots horder').1 hright
    have hid := receiverId_of_snapshotLe h h'
    rw [hkeyed leftId leftEntry hleftEntry, hkeyed rightId rightEntry hrightEntry] at hid
    rw [hid] at hleftEntry
    rw [Option.some.inj (hleftEntry.symm.trans hrightEntry)]
  · refine (List.mergeSort_perm _ _).trans (.trans ?_ (List.mergeSort_perm _ _).symm)
    exact (horder.trans horder'.symm).filterMap _

end TargetSessionCollection

/-! ### The session state -/

namespace SenderManager

variable {manager : SenderManager} {env : ManagerEnv} {deviceId : DeviceId}

/-- Some open session streams. -/
def HasStreaming (manager : SenderManager) : Prop :=
  ∃ deviceId session, manager.entryOf deviceId = some (.active session) ∧
    session.snapshot.state = .streaming

/-- Some entry is pending. -/
def HasPending (manager : SenderManager) : Prop :=
  ∃ deviceId queued, manager.entryOf deviceId = some (.pending queued)

/-- A snapshot names the target it is stored under. -/
theorem snapshot_receiverId (h : manager.Keyed) {entry : TargetSessionEntry}
    (hentry : manager.entryOf deviceId = some entry) : entry.snapshot.receiverId = deviceId := by
  have hkeyed := h deviceId entry hentry
  cases entry with
  | pending queued => exact hkeyed.2
  | active session => exact hkeyed.2
  | failed snapshot => exact hkeyed

/-- One snapshot for each key. -/
theorem map_receiverId_collectSnapshots (h : manager.Keyed) (hwalked : manager.WalkedBy env) :
    ((manager.targets.collectSnapshots env.order).map StreamTargetSnapshot.receiverId).Perm
      manager.targets.entries.keys := by
  refine ((List.mergeSort_perm _ _).map _).trans (.trans ?_ hwalked)
  have hown : ∀ deviceId ∈ env.order, ((manager.targets.entries.lookup deviceId).map
      TargetSessionEntry.snapshot).map StreamTargetSnapshot.receiverId = some deviceId := by
    intro deviceId hmem
    obtain ⟨entry, hentry⟩ := Option.isSome_iff_exists.1
      (AList.lookup_isSome.2 (hwalked.mem_iff.1 hmem))
    rw [hentry]
    exact congrArg some (snapshot_receiverId h hentry)
  rw [List.map_filterMap]
  refine List.Perm.of_eq ?_
  rw [List.filterMap_congr hown, List.filterMap_some]

/-- What the snapshot of a consistent entry says about its constructor. -/
theorem isPending_iff {entry : TargetSessionEntry} (h : entry.Consistent) :
    (entry.snapshot.state == .connecting || entry.snapshot.state == .negotiating
      || entry.snapshot.nextRetryAtUnixMs.isSome) = true ↔
      ∃ queued, entry = .pending queued := by
  cases entry with
  | pending queued =>
    refine iff_of_true ?_ ⟨queued, rfl⟩
    rcases h with hstate | ⟨-, hretry⟩
    · simp [TargetSessionEntry.snapshot, hstate]
    · simp [TargetSessionEntry.snapshot, hretry]
  | active session =>
    refine iff_of_false ?_ (by simp)
    rcases h.state with hstate | hstate
    · simp [TargetSessionEntry.snapshot, hstate, h.retry]
    · simp [TargetSessionEntry.snapshot, hstate, h.retry]
  | failed snapshot =>
    refine iff_of_false ?_ (by simp)
    simp [TargetSessionEntry.snapshot, h.state, h.retry]

/-- Only an open session streams. -/
theorem isStreaming_iff {entry : TargetSessionEntry} (h : entry.Consistent) :
    entry.snapshot.state = .streaming ↔
      ∃ session, entry = .active session ∧ session.snapshot.state = .streaming := by
  cases entry with
  | pending queued =>
    refine iff_of_false ?_ (by simp)
    rcases h with hstate | ⟨hstate, -⟩ <;> simp [TargetSessionEntry.snapshot, hstate]
  | active session => simp [TargetSessionEntry.snapshot]
  | failed snapshot =>
    refine iff_of_false ?_ (by simp)
    simp [TargetSessionEntry.snapshot, h.state]

/-- A consistent entry that neither streams nor waits has failed. -/
theorem state_eq_error {entry : TargetSessionEntry} (h : entry.Consistent)
    (hstreaming : entry.snapshot.state ≠ .streaming) (hpending : ∀ queued, entry ≠ .pending queued) :
    entry.snapshot.state = .error := by
  cases entry with
  | pending queued => exact absurd rfl (hpending queued)
  | active session => exact h.state.resolve_left hstreaming
  | failed snapshot => exact h.state

/-! Each test of `derive_manager_state`, read off the collection. -/

/-- The first test: there is no target. -/
theorem isEmpty_collectSnapshots_iff (h : manager.Consistent) (hwalked : manager.WalkedBy env) :
    (manager.targets.collectSnapshots env.order).isEmpty = true ↔
      manager.targets.entries.keys = [] := by
  have hperm := map_receiverId_collectSnapshots h.keyed hwalked
  rw [List.isEmpty_iff]
  constructor
  · intro hnil
    rw [hnil] at hperm
    exact hperm.symm.eq_nil
  · intro hnil
    rw [hnil] at hperm
    exact List.map_eq_nil_iff.1 hperm.eq_nil

/-- The second: some session streams. -/
theorem any_streaming_iff (h : manager.Consistent) (hwalked : manager.WalkedBy env) :
    ((manager.targets.collectSnapshots env.order).any fun target ↦
      target.state == .streaming) = true ↔ manager.HasStreaming := by
  rw [List.any_eq_true]
  constructor
  · rintro ⟨snapshot, hsnapshot, hstate⟩
    obtain ⟨deviceId, entry, hentry, rfl⟩ :=
      (TargetSessionCollection.mem_collectSnapshots hwalked).1 hsnapshot
    obtain ⟨session, rfl, hsession⟩ :=
      (isStreaming_iff (h.entries deviceId entry hentry)).1 (beq_iff_eq.1 hstate)
    exact ⟨deviceId, session, hentry, hsession⟩
  · rintro ⟨deviceId, session, hentry, hstate⟩
    exact ⟨session.snapshot,
      (TargetSessionCollection.mem_collectSnapshots hwalked).2 ⟨deviceId, _, hentry, rfl⟩,
      beq_iff_eq.2 hstate⟩

/-- The third: some target is on its way, or waits for a retry. -/
theorem any_pending_iff (h : manager.Consistent) (hwalked : manager.WalkedBy env) :
    ((manager.targets.collectSnapshots env.order).any fun target ↦
      target.state == .connecting || target.state == .negotiating
        || target.nextRetryAtUnixMs.isSome) = true ↔ manager.HasPending := by
  rw [List.any_eq_true]
  constructor
  · rintro ⟨snapshot, hsnapshot, hstate⟩
    obtain ⟨deviceId, entry, hentry, rfl⟩ :=
      (TargetSessionCollection.mem_collectSnapshots hwalked).1 hsnapshot
    obtain ⟨queued, rfl⟩ := (isPending_iff (h.entries deviceId entry hentry)).1 hstate
    exact ⟨deviceId, queued, hentry⟩
  · rintro ⟨deviceId, queued, hentry⟩
    exact ⟨queued.snapshot,
      (TargetSessionCollection.mem_collectSnapshots hwalked).2 ⟨deviceId, _, hentry, rfl⟩,
      (isPending_iff (h.entries deviceId _ hentry)).2 ⟨queued, rfl⟩⟩

/-- Otherwise every target has failed. -/
theorem state_eq_error_of_collected (h : manager.Consistent) (hwalked : manager.WalkedBy env)
    (hstreaming : ¬ manager.HasStreaming) (hpending : ¬ manager.HasPending) :
    ∀ snapshot ∈ manager.targets.collectSnapshots env.order, snapshot.state = .error := by
  intro snapshot hsnapshot
  obtain ⟨deviceId, entry, hentry, rfl⟩ :=
    (TargetSessionCollection.mem_collectSnapshots hwalked).1 hsnapshot
  refine state_eq_error (h.entries deviceId entry hentry) (fun hstate ↦ ?_) ?_
  · obtain ⟨session, rfl, hsession⟩ :=
      (isStreaming_iff (h.entries deviceId entry hentry)).1 hstate
    exact hstreaming ⟨deviceId, session, hentry, hsession⟩
  · rintro queued rfl
    exact hpending ⟨deviceId, queued, hentry⟩

/-- **The derived state**, read off the collection. -/
theorem deriveManagerState_eq (h : manager.Consistent) (hwalked : manager.WalkedBy env)
    [Decidable manager.HasStreaming] [Decidable manager.HasPending] :
    deriveManagerState (manager.targets.collectSnapshots env.order) =
      if manager.targets.entries.keys = [] then .idle
      else if manager.HasStreaming then .streaming
      else if manager.HasPending then .connecting
      else .error := by
  simp only [deriveManagerState, isEmpty_collectSnapshots_iff h hwalked, any_streaming_iff h hwalked,
    any_pending_iff h hwalked]
  split
  · rfl
  split
  · rfl
  next hnotStreaming =>
  split
  · rfl
  next hnotPending =>
    -- every snapshot is an error: the test for `Stopping` fails and the one for `Error` passes
    have herror := state_eq_error_of_collected h hwalked hnotStreaming hnotPending
    have hstopping : ((manager.targets.collectSnapshots env.order).any fun target ↦
        target.state == .stopping) = false := by
      rw [List.any_eq_false]
      intro snapshot hsnapshot
      simp [herror snapshot hsnapshot]
    have hall : ((manager.targets.collectSnapshots env.order).all fun target ↦
        target.state == .error) = true := by
      rw [List.all_eq_true]
      exact fun snapshot hsnapshot ↦ beq_iff_eq.2 (herror snapshot hsnapshot)
    simp only [hstopping, hall, Bool.false_eq_true, if_false, if_true]

end SenderManager

open SenderManager in
/-- **The published state is what the collection says.** In every reachable state, `refresh_snapshot`
publishes one snapshot for each key, under that key and in an order of its own, and the session state
tells which kinds of entries there are. -/
theorem published_state (secsF64 : SecsF64) (format : WireFormat) (setup : SenderSetup)
    (now : Instant) (target : SenderTarget) (inputs : List SenderInput) (final : SenderSystem)
    (env : ManagerEnv)
    (hrun : Transition.run (SenderSystem.step secsF64 format)
      (SenderSystem.start secsF64 setup now target) inputs = some final)
    (hwalked : final.manager.WalkedBy env) :
    let published := (final.manager.refreshSnapshot env).sharedSnapshot
    (final.manager.refreshSnapshot env).snapshot = published ∧
      (published.targets.map StreamTargetSnapshot.receiverId).Perm
        final.manager.targets.entries.keys ∧
      (∀ deviceId entry, final.manager.entryOf deviceId = some entry →
        entry.snapshot ∈ published.targets ∧ entry.snapshot.receiverId = deviceId) ∧
      (∀ env', final.manager.WalkedBy env' →
        (final.manager.refreshSnapshot env').sharedSnapshot.targets = published.targets) ∧
      (published.state = .idle ↔ final.manager.targets.entries.keys = []) ∧
      (published.state = .streaming ↔ final.manager.HasStreaming) ∧
      (published.state = .connecting ↔
        ¬ final.manager.HasStreaming ∧ final.manager.HasPending) ∧
      (published.state = .error ↔ final.manager.targets.entries.keys ≠ [] ∧
        ¬ final.manager.HasStreaming ∧ ¬ final.manager.HasPending) := by
  classical
  have hconsistent : final.manager.Consistent :=
    @Transition.run_invariant _ _ _ (fun system ↦ system.manager.Consistent)
      (fun _ _ _ ↦ step_consistent) _ _ _ (start_consistent secsF64 setup now target) hrun
  have hstate : (final.manager.refreshSnapshot env).sharedSnapshot.state =
      deriveManagerState (final.manager.targets.collectSnapshots env.order) := rfl
  have hoccupied {deviceId : DeviceId} {entry : TargetSessionEntry}
      (hentry : final.manager.entryOf deviceId = some entry) :
      final.manager.targets.entries.keys ≠ [] := by
    have hmem : deviceId ∈ final.manager.targets.entries.keys :=
      AList.lookup_isSome.1 (Option.isSome_of_mem (Option.mem_def.2 hentry))
    exact List.ne_nil_of_mem hmem
  have hstreaming : final.manager.HasStreaming → final.manager.targets.entries.keys ≠ [] :=
    fun ⟨_, _, hentry, _⟩ ↦ hoccupied hentry
  have hpending : final.manager.HasPending → final.manager.targets.entries.keys ≠ [] :=
    fun ⟨_, _, hentry⟩ ↦ hoccupied hentry
  -- the four states exclude one another, so the derived state decides which condition holds
  rw [deriveManagerState_eq hconsistent hwalked] at hstate
  refine ⟨rfl, map_receiverId_collectSnapshots hconsistent.keyed hwalked,
    fun deviceId entry hentry ↦ ⟨?_, snapshot_receiverId hconsistent.keyed hentry⟩,
    fun env' hwalked' ↦ ?_, ?_⟩
  · exact (TargetSessionCollection.mem_collectSnapshots hwalked).2 ⟨deviceId, entry, hentry, rfl⟩
  · exact TargetSessionCollection.collectSnapshots_congr hwalked' hwalked
      fun deviceId entry hentry ↦ snapshot_receiverId hconsistent.keyed hentry
  · rw [hstate]
    by_cases hkeys : final.manager.targets.entries.keys = []
    · simp [hkeys, mt hstreaming (not_not.2 hkeys), mt hpending (not_not.2 hkeys)]
    by_cases hstreams : final.manager.HasStreaming
    · simp [hkeys, hstreams]
    by_cases hpends : final.manager.HasPending
    · simp [hkeys, hstreams, hpends]
    · simp [hkeys, hstreams, hpends]

/-- One target, connected and streaming. -/
theorem published_state_streaming :
    ∃ final : SenderSystem,
      Transition.run (SenderSystem.step Sample.secsF64 Sample.senderFormat)
          (SenderSystem.start Sample.secsF64 Sample.senderSetup 0 (Sample.senderTarget 1))
          (openedTarget Sample.managerEnv) = some final ∧
        final.manager.HasStreaming ∧
        (final.manager.refreshSnapshot Sample.managerEnv).sharedSnapshot.targets.map
          StreamTargetSnapshot.receiverId = [Sample.receiverId] := by
  have hrun : (Transition.run (SenderSystem.step Sample.secsF64 Sample.senderFormat)
      (SenderSystem.start Sample.secsF64 Sample.senderSetup 0 (Sample.senderTarget 1))
      (openedTarget Sample.managerEnv)).map (fun system ↦ (system.manager.targets.entries.keys,
        (system.manager.refreshSnapshot Sample.managerEnv).sharedSnapshot.state)) =
      some ([Sample.receiverId], .streaming) := by decide +kernel
  obtain ⟨final, hrun, hfinal⟩ := Option.map_eq_some_iff.1 hrun
  obtain ⟨hkeys, hstate⟩ := Prod.mk.inj hfinal
  have hwalked : final.manager.WalkedBy Sample.managerEnv := by
    rw [SenderManager.WalkedBy, hkeys]
    exact List.Perm.refl _
  obtain ⟨-, htargets, -, -, -, hstreaming, -, -⟩ :=
    published_state _ _ _ _ _ _ final Sample.managerEnv hrun hwalked
  rw [hkeys] at htargets
  exact ⟨final, hrun, hstreaming.1 hstate, List.perm_singleton.1 htargets⟩

end SynchroSonic
