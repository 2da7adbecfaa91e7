import SynchroSonic.Transport.SenderSteps

/-!
# The collection, target by target

What a run does to one target, told as if there were no other. `TargetEvent` lists what can happen to
a target, `TargetEvent.apply` says what comes of it, and `targetEvents` reads off a step which events
it holds in store for a target: its own commands and results, a tick, a frame of the capture.

**The manager is as many of these machines as it has targets** (`step_view`, `run_view`). An event says
nothing of the other targets, and nothing of the order in which the collection is walked through, so
neither has any influence.

Attempts are numbered through all targets, and streams are named after them, so the view of a target
leaves these numbers out.
-/

namespace SynchroSonic

/-- A session whose stream has no name. -/
def ManagedTargetSession.unnamed (session : ManagedTargetSession) : ManagedTargetSession :=
  { session with stream := ⟨0⟩ }

namespace TargetSessionEntry

/-- The open session of an entry. -/
def session : TargetSessionEntry → Option ManagedTargetSession
  | .active session => some session
  | _ => none

/-- The pending connection of an entry. -/
def queued : TargetSessionEntry → Option PendingTargetSession
  | .pending queued => some queued
  | _ => none

/-- An entry without the numbers of attempts. -/
def unnamed : TargetSessionEntry → TargetSessionEntry
  | .pending queued => .pending { queued with launched := none }
  | .active session => .active session.unnamed
  | .failed snapshot => .failed snapshot

@[simp] theorem snapshot_unnamed (entry : TargetSessionEntry) :
    entry.unnamed.snapshot = entry.snapshot := by
  cases entry <;> rfl

@[simp] theorem state_unnamed (entry : TargetSessionEntry) : entry.unnamed.state = entry.state :=
  congrArg StreamTargetSnapshot.state entry.snapshot_unnamed

@[simp] theorem isDue_unnamed (now : Instant) (entry : TargetSessionEntry) :
    entry.unnamed.isDue now = entry.isDue now := by
  cases entry <;> rfl

/-- What an open session becomes when something was done to it: it stays, or the snapshot of its
failure is left. -/
def settled (writerJoined : Bool) (acted : Bool × ManagedTargetSession) : TargetSessionEntry :=
  if acted.1 then .active acted.2 else .failed (acted.2.shutdownImmediate writerJoined)

/-- Do something to an open session. -/
def actOn (act : ManagedTargetSession → Bool × ManagedTargetSession) (writerJoined : Bool) :
    TargetSessionEntry → TargetSessionEntry
  | .active session => settled writerJoined (act session)
  | entry => entry

/-- An open session fails, and stays. -/
def errored (message : String) : TargetSessionEntry → TargetSessionEntry
  | .active session => .active (session.setError message .error)
  | entry => entry

/-- Start an attempt that is due. -/
def started (now : Instant) (entry : TargetSessionEntry) : TargetSessionEntry :=
  match entry with
  | .pending queued =>
    if entry.isDue now then .pending { queued.markInFlight 0 with launched := none } else entry
  | _ => entry

/-- A failed attempt is put off or given up. -/
def afterFailure (now : Instant) (nowUnixMs : ℕ) (failure : TargetConnectFailure)
    (entry : TargetSessionEntry) : TargetSessionEntry :=
  if SenderManager.retries failure then
    match entry with
    | .pending queued => .pending (queued.scheduleRetry now nowUnixMs failure.snapshot
        (retryBackoff failure.snapshot.attemptCount))
    | entry => entry
  else .failed failure.snapshot

end TargetSessionEntry

/-- Offer a frame to a session. A frame that is refused leaves an error behind. -/
def ManagedTargetSession.offer (env : QueueEnv) (frame : FanoutAudioFrame)
    (session : ManagedTargetSession) : Bool × ManagedTargetSession :=
  match session.pushFrame env frame with
  | (.ok (), session) => (true, session)
  | (.error error, session) => (false, session.setError error.display .error)

/-! ### Names do not matter

Neither the stream of a session nor what the frames in its queue say is looked at by what the manager does
to the session: it counts the frames, and no more.
-/

namespace BufferedBranchQueue

variable {T U : Type}

/-- The queue with other items in the same places. -/
def relabel (reframe : T → U) (queue : BufferedBranchQueue T) : BufferedBranchQueue U where
  capacity := queue.capacity
  items := queue.items.map reframe
  droppedPackets := queue.droppedPackets

/-- A queue counts its frames and does not look into them. -/
@[simp] theorem snapshot_relabel (reframe : T → U) (queue : BufferedBranchQueue T) :
    (queue.relabel reframe).snapshot = queue.snapshot := by
  simp only [snapshot, relabel, List.length_map]

/-- The writer thread takes frames by their place. -/
theorem consume_relabel (reframe : T → U) (taken : ℕ) (queue : BufferedBranchQueue T) :
    (queue.relabel reframe).consume taken = (queue.consume taken).relabel reframe := by
  simp only [consume, relabel, List.map_drop]

/-- A `push` looks at the number of the items only. -/
theorem push_relabel (reframe : T → U) (env : QueueEnv) (item : T) (queue : BufferedBranchQueue T) :
    (queue.relabel reframe).push env (reframe item) =
      ((queue.push env item).1, (queue.push env item).2.relabel reframe) := by
  simp only [push, relabel, List.length_map, ← List.map_drop]
  split
  · rfl
  split
  · rw [List.map_append, List.map_singleton]
  rcases queue.items.drop env.taken with - | ⟨oldest, rest⟩
  · rfl
  · simp only [List.map_cons, List.map_append, List.map_nil]

end BufferedBranchQueue

namespace ManagedTargetSession

/-- The session with another stream, and other frames in its queue. -/
def relabel (rename : TcpStream → TcpStream) (reframe : FanoutAudioFrame → FanoutAudioFrame)
    (session : ManagedTargetSession) : ManagedTargetSession :=
  { session with
    stream := rename session.stream
    networkBranch := session.networkBranch.relabel reframe }

/-- To hide the name of a connection is to rename it and to leave the frames as they are. -/
theorem unnamed_eq_relabel : unnamed = relabel (fun _ ↦ ⟨0⟩) id := by
  funext session
  simp only [unnamed, relabel, BufferedBranchQueue.relabel, List.map_id]

variable (rename : TcpStream → TcpStream) (reframe : FanoutAudioFrame → FanoutAudioFrame)

/-- What the receiver sends is taken up without a look at the connection or the queue. -/
theorem handleInbound_relabel (now : Instant) (inbound : InboundControl)
    (session : ManagedTargetSession) :
    (session.relabel rename reframe).handleInbound now inbound =
      (session.handleInbound now inbound).relabel rename reframe := by
  cases inbound with
  | heartbeatAck nonce wireBytes =>
    rcases hlookup : session.pendingHeartbeats.lookup nonce with - | sentAt
    · simp only [handleInbound, countReceived, relabel, hlookup]
    · simp only [handleInbound, countReceived, relabel, hlookup]
  | stop reason wireBytes => rfl
  | error message wireBytes => rfl
  | disconnected => rfl

/-- So is a report of the writer thread. -/
theorem handleNetworkEvent_relabel (now : Instant) (event : NetworkEvent)
    (session : ManagedTargetSession) :
    (session.relabel rename reframe).handleNetworkEvent now event =
      (session.handleNetworkEvent now event).relabel rename reframe := by
  cases event <;> rfl

/-- A heartbeat goes by the clock. -/
theorem heartbeat_relabel (interval : Duration) (writerListens : Bool)
    (checkedAt sentAt rearmedAt : Instant) (session : ManagedTargetSession) :
    (session.relabel rename reframe).heartbeat interval writerListens checkedAt sentAt rearmedAt =
      (session.heartbeat interval writerListens checkedAt sentAt rearmedAt).relabel rename reframe := by
  unfold heartbeat
  by_cases hdue : session.snapshot.state = .streaming ∧ interval ≤ checkedAt - session.lastHeartbeat
  · rw [if_pos hdue]
    refine (if_pos hdue).trans ?_
    cases writerListens <;> rfl
  · rw [if_neg hdue]
    exact if_neg hdue

/-- The health goes by the clock and the counters. -/
theorem refreshHealth_relabel (session : ManagedTargetSession) :
    (session.relabel rename reframe).refreshHealth = session.refreshHealth.relabel rename reframe := by
  unfold refreshHealth
  by_cases hstate : session.snapshot.state ≠ .streaming
  · rw [if_pos hstate]
    exact if_pos hstate
  · rw [if_neg hstate]
    exact if_neg hstate

/-- The snapshot of the queue has lengths and counters only. -/
theorem refreshBuffer_relabel (session : ManagedTargetSession) :
    (session.relabel rename reframe).refreshBuffer = session.refreshBuffer.relabel rename reframe := by
  simp only [refreshBuffer, relabel, BufferedBranchQueue.snapshot_relabel]

/-- What commutes with relabelling step by step does so over a list. -/
theorem foldl_relabel {ι : Type} (update : ManagedTargetSession → ι → ManagedTargetSession)
    (hupdate : ∀ session i,
      update (session.relabel rename reframe) i = (update session i).relabel rename reframe)
    (is : List ι) (session : ManagedTargetSession) :
    is.foldl update (session.relabel rename reframe) =
      (is.foldl update session).relabel rename reframe :=
  List.foldl_hom (relabel rename reframe) hupdate

/-- **A tick** does not look at the names. -/
theorem tick_relabel (interval : Duration) (env : TickEnv) (session : ManagedTargetSession) :
    (session.relabel rename reframe).tick interval env =
      ((session.tick interval env).1, (session.tick interval env).2.relabel rename reframe) := by
  have hinbound := foldl_relabel rename reframe (fun session (item : InboundControl × ℕ) ↦
    session.handleInbound (env.now item.2) item.1)
    (fun session item ↦ handleInbound_relabel _ _ _ item.1 session) env.inbound.zipIdx session
  have hevents := foldl_relabel rename reframe (fun session (item : NetworkEvent × ℕ) ↦
    session.handleNetworkEvent (env.now (env.inbound.length + item.2)) item.1)
    (fun session item ↦ handleNetworkEvent_relabel _ _ _ item.1 session) env.events.zipIdx
  have hconsume (session : ManagedTargetSession) :
      (session.relabel rename reframe).consume env.consumed =
        (session.consume env.consumed).relabel rename reframe := by
    simp only [consume, relabel, BufferedBranchQueue.consume_relabel]
  simp only [tick]
  rw [hinbound, hevents, heartbeat_relabel, hconsume, refreshBuffer_relabel, refreshHealth_relabel]
  rfl

/-- **Offering a frame** does not look at the names. -/
theorem offer_relabel (env : QueueEnv) (frame : FanoutAudioFrame) (session : ManagedTargetSession) :
    (session.relabel rename reframe).offer env (reframe frame) =
      ((session.offer env frame).1, (session.offer env frame).2.relabel rename reframe) := by
  have hpush := BufferedBranchQueue.push_relabel reframe env frame session.networkBranch
  have hpush' : (session.relabel rename reframe).networkBranch.push env (reframe frame) = _ := hpush
  rcases hmade : session.networkBranch.push env frame with ⟨error | outcome, networkBranch⟩
  · rw [hmade] at hpush'
    simp only [offer, pushFrame, hpush', hmade]
    rfl
  · rw [hmade] at hpush'
    have hbuffer := refreshBuffer_relabel rename reframe { session with networkBranch }
    have hhealth := refreshHealth_relabel rename reframe ({ session with networkBranch }).refreshBuffer
    rw [← hbuffer] at hhealth
    simp only [offer, pushFrame, hpush', hmade]
    exact congrArg (Prod.mk true) hhealth

/-- The snapshot that is left of a session names neither its connection nor its frames. -/
theorem shutdownImmediate_relabel (writerJoined : Bool) (session : ManagedTargetSession) :
    (session.relabel rename reframe).shutdownImmediate writerJoined =
      session.shutdownImmediate writerJoined := by
  cases writerJoined with
  | true => rfl
  | false => simp only [shutdownImmediate, relabel, Bool.false_eq_true, if_false,
      BufferedBranchQueue.snapshot_relabel]

/-- A tick does not look at the name of the stream. -/
theorem tick_unnamed (interval : Duration) (env : TickEnv) (session : ManagedTargetSession) :
    session.unnamed.tick interval env =
      ((session.tick interval env).1, (session.tick interval env).2.unnamed) := by
  rw [unnamed_eq_relabel]
  exact tick_relabel _ _ interval env session

/-- Nor does offering a frame. -/
theorem offer_unnamed (env : QueueEnv) (frame : FanoutAudioFrame) (session : ManagedTargetSession) :
    session.unnamed.offer env frame =
      ((session.offer env frame).1, (session.offer env frame).2.unnamed) := by
  rw [unnamed_eq_relabel]
  exact offer_relabel _ id env frame session

end ManagedTargetSession

namespace TargetSessionEntry

/-- What is done to a session without looking at its name is done to the entry. -/
theorem actOn_unnamed {act : ManagedTargetSession → Bool × ManagedTargetSession}
    (hact : ∀ session, act session.unnamed = ((act session).1, (act session).2.unnamed))
    (writerJoined : Bool) (entry : TargetSessionEntry) :
    entry.unnamed.actOn act writerJoined = (entry.actOn act writerJoined).unnamed := by
  cases entry with
  | pending queued => rfl
  | failed snapshot => rfl
  | active session =>
    simp only [unnamed, actOn, settled, hact session]
    split <;> rfl

/-- An error is noted down the same under every name. -/
theorem errored_unnamed (message : String) (entry : TargetSessionEntry) :
    entry.unnamed.errored message = (entry.errored message).unnamed := by
  cases entry <;> rfl

/-- A failure that may be repeated puts off a target that waits, and leaves any other entry alone. -/
theorem afterFailure_of_retries {failure : TargetConnectFailure}
    (h : SenderManager.retries failure = true) (now : Instant) (nowUnixMs : ℕ)
    (entry : TargetSessionEntry) :
    entry.afterFailure now nowUnixMs failure = match entry with
      | .pending queued => .pending (queued.scheduleRetry now nowUnixMs failure.snapshot
          (retryBackoff failure.snapshot.attemptCount))
      | entry => entry :=
  if_pos h

/-- A failure that is final takes the place of the entry. -/
theorem afterFailure_of_not_retries {failure : TargetConnectFailure}
    (h : ¬ SenderManager.retries failure = true) (now : Instant) (nowUnixMs : ℕ)
    (entry : TargetSessionEntry) :
    entry.afterFailure now nowUnixMs failure = .failed failure.snapshot :=
  if_neg h

end TargetSessionEntry

/-- What can happen to a target. -/
inductive TargetEvent
  | queued (now : Instant) (target : SenderTarget)
  | removed
  /-- Attempts that are due are started. -/
  | started (now : Instant)
  | connected (session : ManagedTargetSession)
  | failed (now : Instant) (nowUnixMs : ℕ) (failure : TargetConnectFailure)
  | ticked (interval : Duration) (env : TickEnv) (writerJoined : Bool)
  | offered (env : QueueEnv) (frame : FanoutAudioFrame) (writerJoined : Bool)
  /-- The capture fails, and with it every open session. -/
  | errored (message : String)

/-- What comes of it. -/
def TargetEvent.apply (entry : Option TargetSessionEntry) : TargetEvent → Option TargetSessionEntry
  | .queued now target =>
    if entry.any fun entry ↦ entry.state.isBusy then entry
    else some (.pending (.new now target))
  | .removed => none
  | .started now => entry.map (TargetSessionEntry.started now)
  | .connected session => entry.map fun _ ↦ .active session
  | .failed now nowUnixMs failure =>
    entry.map (TargetSessionEntry.afterFailure now nowUnixMs failure)
  | .ticked interval env writerJoined =>
    entry.map (TargetSessionEntry.actOn (ManagedTargetSession.tick interval env) writerJoined)
  | .offered env frame writerJoined =>
    entry.map (TargetSessionEntry.actOn (ManagedTargetSession.offer env frame) writerJoined)
  | .errored message => entry.map (TargetSessionEntry.errored message)

namespace SenderManager

/-- The entry of a target, without the numbers of attempts. -/
def view (deviceId : DeviceId) (manager : SenderManager) : Option TargetSessionEntry :=
  (manager.entryOf deviceId).map TargetSessionEntry.unnamed

/-- A captured frame, as the targets get it. -/
def stamped (env : ManagerEnv) (frame : AudioFrame) (manager : SenderManager) : FanoutAudioFrame :=
  let capturedAtMs := Duration.asMillis frame.capturedAt
  { sequence := frame.sequence
    capturedAtMs
    capturedAtUnixMs :=
      Word.satAdd 64 (manager.captureStartedUnixMs.getD env.nowUnixMs) capturedAtMs
    payload := frame.payload }

/-- What a result means for a target. A capture that does not start concerns all of them. -/
def resultEvents (deviceId : DeviceId) (env : ManagerEnv) (manager : SenderManager) :
    TargetConnectResult → List TargetEvent
  | .ok session =>
    if manager.targets.contains session.target.receiverId then
      (if session.target.receiverId = deviceId then [.connected session.unnamed] else []) ++
        match (manager.ensureCaptureRunning env).1 with
        | .ok () => []
        | .error error => [.errored error.display]
    else []
  | .error failure =>
    if failure.snapshot.receiverId = deviceId then [.failed env.now env.nowUnixMs failure] else []

/-- What a call of `capture_and_fan_out` means for a target. -/
def captureEvents (deviceId : DeviceId) (env : ManagerEnv) (manager : SenderManager) :
    List TargetEvent :=
  match manager.capture with
  | none => []
  | some capture =>
    match env.tryRecvFrame capture with
    | .ok none => []
    | .ok (some frame) =>
      [.offered (env.queue deviceId) (manager.stamped env frame) (env.writerJoined deviceId)]
    | .error .captureEnded => [.errored "capture stream ended"]
    | .error error => [.errored error.display]

end SenderManager

/-- What a step means for a target. -/
def SenderSystem.targetEvents (deviceId : DeviceId) (system : SenderSystem) :
    SenderInput → List TargetEvent
  | .command env (.addTarget target) =>
    if target.receiverId = deviceId then [.queued env.now target] else []
  | .command _ (.removeTarget removed) => if removed = deviceId then [.removed] else []
  | .pendingTargets env => [.started env.now]
  | .connectResult env =>
    match system.manager.connectRx with
    | [] => []
    | (_, result) :: _ => system.manager.resultEvents deviceId env result
  | .tick env =>
    [.ticked system.manager.heartbeatInterval (env.tick deviceId) (env.writerJoined deviceId)]
  | .capture env => system.manager.captureEvents deviceId env
  | .shutdownAll _ => [.removed]
  | .command _ _ | .noCommand | .noConnectResult | .mirrorEvents _ | .idle _ | .refresh _
  | .connected _ _ => []

/-! ### One call, target by target -/

namespace SenderManager

variable {manager next : SenderManager} {deviceId : DeviceId} {env : ManagerEnv}

/-- The rule for walks: a call for each of these targets that changes what is seen of this target and
of no other. -/
theorem look_foldl {β : Type} (look : SenderManager → DeviceId → β) {I : SenderManager → Prop}
    {call : SenderManager → DeviceId → SenderManager} {change : DeviceId → β → β}
    (hinvariant : ∀ manager deviceId, I manager → I (call manager deviceId))
    (hown : ∀ manager deviceId, I manager →
      look (call manager deviceId) deviceId = change deviceId (look manager deviceId))
    (hothers : ∀ manager deviceId other, I manager → other ≠ deviceId →
      look (call manager deviceId) other = look manager other)
    {deviceIds : List DeviceId} (hnodup : deviceIds.Nodup) (hmanager : I manager)
    (deviceId : DeviceId) :
    look (deviceIds.foldl call manager) deviceId =
      if deviceId ∈ deviceIds then change deviceId (look manager deviceId)
      else look manager deviceId := by
  induction deviceIds generalizing manager with
  | nil => rfl
  | cons first deviceIds ih =>
    obtain ⟨hnotMem, hnodup⟩ := List.nodup_cons.1 hnodup
    rw [List.foldl_cons, ih hnodup (hinvariant manager first hmanager)]
    rcases eq_or_ne deviceId first with rfl | hne
    · rw [if_neg hnotMem, if_pos List.mem_cons_self, hown manager deviceId hmanager]
    · rw [hothers manager first deviceId hmanager hne]
      simp only [List.mem_cons, hne, false_or]

/-- A walk visits a target exactly if its session is open. -/
theorem mem_activeIds (hwalked : manager.WalkedBy env) :
    deviceId ∈ manager.targets.activeIds env.order ↔
      ∃ session, manager.entryOf deviceId = some (.active session) := by
  rw [TargetSessionCollection.activeIds, List.mem_filter, Option.isSome_iff_exists]
  constructor
  · rintro ⟨-, session, hsession⟩
    exact ⟨session, TargetSessionCollection.activeSession_eq_some.1 hsession⟩
  · rintro ⟨session, hsession⟩
    refine ⟨hwalked.mem_iff.2 ?_, session, TargetSessionCollection.activeSession_eq_some.2 hsession⟩
    exact AList.lookup_isSome.1 (Option.isSome_of_mem (Option.mem_def.2 hsession))

/-- A walk visits no target twice. -/
theorem nodup_activeIds (hwalked : manager.WalkedBy env) :
    (manager.targets.activeIds env.order).Nodup :=
  (hwalked.nodup_iff.2 manager.targets.entries.keys_nodup).filter _

/-- The open session, read off the entry. -/
theorem activeSession_eq_bind : manager.targets.activeSession deviceId =
    (manager.entryOf deviceId).bind TargetSessionEntry.session := by
  rw [TargetSessionCollection.activeSession, entryOf]
  rcases manager.targets.entries.lookup deviceId with - | queued | session | snapshot <;> rfl

/-- The waiting attempt, read off the entry. -/
theorem pendingSession_eq_bind : manager.targets.pendingSession deviceId =
    (manager.entryOf deviceId).bind TargetSessionEntry.queued := by
  rw [TargetSessionCollection.pendingSession, entryOf]
  rcases manager.targets.entries.lookup deviceId with - | queued | session | snapshot <;> rfl

/-- An update reaches the open session of its target, and no other entry. -/
theorem entryOf_updateActive (deviceId : DeviceId)
    (update : ManagedTargetSession → ManagedTargetSession) (manager : SenderManager) :
    (manager.updateActive deviceId update).entryOf deviceId =
      (manager.entryOf deviceId).map fun entry ↦ match entry with
        | .active session => .active (update session)
        | entry => entry := by
  rw [updateActive, activeSession_eq_bind]
  rcases hentry : manager.entryOf deviceId with - | queued | session | snapshot
  · exact hentry
  · exact hentry
  · exact TargetSessionCollection.lookup_insert
  · exact hentry

/-- An update of one target leaves the entry of another one alone. -/
theorem entryOf_updateActive_ne {other : DeviceId} (hne : other ≠ deviceId)
    (update : ManagedTargetSession → ManagedTargetSession) (manager : SenderManager) :
    (manager.updateActive deviceId update).entryOf other = manager.entryOf other := by
  rw [updateActive]
  split
  · rfl
  · exact TargetSessionCollection.lookup_insert_ne hne

/-- A walk that changes open sessions in their place changes all of them. -/
theorem entryOf_foldl_updateActive (hwalked : manager.WalkedBy env)
    (update : DeviceId → ManagedTargetSession → ManagedTargetSession) (deviceId : DeviceId) :
    ((manager.targets.activeIds env.order).foldl (fun manager deviceId ↦
      manager.updateActive deviceId (update deviceId)) manager).entryOf deviceId =
      (manager.entryOf deviceId).map fun entry ↦ match entry with
        | .active session => .active (update deviceId session)
        | entry => entry := by
  rw [look_foldl entryOf (I := fun _ ↦ True) (fun _ _ _ ↦ trivial)
    (fun manager deviceId _ ↦ entryOf_updateActive deviceId (update deviceId) manager)
    (fun manager deviceId other _ hne ↦ entryOf_updateActive_ne hne (update deviceId) manager)
    (nodup_activeIds hwalked) trivial deviceId]
  split
  · rfl
  next hidle =>
    rcases hentry : manager.entryOf deviceId with - | queued | session | snapshot
    · rfl
    · rfl
    · exact absurd ((mem_activeIds hwalked).2 ⟨session, hentry⟩) hidle
    · rfl

/-- A target with an open session fails; any other entry stays. -/
theorem entryOf_failTarget (h : manager.Keyed) (env : ManagerEnv) (deviceId : DeviceId) :
    (manager.failTarget env deviceId).entryOf deviceId =
      (manager.entryOf deviceId).map fun entry ↦ match entry with
        | .active session => .failed (session.shutdownImmediate (env.writerJoined deviceId))
        | entry => entry := by
  rw [failTarget, activeSession_eq_bind]
  rcases hentry : manager.entryOf deviceId with - | queued | session | snapshot
  · exact hentry
  · exact hentry
  · obtain ⟨-, rfl⟩ := h deviceId _ hentry
    exact TargetSessionCollection.lookup_insert
  · exact hentry

/-- The failure of one target leaves the entry of another one alone. -/
theorem entryOf_failTarget_ne (h : manager.Keyed) (env : ManagerEnv) {other : DeviceId}
    (hne : other ≠ deviceId) : (manager.failTarget env deviceId).entryOf other =
      manager.entryOf other := by
  rcases hactive : manager.targets.activeSession deviceId with - | session
  · rw [failTarget, hactive]
  · exact (retired_failTarget env h hactive).others other hne

/-- Entries stay under their keys when a target fails. -/
theorem keyed_failTarget (h : manager.Keyed) (env : ManagerEnv) (deviceId : DeviceId) :
    (manager.failTarget env deviceId).Keyed := by
  rcases hactive : manager.targets.activeSession deviceId with - | session
  · rw [failTarget, hactive]
    exact h
  · exact h.retired (retired_failTarget env h hactive)

/-- **Every open session is acted on once**, and fails if it does not come through. What becomes of the
others plays no part in it. -/
theorem entryOf_forEachActive (h : manager.Keyed) (hwalked : manager.WalkedBy env)
    {act : DeviceId → ManagedTargetSession → Bool × ManagedTargetSession}
    (hact : ∀ (deviceId : DeviceId) (session : ManagedTargetSession),
      session.SameSession (act deviceId session).2) (deviceId : DeviceId) :
    (manager.forEachActive env act).entryOf deviceId =
      (manager.entryOf deviceId).map
        (TargetSessionEntry.actOn (act deviceId) (env.writerJoined deviceId)) := by
  have hkeyed := h.refreshed (Refreshed.foldl (fun manager deviceId ↦
    refreshed_updateActive (hact deviceId) deviceId manager)
    (manager.targets.activeIds env.order) manager)
  have hacted := entryOf_foldl_updateActive hwalked (fun deviceId session ↦ (act deviceId session).2)
    deviceId
  have hfails : deviceId ∈ (manager.targets.activeIds env.order).filter (fun deviceId ↦
      !(manager.targets.activeSession deviceId).all fun session ↦ (act deviceId session).1) ↔
      ∃ session, manager.entryOf deviceId = some (.active session) ∧
        (act deviceId session).1 = false := by
    rw [List.mem_filter, mem_activeIds hwalked]
    constructor
    · rintro ⟨⟨session, hsession⟩, hfails⟩
      rw [TargetSessionCollection.activeSession_eq_some.2 hsession] at hfails
      exact ⟨session, hsession, by simpa using hfails⟩
    · rintro ⟨session, hsession, hfails⟩
      rw [TargetSessionCollection.activeSession_eq_some.2 hsession]
      exact ⟨⟨session, hsession⟩, by simpa using hfails⟩
  -- the sessions that fail are marked after every session has been asked
  rw [forEachActive]
  dsimp only
  rw [look_foldl entryOf (I := Keyed) (fun _ deviceId h ↦ keyed_failTarget h env deviceId)
    (fun _ deviceId h ↦ entryOf_failTarget h env deviceId)
    (fun _ _ _ h hne ↦ entryOf_failTarget_ne h env hne)
    ((nodup_activeIds hwalked).filter _) hkeyed deviceId, hacted]
  split
  next hmem =>
    obtain ⟨session, hsession, hpasses⟩ := hfails.1 hmem
    rw [hsession]
    show some _ = some (TargetSessionEntry.settled _ (act deviceId session))
    rw [TargetSessionEntry.settled, hpasses]
    rfl
  next hmem =>
    rcases hentry : manager.entryOf deviceId with - | queued | session | snapshot
    · rfl
    · rfl
    · have hpasses : (act deviceId session).1 = true := by
        by_contra hpasses
        exact hmem (hfails.2 ⟨session, hentry, Bool.eq_false_iff.2 hpasses⟩)
      show _ = some (TargetSessionEntry.settled _ (act deviceId session))
      rw [TargetSessionEntry.settled, hpasses]
      rfl
    · rfl

/-- The error of the capture is noted down in the session of every target, whatever the order. -/
theorem entryOf_failAllActiveTargets (hwalked : manager.WalkedBy env) (message : String)
    (deviceId : DeviceId) :
    (manager.failAllActiveTargets env message).entryOf deviceId =
      (manager.entryOf deviceId).map (TargetSessionEntry.errored message) := by
  rw [failAllActiveTargets, entryOf_foldl_updateActive hwalked
    (fun _ ↦ ManagedTargetSession.setError message .error)]
  refine congrArg (Option.map · _) (funext fun entry ↦ ?_)
  cases entry <;> rfl

/-! ### Views -/

/-- The view is a function of the entry. -/
theorem view_of_entryOf {other : DeviceId} (h : next.entryOf other = manager.entryOf other) :
    next.view other = manager.view other :=
  congrArg (Option.map TargetSessionEntry.unnamed) h

/-- What leaves the collection alone leaves every view alone. -/
theorem view_of_targets (h : next.targets = manager.targets) (deviceId : DeviceId) :
    next.view deviceId = manager.view deviceId :=
  view_of_entryOf (by rw [entryOf, entryOf, h])

/-- A change of the entry that is blind to names is a change of the view. -/
theorem view_of_map {change : TargetSessionEntry → TargetSessionEntry}
    (hchange : ∀ entry, change entry.unnamed = (change entry).unnamed)
    (h : next.entryOf deviceId = (manager.entryOf deviceId).map change) :
    next.view deviceId = (manager.view deviceId).map change := by
  rw [view, view, h]
  rcases manager.entryOf deviceId with - | entry
  · rfl
  · exact congrArg some (hchange entry).symm

/-- A target that is added is an event of that target alone. -/
theorem view_queueTargetConnect (now : Instant) (target : SenderTarget) (deviceId : DeviceId)
    (manager : SenderManager) :
    (manager.queueTargetConnect now target).view deviceId =
      if target.receiverId = deviceId then
        (TargetEvent.queued now target).apply (manager.view deviceId)
      else manager.view deviceId := by
  rcases queueTargetConnect_cases now target manager with
    ⟨entry, hentry, hbusy, hsame⟩ | ⟨hidle, hreplaced⟩
  · rw [hsame]
    split
    next heq =>
      subst heq
      simp [TargetEvent.apply, view, hentry, hbusy]
    · rfl
  · split
    next heq =>
      subst heq
      have hfree : ((manager.view target.receiverId).any fun entry ↦ entry.state.isBusy) = false := by
        rcases hentry : manager.entryOf target.receiverId with - | entry
        · simp [view, hentry]
        · simp [view, hentry, hidle entry hentry]
      rw [TargetEvent.apply, hfree, view, hreplaced.entry]
      rfl
    next hne => exact view_of_entryOf (hreplaced.others deviceId (Ne.symm hne))

/-- Seen without names, a launch marks the waiting target and nothing else. -/
theorem view_launch (deviceId : DeviceId) (manager : SenderManager) :
    (manager.launch deviceId).view deviceId =
      (manager.view deviceId).map fun entry ↦ match entry with
        | .pending queued => .pending { queued.markInFlight 0 with launched := none }
        | entry => entry := by
  rw [launch, pendingSession_eq_bind, view]
  rcases hentry : manager.entryOf deviceId with - | queued | session | snapshot
  · simp [view, hentry]
  · have hafter : (manager.launch deviceId).entryOf deviceId =
        some (.pending (queued.markInFlight manager.nextAttempt)) := by
      rw [launch, pendingSession_eq_bind, hentry]
      exact TargetSessionCollection.lookup_insert
    rw [launch, pendingSession_eq_bind, hentry] at hafter
    rw [view, hentry]
    exact congrArg (Option.map TargetSessionEntry.unnamed) hafter
  · simp [view, hentry, TargetSessionEntry.unnamed, TargetSessionEntry.queued]
  · simp [view, hentry, TargetSessionEntry.unnamed, TargetSessionEntry.queued]

/-- A launch touches the entry of its own target only. -/
theorem entryOf_launch_ne {other : DeviceId} (hne : other ≠ deviceId) (manager : SenderManager) :
    (manager.launch deviceId).entryOf other = manager.entryOf other := by
  rw [launch]
  split
  · rfl
  · exact TargetSessionCollection.lookup_insert_ne hne

/-- The pending targets are started each by itself: what becomes of one depends on its own entry and the
time. -/
theorem view_processPendingTargets (hwalked : manager.WalkedBy env) (deviceId : DeviceId) :
    (manager.processPendingTargets env).view deviceId =
      (manager.view deviceId).map (TargetSessionEntry.started env.now) := by
  have hnodup : (manager.targets.duePendingTargets env.order env.now).Nodup :=
    (hwalked.nodup_iff.2 manager.targets.entries.keys_nodup).filter _
  rw [processPendingTargets, look_foldl (fun manager deviceId ↦ manager.view deviceId)
    (I := fun _ ↦ True) (fun _ _ _ ↦ trivial) (fun manager deviceId _ ↦ view_launch deviceId manager)
    (fun manager _ _ _ hne ↦ view_of_entryOf (entryOf_launch_ne hne manager)) hnodup trivial]
  have hdue : deviceId ∈ manager.targets.duePendingTargets env.order env.now ↔
      (manager.view deviceId).any (TargetSessionEntry.isDue env.now) = true := by
    rw [TargetSessionCollection.duePendingTargets, List.mem_filter]
    change _ ∧ (manager.entryOf deviceId).any _ = true ↔ _
    rcases hentry : manager.entryOf deviceId with - | entry
    · simp [view, hentry]
    · have hmem : deviceId ∈ env.order := hwalked.mem_iff.2
        (AList.lookup_isSome.1 (Option.isSome_of_mem (Option.mem_def.2 hentry)))
      simp [view, hentry, hmem]
  split
  next hmem =>
    rcases hview : manager.view deviceId with - | queued | session | snapshot
    · rfl
    · rw [hdue, hview] at hmem
      have hmem : (TargetSessionEntry.pending queued).isDue env.now = true := hmem
      simp only [Option.map_some, TargetSessionEntry.started, hmem, if_true]
    · rfl
    · rfl
  next hmem =>
    rcases hview : manager.view deviceId with - | queued | session | snapshot
    · rfl
    · rw [hdue, hview] at hmem
      have hmem : (TargetSessionEntry.pending queued).isDue env.now = false :=
        Bool.eq_false_iff.2 hmem
      simp only [Option.map_some, TargetSessionEntry.started, hmem, Bool.false_eq_true, if_false]
    · rfl
    · rfl

/-! ### Results and frames -/

/-- The capture is started outside the collection. -/
theorem targets_ensureCaptureRunning (env : ManagerEnv) (manager : SenderManager) :
    (manager.ensureCaptureRunning env).2.targets = manager.targets := by
  unfold ensureCaptureRunning
  split
  · rfl
  split
  · rfl
  dsimp only
  split <;> rfl

/-- Whether the capture starts does not depend on the collection, nor on the channel. -/
theorem ensureCaptureRunning_congr
    (hcapture : next.capture = manager.capture)
    (hsettings : next.captureSettings = manager.captureSettings)
    (hmirror : next.sharedSnapshot.localMirror = manager.sharedSnapshot.localMirror) :
    (next.ensureCaptureRunning env).1 = (manager.ensureCaptureRunning env).1 := by
  unfold ensureCaptureRunning LocalMirrorBranch.send
  rw [hcapture]
  by_cases hrunning : manager.capture.isSome = true
  · rw [if_pos hrunning, if_pos hrunning]
  · rw [if_neg hrunning, if_neg hrunning, hsettings]
    rcases env.startCapture manager.captureSettings with error | capture
    · rfl
    · dsimp only
      rw [hmirror]
      split
      · cases env.mirrorListens <;> rfl
      · rfl

/-- A walk of one collection walks an equal one. -/
theorem walkedBy_of_targets (h : next.targets = manager.targets) (hwalked : manager.WalkedBy env) :
    next.WalkedBy env := by
  rw [WalkedBy, h]
  exact hwalked

/-- To put another entry in place of one leaves the keys as they are. -/
theorem walkedBy_insertEntry (hwalked : manager.WalkedBy env)
    (hcontains : manager.targets.contains deviceId = true) (entry : TargetSessionEntry) :
    (manager.insertEntry deviceId entry).WalkedBy env := by
  have hmem : deviceId ∈ manager.targets.entries.keys := AList.lookup_isSome.1 hcontains
  refine hwalked.trans ?_
  show manager.targets.entries.keys.Perm (manager.targets.entries.insert deviceId entry).keys
  rw [AList.keys_insert]
  exact List.perm_cons_erase hmem

/-- The view of an entry that is put in, and of the others. -/
theorem view_insertEntry (entry : TargetSessionEntry) (other : DeviceId) :
    (manager.insertEntry other entry).view deviceId =
      if other = deviceId then some entry.unnamed else manager.view deviceId := by
  split
  next heq =>
    subst heq
    exact congrArg (Option.map TargetSessionEntry.unnamed) (entryOf_insert entry)
  next hne => exact view_of_entryOf (TargetSessionCollection.lookup_insert_ne (Ne.symm hne))

/-- A target that is contained can be viewed. -/
theorem view_isSome (hcontains : manager.targets.contains deviceId = true) :
    ∃ entry, manager.view deviceId = some entry := by
  obtain ⟨entry, hentry⟩ := Option.isSome_iff_exists.1 hcontains
  exact ⟨entry.unnamed, congrArg (Option.map TargetSessionEntry.unnamed) hentry⟩

/-- A target that is not contained cannot. -/
theorem view_of_not_contains (hcontains : ¬ manager.targets.contains deviceId = true) :
    manager.view deviceId = none := by
  have hnone : manager.entryOf deviceId = none := by
    simpa [TargetSessionCollection.contains, entryOf] using hcontains
  rw [view, hnone]
  rfl

/-- A session that comes in is what its target sees of it; the other targets see at most the error of a
capture that does not start. -/
theorem view_handleConnected (hwalked : manager.WalkedBy env) (session : ManagedTargetSession)
    (deviceId : DeviceId) :
    (manager.handleConnected env session).view deviceId =
      (manager.resultEvents deviceId env (.ok session)).foldl TargetEvent.apply
        (manager.view deviceId) := by
  by_cases hcontains : manager.targets.contains session.target.receiverId = true
  · simp only [handleConnected, resultEvents, hcontains, if_true]
    have hinserted : (manager.insertEntry session.target.receiverId (.active session)).view deviceId =
        (if session.target.receiverId = deviceId then [.connected session.unnamed] else []).foldl
          TargetEvent.apply (manager.view deviceId) := by
      rw [view_insertEntry]
      split
      next heq =>
        obtain ⟨entry, hentry⟩ := view_isSome (heq ▸ hcontains)
        rw [List.foldl_cons, hentry]
        rfl
      · rfl
    have hresult := @ensureCaptureRunning_congr manager
      (manager.insertEntry session.target.receiverId (.active session)) env rfl rfl rfl
    have htargets := targets_ensureCaptureRunning env
      (manager.insertEntry session.target.receiverId (.active session))
    rw [List.foldl_append, ← hinserted, ← hresult]
    rcases hrun : (manager.insertEntry session.target.receiverId (.active session)).ensureCaptureRunning
      env with ⟨error | ⟨⟩, after⟩
    · rw [hrun] at htargets
      have hwalked' : (after.setLastError (some error.display)).WalkedBy env :=
        walkedBy_of_targets htargets (walkedBy_insertEntry hwalked hcontains _)
      refine (view_of_map (TargetSessionEntry.errored_unnamed error.display)
        (entryOf_failAllActiveTargets hwalked' error.display deviceId)).trans ?_
      exact congrArg (Option.map _) (view_of_targets htargets deviceId)
    · rw [hrun] at htargets
      exact view_of_targets htargets deviceId
  · simp only [handleConnected, resultEvents, hcontains, Bool.false_eq_true, if_false]
    rfl

/-- A failed attempt is an event of its own target. -/
theorem view_handleFailed (failure : TargetConnectFailure) (deviceId : DeviceId) :
    (manager.handleFailed env failure).view deviceId =
      (manager.resultEvents deviceId env (.error failure)).foldl TargetEvent.apply
        (manager.view deviceId) := by
  unfold handleFailed resultEvents
  dsimp only
  -- the failure names its own target, so another target sees nothing
  by_cases heq : failure.snapshot.receiverId = deviceId
  · subst heq
    rw [if_pos rfl, List.foldl_cons, List.foldl_nil, TargetEvent.apply]
    split
    next hcontains =>
      have hpending : (manager.setLastError failure.snapshot.lastError).targets.pendingSession
          failure.snapshot.receiverId =
            (manager.entryOf failure.snapshot.receiverId).bind TargetSessionEntry.queued :=
        pendingSession_eq_bind
      split
      next hretries =>
        rw [hpending, view, view, funext (TargetSessionEntry.afterFailure_of_retries hretries
          env.now env.nowUnixMs)]
        rcases hentry : manager.entryOf failure.snapshot.receiverId with
          - | queued | session | snapshot
        · exact congrArg (Option.map TargetSessionEntry.unnamed) hentry
        · exact congrArg (Option.map TargetSessionEntry.unnamed) TargetSessionCollection.lookup_insert
        · exact congrArg (Option.map TargetSessionEntry.unnamed) hentry
        · exact congrArg (Option.map TargetSessionEntry.unnamed) hentry
      next hretries =>
        obtain ⟨entry, hentry⟩ := view_isSome hcontains
        rw [view_insertEntry, if_pos rfl, hentry, Option.map_some,
          TargetSessionEntry.afterFailure_of_not_retries hretries]
        rfl
    next hcontains => rw [view_of_not_contains hcontains]; rfl
  · rw [if_neg heq, List.foldl_nil]
    split
    · split
      · split
        · rfl
        · exact view_of_entryOf (TargetSessionCollection.lookup_insert_ne (Ne.symm heq))
      · exact view_of_entryOf (TargetSessionCollection.lookup_insert_ne (Ne.symm heq))
    · rfl

/-- Both kinds of results, target by target. -/
theorem view_processConnectResult (hwalked : manager.WalkedBy env) (result : TargetConnectResult)
    (deviceId : DeviceId) :
    (manager.processConnectResult env result).view deviceId =
      (manager.resultEvents deviceId env result).foldl TargetEvent.apply (manager.view deviceId) := by
  cases result with
  | ok session => exact view_handleConnected hwalked session deviceId
  | error failure => exact view_handleFailed failure deviceId

/-- The events of a result do not depend on what else is in the channel. -/
theorem resultEvents_received (env : ManagerEnv)
    (connectRx : List (ConnectAttempt × TargetConnectResult)) (result : TargetConnectResult)
    (deviceId : DeviceId) (manager : SenderManager) :
    (manager.received connectRx).resultEvents deviceId env result =
      manager.resultEvents deviceId env result := by
  cases result with
  | ok session =>
    simp only [resultEvents, @ensureCaptureRunning_congr manager (manager.received connectRx) env rfl
      rfl rfl]
    rfl
  | error failure => rfl

/-- A tick, target by target. Each session is ticked by its own environment, and fails by its own
tick. -/
theorem view_tickTargets (h : manager.Keyed) (hwalked : manager.WalkedBy env)
    (deviceId : DeviceId) :
    (manager.tickTargets env).view deviceId =
      (TargetEvent.ticked manager.heartbeatInterval (env.tick deviceId)
        (env.writerJoined deviceId)).apply (manager.view deviceId) :=
  view_of_map (TargetSessionEntry.actOn_unnamed
      (ManagedTargetSession.tick_unnamed manager.heartbeatInterval (env.tick deviceId))
      (env.writerJoined deviceId))
    (entryOf_forEachActive h hwalked
      (fun _ session ↦ ManagedTargetSession.sameSession_tick _ _ session) deviceId)

/-- The mirror's frame is taken outside the collection. -/
theorem targets_pushToMirror (env : ManagerEnv) (frame : FanoutAudioFrame) (manager : SenderManager) :
    (manager.pushToMirror env frame).targets = manager.targets := by
  unfold pushToMirror
  dsimp only
  split <;> rfl

/-- Fan-out, target by target: an open session is offered the frame, or noted the error of the capture. -/
theorem view_captureAndFanOut (h : manager.Keyed) (hwalked : manager.WalkedBy env)
    (deviceId : DeviceId) :
    (manager.captureAndFanOut env).view deviceId =
      (manager.captureEvents deviceId env).foldl TargetEvent.apply (manager.view deviceId) := by
  have herrored (message : String) (lastError : Option String) :
      ((manager.setLastError lastError).failAllActiveTargets env message).view deviceId =
        (manager.view deviceId).map (TargetSessionEntry.errored message) :=
    @view_of_map (manager.setLastError lastError) _ _ _
      (TargetSessionEntry.errored_unnamed message)
      (@entryOf_failAllActiveTargets (manager.setLastError lastError) _
        (walkedBy_of_targets rfl hwalked) message deviceId)
  rcases hcapture : manager.capture with - | capture
  · simp only [captureAndFanOut, captureEvents, hcapture, List.foldl_nil]
  rcases hframe : env.tryRecvFrame capture with error | - | frame
  · cases error with
    | captureEnded =>
      simp only [captureAndFanOut, captureEvents, hcapture, hframe]
      exact herrored _ _
    | _ =>
      simp only [captureAndFanOut, captureEvents, hcapture, hframe]
      exact herrored _ _
  · simp only [captureAndFanOut, captureEvents, hcapture, hframe, List.foldl_nil]
  · have htargets := targets_pushToMirror env (manager.stamped env frame) manager
    have hkeyed := h.refreshed (refreshed_pushToMirror env (manager.stamped env frame) manager)
    simp only [captureAndFanOut, captureEvents, hcapture, hframe]
    refine (view_of_map (TargetSessionEntry.actOn_unnamed
      (ManagedTargetSession.offer_unnamed (env.queue deviceId) (manager.stamped env frame))
      (env.writerJoined deviceId)) (entryOf_forEachActive hkeyed (walkedBy_of_targets htargets hwalked)
        (fun deviceId session ↦ sameSession_fanOut env (manager.stamped env frame) deviceId session)
        deviceId)).trans ?_
    rw [view_of_targets htargets]
    rfl

/-- Nothing is left of a target that is removed. -/
theorem entryOf_removeTarget (deviceId : DeviceId) (manager : SenderManager) :
    (manager.removeTarget deviceId).entryOf deviceId = none := by
  unfold removeTarget
  dsimp only
  split <;> exact TargetSessionCollection.lookup_remove

/-- The commands that do not name a target leave all of them alone. -/
theorem targets_processCommand (env : ManagerEnv) {command : SenderCommand}
    (hadd : ∀ target, command ≠ .addTarget target) (hremove : ∀ deviceId, command ≠ .removeTarget deviceId)
    (manager : SenderManager) : (manager.processCommand env command).targets = manager.targets := by
  have hcontrol (control : LocalMirrorControl) (manager : SenderManager) :
      (manager.controlMirror env control).targets = manager.targets := by
    unfold controlMirror
    split <;> rfl
  cases command with
  | addTarget target => exact absurd rfl (hadd target)
  | removeTarget deviceId => exact absurd rfl (hremove deviceId)
  | setLocalMirrorEnabled enabled =>
    simp only [processCommand, setLocalMirrorEnabled]
    split
    · rfl
    · split <;> exact hcontrol _ _
  | setLocalMirrorTarget targetId =>
    simp only [processCommand, setLocalMirrorTarget]
    split
    · exact hcontrol _ _
    · rfl
  | setLocalDeviceId deviceId => rfl
  | setQualityPreset quality => rfl
  | shutdown => rfl

/-- The capture stops outside the collection. -/
theorem targets_stopCaptureIfIdle (env : ManagerEnv) (manager : SenderManager) :
    (manager.stopCaptureIfIdle env).targets = manager.targets := by
  obtain ⟨_, heq⟩ := stopCaptureIfIdle_eq env manager
  rw [heq]
  split <;> rfl

end SenderManager

/-! ### Steps and runs -/

/-- **A step does to a target what its events say.** -/
theorem step_view {secsF64 : SecsF64} {format : WireFormat} {system next : SenderSystem}
    {input : SenderInput} (hkeyed : system.manager.Keyed)
    (h : system.step secsF64 format input = some next) (deviceId : DeviceId) :
    next.manager.view deviceId =
      (system.targetEvents deviceId input).foldl TargetEvent.apply (system.manager.view deviceId) := by
  cases input with
  | command env command =>
    simp only [SenderSystem.step] at h
    split at h
    next hphase =>
      obtain rfl := Option.some.inj h
      have htargets := @SenderManager.targets_processCommand env command
      cases command with
      | addTarget target =>
        refine (SenderManager.view_queueTargetConnect env.now target deviceId system.manager).trans ?_
        simp only [SenderSystem.targetEvents]
        split <;> rfl
      | removeTarget removed =>
        simp only [SenderSystem.targetEvents]
        split
        next heq =>
          subst heq
          exact congrArg (Option.map TargetSessionEntry.unnamed)
            (SenderManager.entryOf_removeTarget removed system.manager)
        next hne =>
          exact SenderManager.view_of_entryOf
            ((SenderManager.retired_removeTarget removed system.manager).others deviceId (Ne.symm hne))
      | _ => exact SenderManager.view_of_targets (htargets (by simp) (by simp) system.manager) deviceId
    · cases h
  | noCommand =>
    simp only [SenderSystem.step] at h
    split at h
    · obtain rfl := Option.some.inj h
      rfl
    · cases h
  | pendingTargets env =>
    obtain ⟨-, hwalked, rfl⟩ := call_eq_some h
    exact SenderManager.view_processPendingTargets hwalked deviceId
  | connectResult env =>
    rcases hhead : system.manager.connectRx with - | ⟨⟨attempt, result⟩, connectRx⟩
    · simp only [SenderSystem.step, hhead] at h
      cases h
    · simp only [SenderSystem.step, hhead] at h
      obtain ⟨-, hwalked, rfl⟩ := call_eq_some h
      simp only [SenderSystem.targetEvents, hhead]
      -- the call first takes the result off its channel, and no entry depends on the channel
      rw [← SenderManager.resultEvents_received env connectRx]
      exact @SenderManager.view_processConnectResult (system.manager.received connectRx) env hwalked
        result deviceId
  | noConnectResult =>
    simp only [SenderSystem.step] at h
    split at h
    · obtain rfl := Option.some.inj h
      rfl
    · cases h
  | mirrorEvents env =>
    obtain ⟨-, -, rfl⟩ := call_eq_some h
    rfl
  | tick env =>
    obtain ⟨-, hwalked, rfl⟩ := call_eq_some h
    exact SenderManager.view_tickTargets hkeyed hwalked deviceId
  | capture env =>
    obtain ⟨-, hwalked, rfl⟩ := call_eq_some h
    exact SenderManager.view_captureAndFanOut hkeyed hwalked deviceId
  | idle env =>
    obtain ⟨-, -, rfl⟩ := call_eq_some h
    exact SenderManager.view_of_targets (SenderManager.targets_stopCaptureIfIdle env _) deviceId
  | refresh env =>
    obtain ⟨-, -, rfl⟩ := call_eq_some h
    rfl
  | shutdownAll env =>
    obtain ⟨-, -, rfl⟩ := call_eq_some h
    rfl
  | connected attempt env =>
    simp only [SenderSystem.step] at h
    split at h
    · obtain rfl := Option.some.inj h
      split <;> rfl
    · cases h

/-- What a run means for a target. -/
def SenderSystem.history (secsF64 : SecsF64) (format : WireFormat) (deviceId : DeviceId) :
    SenderSystem → List SenderInput → List TargetEvent
  | _, [] => []
  | system, input :: inputs =>
    system.targetEvents deviceId input ++
      ((system.step secsF64 format input).map fun next ↦
        next.history secsF64 format deviceId inputs).getD []

/-- **A run does to a target what its history says.** -/
theorem run_view {secsF64 : SecsF64} {format : WireFormat} {system final : SenderSystem}
    {inputs : List SenderInput} (h : system.manager.WellKept)
    (hrun : Transition.run (SenderSystem.step secsF64 format) system inputs = some final)
    (deviceId : DeviceId) :
    final.manager.view deviceId =
      (system.history secsF64 format deviceId inputs).foldl TargetEvent.apply
        (system.manager.view deviceId) := by
  induction inputs generalizing system with
  | nil =>
    obtain rfl := Option.some.inj hrun
    rfl
  | cons input inputs ih =>
    obtain ⟨next, hstep, hrun⟩ := Transition.run_cons.1 hrun
    rw [ih (step_wellKept h hstep) hrun, step_view h.keyed hstep deviceId, ← List.foldl_append]
    simp only [SenderSystem.history, hstep, Option.map_some, Option.getD_some]

end SynchroSonic
