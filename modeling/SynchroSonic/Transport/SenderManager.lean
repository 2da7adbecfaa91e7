import SynchroSonic.Core.Audio
import SynchroSonic.Transport.TargetCollection

/-!
# The sender manager

`SenderManager` and what it does in one iteration of `run`. Its connect threads run beside it and put
their results into `connect_rx`; `SenderManager` holds the threads and the channel, so that the next
module can let them move at any time.

Three fields only record what became of the sessions the connect threads returned: a session is
`opened`, it may be `shutDown` — consumed by `shutdown_with_stop` or `shutdown_immediate` — and it may be
`dropped`, which leaves its reader thread and the socket behind.
-/

namespace SynchroSonic

/-- A running capture. -/
structure CaptureHandle where
  handle : ℕ
  deriving DecidableEq, Repr

/-- A connect thread: which attempt it is, and what it was given. -/
structure ConnectAttempt where
  attempt : ℕ
  target : SenderTarget
  attemptCount : ℕ
  request : TargetConnectRequest
  deriving DecidableEq, Repr

/-- `TargetConnectResult`. -/
abbrev TargetConnectResult := Except TargetConnectFailure ManagedTargetSession

/-- `SenderCommand`. -/
inductive SenderCommand
  | addTarget (target : SenderTarget)
  | removeTarget (deviceId : DeviceId)
  | setLocalMirrorEnabled (enabled : Bool)
  | setLocalMirrorTarget (targetId : Option String)
  | setLocalDeviceId (deviceId : DeviceId)
  | setQualityPreset (quality : QualityPreset)
  | shutdown
  deriving DecidableEq, Repr

/-- What the manager finds around it in one step. -/
structure ManagerEnv where
  now : Instant := 0
  nowUnixMs : ℕ := 0
  /-- The order in which the collection is walked through. -/
  order : List DeviceId := []
  startCapture : CaptureSettings → Except AudioError CaptureHandle := fun _ ↦ .ok ⟨0⟩
  tryRecvFrame : CaptureHandle → Except AudioError (Option AudioFrame) := fun _ ↦ .ok none
  /-- The mirror's thread takes controls. -/
  mirrorListens : Bool := true
  mirrorEvents : List LocalMirrorEvent := []
  mirrorQueue : QueueEnv := {}
  /-- How many frames the mirror's thread has taken since the last step. -/
  mirrorConsumed : ℕ := 0
  tick : DeviceId → TickEnv := fun _ ↦ { now := fun _ ↦ 0 }
  queue : DeviceId → QueueEnv := fun _ ↦ {}
  writerJoined : DeviceId → Bool := fun _ ↦ true

/-- What a manager is built from. -/
structure SenderSetup where
  config : TransportConfig := {}
  captureSettings : CaptureSettings := {}
  senderName : String
  managerSessionId : String
  localPlaybackTargetId : Option String := none
  localDeviceId : Option DeviceId := none
  backendName : String
  /-- The snapshot that was published before the thread started. -/
  snapshot : StreamSessionSnapshot := {}
  deriving DecidableEq, Repr

/-- `SenderManager`, its connect threads and the channel they report to. -/
structure SenderManager where
  config : TransportConfig
  captureSettings : CaptureSettings
  localMirrorRequest : PlaybackStartRequest
  localMirrorBranch : LocalMirrorBranch
  capture : Option CaptureHandle := none
  captureStartedUnixMs : Option ℕ := none
  /-- The snapshot the rest of the program sees. -/
  snapshot : StreamSessionSnapshot
  sharedSnapshot : StreamSessionSnapshot
  connectRequest : TargetConnectRequest
  targets : TargetSessionCollection := {}
  /-- The connect threads that have not reported yet. -/
  threads : List ConnectAttempt := []
  /-- The results on their way, oldest first. -/
  connectRx : List (ConnectAttempt × TargetConnectResult) := []
  nextAttempt : ℕ := 0
  opened : List TcpStream := []
  shutDown : List TcpStream := []
  dropped : List TcpStream := []

namespace SenderManager

/-- `SenderManager::new`. -/
def new (secsF64 : SecsF64) (setup : SenderSetup) : SenderManager :=
  let streamConfig := receiverStreamConfig setup.captureSettings
  let localMonitoring := setup.captureSettings.outputs.localMonitoring
  { config := setup.config
    captureSettings := setup.captureSettings
    localMirrorRequest :=
      ⟨streamConfig, setup.localPlaybackTargetId, setup.captureSettings.targetLatencyMs⟩
    localMirrorBranch :=
      { queue := .new (branchQueueCapacity (streamConfig.packetDuration secsF64)
          setup.captureSettings.targetLatencyMs) }
    snapshot := setup.snapshot
    sharedSnapshot :=
      { sessionId := some setup.managerSessionId
        stream := some streamConfig
        localMirror :=
          { desiredEnabled := localMonitoring
            playbackTargetId := setup.localPlaybackTargetId
            state := if localMonitoring then .idle else .disabled
            playbackBackend := some setup.backendName } }
    connectRequest :=
      { managerSessionId := setup.managerSessionId
        senderName := setup.senderName
        streamConfig
        connectTimeout := Duration.fromMillis (max setup.config.connectTimeoutMs.toNat 250)
        quality := setup.config.quality
        targetLatencyMs := setup.config.targetLatencyMs
        heartbeatIntervalMs := setup.config.heartbeatIntervalMs
        localDeviceId := setup.localDeviceId } }

/-! ### Small changes -/

def withTargets (targets : TargetSessionCollection) (manager : SenderManager) : SenderManager :=
  { manager with targets }

def setLastError (lastError : Option String) (manager : SenderManager) : SenderManager :=
  { manager with sharedSnapshot := { manager.sharedSnapshot with lastError } }

def setLocalMirror (localMirror : LocalMirrorSnapshot) (manager : SenderManager) : SenderManager :=
  { manager with sharedSnapshot := { manager.sharedSnapshot with localMirror } }

/-- Insert an entry; the one it replaces is dropped. -/
def insertEntry (deviceId : DeviceId) (entry : TargetSessionEntry) (manager : SenderManager) :
    SenderManager :=
  { manager with
    targets := manager.targets.insert deviceId entry
    dropped := manager.dropped ++
      ((manager.targets.entries.lookup deviceId).map TargetSessionEntry.streams).getD [] }

/-- A session is consumed by one of the functions that shut it down. -/
def shutDownSession (session : ManagedTargetSession) (manager : SenderManager) : SenderManager :=
  { manager with shutDown := manager.shutDown ++ [session.stream] }

/-- Ask the mirror's thread for something; if it does not listen, the snapshot says so. -/
def controlMirror (env : ManagerEnv) (control : LocalMirrorControl) (manager : SenderManager) :
    SenderManager :=
  match manager.localMirrorBranch.send env.mirrorListens control with
  | (.ok (), localMirrorBranch) => { manager with localMirrorBranch }
  | (.error error, localMirrorBranch) =>
    setLocalMirror { manager.sharedSnapshot.localMirror with
      state := .error
      lastError := some error.display } { manager with localMirrorBranch }

/-! ### Commands -/

def queueTargetConnect (now : Instant) (target : SenderTarget) (manager : SenderManager) :
    SenderManager :=
  match manager.targets.stateFor target.receiverId with
  | some .connecting | some .negotiating | some .streaming => manager
  | _ => manager.insertEntry target.receiverId (.pending (.new now target))

/-- `RemoveTarget`: an open session is shut down, anything else is forgotten. -/
def removeTarget (deviceId : DeviceId) (manager : SenderManager) : SenderManager :=
  let removed := manager.withTargets (manager.targets.remove deviceId)
  match manager.targets.activeSession deviceId with
  | some session => removed.shutDownSession session
  | none => removed

def setLocalMirrorEnabled (env : ManagerEnv) (enabled : Bool) (manager : SenderManager) :
    SenderManager :=
  let localMirror := { manager.sharedSnapshot.localMirror with
    desiredEnabled := enabled
    lastError := none }
  if manager.capture.isNone then manager.setLocalMirror localMirror
  else if enabled then
    (manager.setLocalMirror { localMirror with state := .starting }).controlMirror env
      (.start manager.localMirrorRequest)
  else (manager.setLocalMirror { localMirror with state := .stopping }).controlMirror env .stop

def setLocalMirrorTarget (env : ManagerEnv) (targetId : Option String) (manager : SenderManager) :
    SenderManager :=
  let localMirror := { manager.sharedSnapshot.localMirror with
    playbackTargetId := targetId
    lastError := none }
  let manager := { manager with
    localMirrorRequest := { manager.localMirrorRequest with targetId } }
  if manager.capture.isSome ∧ localMirror.desiredEnabled then
    (manager.setLocalMirror { localMirror with state := .starting }).controlMirror env
      (.start manager.localMirrorRequest)
  else manager.setLocalMirror localMirror

/-- One command. `Shutdown` also leaves the loop. -/
def processCommand (env : ManagerEnv) (manager : SenderManager) : SenderCommand → SenderManager
  | .addTarget target => manager.queueTargetConnect env.now target
  | .removeTarget deviceId => manager.removeTarget deviceId
  | .setLocalMirrorEnabled enabled => manager.setLocalMirrorEnabled env enabled
  | .setLocalMirrorTarget targetId => manager.setLocalMirrorTarget env targetId
  | .setLocalDeviceId deviceId => { manager with
      connectRequest := { manager.connectRequest with localDeviceId := some deviceId } }
  | .setQualityPreset quality => { manager with
      config := { manager.config with quality }
      connectRequest := { manager.connectRequest with quality } }
  | .shutdown => { manager with
      sharedSnapshot := { manager.sharedSnapshot with state := .stopping } }

/-! ### Connecting -/

/-- Start an attempt for a pending entry. -/
def launch (deviceId : DeviceId) (manager : SenderManager) : SenderManager :=
  match manager.targets.pendingSession deviceId with
  | none => manager
  | some pending =>
    let pending := pending.markInFlight manager.nextAttempt
    { manager with
      targets := manager.targets.insert deviceId (.pending pending)
      threads := manager.threads ++ [⟨manager.nextAttempt, pending.target,
        pending.snapshot.attemptCount, manager.connectRequest⟩]
      nextAttempt := manager.nextAttempt + 1 }

/-- `process_pending_targets`. -/
def processPendingTargets (env : ManagerEnv) (manager : SenderManager) : SenderManager :=
  (manager.targets.duePendingTargets env.order env.now).foldl (fun manager deviceId ↦
    manager.launch deviceId) manager

def ensureCaptureRunning (env : ManagerEnv) (manager : SenderManager) :
    Except TransportError Unit × SenderManager :=
  if manager.capture.isSome then (.ok (), manager)
  else
    match env.startCapture manager.captureSettings with
    | .error error => (.error (.audio error), manager)
    | .ok capture =>
      let manager := { manager with
        capture := some capture
        captureStartedUnixMs := some env.nowUnixMs }
      let localMirror := manager.sharedSnapshot.localMirror
      -- a mirror that does not listen fails the call, and the capture stays
      if localMirror.desiredEnabled then
        match manager.localMirrorBranch.send env.mirrorListens
            (.start manager.localMirrorRequest) with
        | (result, localMirrorBranch) => (result,
            setLocalMirror { localMirror with state := .starting }
              { manager with localMirrorBranch })
      else (.ok (), manager)

/-- Change an open session in its place. -/
def updateActive (deviceId : DeviceId) (update : ManagedTargetSession → ManagedTargetSession)
    (manager : SenderManager) : SenderManager :=
  match manager.targets.activeSession deviceId with
  | none => manager
  | some session =>
    manager.withTargets (manager.targets.insert deviceId (.active (update session)))

/-- `fail_all_active_targets`. -/
def failAllActiveTargets (env : ManagerEnv) (message : String) (manager : SenderManager) :
    SenderManager :=
  (manager.targets.activeIds env.order).foldl (fun manager deviceId ↦
    manager.updateActive deviceId (ManagedTargetSession.setError message .error)) manager

/-- A connect thread reports an open session. -/
def handleConnected (env : ManagerEnv) (session : ManagedTargetSession) (manager : SenderManager) :
    SenderManager :=
  if manager.targets.contains session.target.receiverId then
    match (manager.insertEntry session.target.receiverId (.active session)).ensureCaptureRunning
        env with
    | (.ok (), manager) => manager
    | (.error error, manager) =>
      (manager.setLastError (some error.display)).failAllActiveTargets env error.display
  else manager.shutDownSession session

/-- A failure is tried again. -/
def retries (failure : TargetConnectFailure) : Bool :=
  failure.retryable && decide (failure.snapshot.attemptCount < MAX_CONNECT_ATTEMPTS)

/-- A connect thread reports a failure. -/
def handleFailed (env : ManagerEnv) (failure : TargetConnectFailure) (manager : SenderManager) :
    SenderManager :=
  let receiverId := failure.snapshot.receiverId
  if manager.targets.contains receiverId then
    let manager := manager.setLastError failure.snapshot.lastError
    if retries failure then
      match manager.targets.pendingSession receiverId with
      -- the entry has settled meanwhile
      | none => manager
      | some pending => manager.withTargets (manager.targets.insert receiverId
          (.pending (pending.scheduleRetry env.now env.nowUnixMs failure.snapshot
            (retryBackoff failure.snapshot.attemptCount))))
    else manager.insertEntry receiverId (.failed failure.snapshot)
  else manager

/-- One result of `process_connect_results`. -/
def processConnectResult (env : ManagerEnv) (result : TargetConnectResult)
    (manager : SenderManager) : SenderManager :=
  match result with
  | .ok session => manager.handleConnected env session
  | .error failure => manager.handleFailed env failure

/-! ### The rest of an iteration -/

/-- One report of the mirror's thread. -/
def mirrorAfter (localMirror : LocalMirrorSnapshot) : LocalMirrorEvent → LocalMirrorSnapshot
  | .started backendName targetId => { localMirror with
      playbackBackend := some backendName
      playbackTargetId := targetId
      state := .mirroring
      lastError := none }
  | .played bytes => { localMirror with
      packetsPlayed := localMirror.packetsPlayed + 1
      bytesPlayed := localMirror.bytesPlayed + bytes }
  | .stateChanged state => { localMirror with state }
  | .error message => { localMirror with lastError := some message, state := .error }

def processLocalMirrorEvents (env : ManagerEnv) (manager : SenderManager) : SenderManager :=
  manager.setLocalMirror (env.mirrorEvents.foldl mirrorAfter manager.sharedSnapshot.localMirror)

/-- Shut an open session down at once and keep the snapshot of its failure. -/
def failTarget (env : ManagerEnv) (deviceId : DeviceId) (manager : SenderManager) :
    SenderManager :=
  match manager.targets.activeSession deviceId with
  | none => manager
  | some session =>
    let snapshot := session.shutdownImmediate (env.writerJoined deviceId)
    let manager := (manager.withTargets (manager.targets.remove deviceId)).shutDownSession session
    (manager.setLastError snapshot.lastError).insertEntry snapshot.receiverId (.failed snapshot)

/-- The interval between heartbeats. -/
def heartbeatInterval (manager : SenderManager) : Duration :=
  Duration.fromMillis (max manager.config.heartbeatIntervalMs.toNat 250)

/-- Do something to every open session, and fail those that do not come through. -/
def forEachActive (env : ManagerEnv)
    (act : DeviceId → ManagedTargetSession → Bool × ManagedTargetSession)
    (manager : SenderManager) : SenderManager :=
  let activeIds := manager.targets.activeIds env.order
  let passes (deviceId : DeviceId) : Bool :=
    (manager.targets.activeSession deviceId).all fun session ↦ (act deviceId session).1
  let acted := activeIds.foldl (fun manager deviceId ↦
    manager.updateActive deviceId fun session ↦ (act deviceId session).2) manager
  (activeIds.filter fun deviceId ↦ !passes deviceId).foldl (fun manager deviceId ↦
    manager.failTarget env deviceId) acted

/-- `tick_targets`. -/
def tickTargets (env : ManagerEnv) (manager : SenderManager) : SenderManager :=
  manager.forEachActive env fun deviceId session ↦
    session.tick manager.heartbeatInterval (env.tick deviceId)

/-- `capture_and_fan_out`, to one target. A frame that is refused leaves an error behind. -/
def fanOut (env : ManagerEnv) (frame : FanoutAudioFrame) (deviceId : DeviceId)
    (session : ManagedTargetSession) : Bool × ManagedTargetSession :=
  match session.pushFrame (env.queue deviceId) frame with
  | (.ok (), session) => (true, session)
  | (.error error, session) => (false, session.setError error.display .error)

/-- The mirror's share of a frame. -/
def pushToMirror (env : ManagerEnv) (frame : FanoutAudioFrame) (manager : SenderManager) :
    SenderManager :=
  let localMirror := manager.sharedSnapshot.localMirror
  if localMirror.desiredEnabled ∧
      (localMirror.state = .starting ∨ localMirror.state = .mirroring) then
    { manager with localMirrorBranch := { manager.localMirrorBranch with
        queue := (manager.localMirrorBranch.queue.push env.mirrorQueue frame).2 } }
  else manager

/-- `capture_and_fan_out`. -/
def captureAndFanOut (env : ManagerEnv) (manager : SenderManager) : SenderManager :=
  match manager.capture with
  | none => manager
  | some capture =>
    match env.tryRecvFrame capture with
    | .ok none => manager
    | .ok (some frame) =>
      let capturedAtMs := Duration.asMillis frame.capturedAt
      let frame : FanoutAudioFrame :=
        { sequence := frame.sequence
          capturedAtMs
          capturedAtUnixMs :=
            Word.satAdd 64 (manager.captureStartedUnixMs.getD env.nowUnixMs) capturedAtMs
          payload := frame.payload }
      (manager.pushToMirror env frame).forEachActive env (fanOut env frame)
    | .error .captureEnded =>
      (manager.setLastError (some "capture stream ended")).failAllActiveTargets env
        "capture stream ended"
    | .error error =>
      (manager.setLastError (some error.display)).failAllActiveTargets env error.display

def stopCaptureIfIdle (env : ManagerEnv) (manager : SenderManager) : SenderManager :=
  if manager.targets.hasActiveTargets || manager.targets.hasPendingTargets then manager
  else
    let state := manager.sharedSnapshot.localMirror.state
    let manager := { manager with capture := none, captureStartedUnixMs := none }
    if state = .starting ∨ state = .mirroring ∨ state = .stopping then
      { manager with
        localMirrorBranch := (manager.localMirrorBranch.send env.mirrorListens .stop).2 }
    else manager

/-- `aggregate_metrics`. -/
def aggregateMetrics (targets : List StreamTargetSnapshot) : StreamMetrics :=
  targets.foldl (fun aggregate target ↦ aggregate.accumulate target.metrics) {}

/-- `derive_manager_state`. -/
def deriveManagerState (targets : List StreamTargetSnapshot) : StreamSessionState :=
  if targets.isEmpty then .idle
  else if targets.any fun target ↦ target.state == .streaming then .streaming
  else if targets.any fun target ↦
      target.state == .connecting || target.state == .negotiating
        || target.nextRetryAtUnixMs.isSome then .connecting
  else if targets.any fun target ↦ target.state == .stopping then .stopping
  else if targets.all fun target ↦ target.state == .error then .error
  else .idle

def refreshSnapshot (env : ManagerEnv) (manager : SenderManager) : SenderManager :=
  let targets := manager.targets.collectSnapshots env.order
  let queue := manager.localMirrorBranch.queue.consume env.mirrorConsumed
  let sharedSnapshot := { manager.sharedSnapshot with
    targets
    metrics := aggregateMetrics targets
    state := deriveManagerState targets
    localMirror := finalizeLocalMirrorState
      { manager.sharedSnapshot.localMirror with buffer := queue.snapshot }
      manager.capture.isSome }
  { manager with
    localMirrorBranch := { manager.localMirrorBranch with queue }
    sharedSnapshot
    snapshot := sharedSnapshot }

/-- Take an open session out and shut it down. -/
def stopTarget (deviceId : DeviceId) (manager : SenderManager) : SenderManager :=
  match manager.targets.activeSession deviceId with
  | none => manager
  | some session =>
    (manager.withTargets (manager.targets.remove deviceId)).shutDownSession session

/-- The stream a result carries. -/
def streamsOf : TargetConnectResult → List TcpStream
  | .ok session => [session.stream]
  | .error _ => []

/-- The streams of the sessions on their way to the manager. -/
def arriving (manager : SenderManager) : List TcpStream :=
  manager.connectRx.flatMap fun result ↦ streamsOf result.2

/-- The streams the collection holds, entry by entry. -/
def held (manager : SenderManager) : List TcpStream :=
  manager.targets.entries.entries.flatMap fun entry ↦ entry.2.streams

/-- `shutdown_all`, and the end of the thread: what is left in the collection and in the channel is
dropped. -/
def shutdownAll (env : ManagerEnv) (manager : SenderManager) : SenderManager :=
  let manager := (manager.targets.activeIds env.order).foldl (fun manager deviceId ↦
    manager.stopTarget deviceId) { manager with capture := none }
  let sharedSnapshot := { manager.sharedSnapshot with
    targets := []
    metrics := {}
    state := .idle
    lastError := none
    localMirror := finalizeLocalMirrorState manager.sharedSnapshot.localMirror false }
  { manager with
    targets := {}
    connectRx := []
    dropped := manager.dropped ++ manager.held ++ manager.arriving
    localMirrorBranch :=
      { queue := manager.localMirrorBranch.queue.clear
        controls := manager.localMirrorBranch.controls ++ [.shutdown] }
    sharedSnapshot
    snapshot := sharedSnapshot }

end SenderManager

end SynchroSonic
