import SynchroSonic.Transport.FanoutIsolation

/-!
# What the mirror can do to the network

`MirrorEnv` is all that the local mirror answers in one step, and `network` is a manager without what
belongs to the mirror; whether the mirror is wanted stays, since the user decides that. Two runs that
differ in the mirror's answers alone are compared step by step.

There is one answer that the network depends on: `ensure_capture_running` passes the error of
`LocalMirrorBranch::start` on, and its caller fails every open session. Everywhere else an error of the
mirror ends up in the mirror's own snapshot.
-/

namespace SynchroSonic

/-- What the mirror's branch does in one step. -/
structure MirrorEnv where
  listens : Bool := true
  events : List LocalMirrorEvent := []
  queue : QueueEnv := {}
  consumed : ℕ := 0
  deriving DecidableEq, Repr

def ManagerEnv.withMirror (mirror : MirrorEnv) (env : ManagerEnv) : ManagerEnv :=
  { env with
    mirrorListens := mirror.listens
    mirrorEvents := mirror.events
    mirrorQueue := mirror.queue
    mirrorConsumed := mirror.consumed }

/-- The same step with another mirror. -/
def SenderInput.withMirror (mirror : MirrorEnv) : SenderInput → SenderInput
  | .command env issued => .command (env.withMirror mirror) issued
  | .pendingTargets env => .pendingTargets (env.withMirror mirror)
  | .connectResult env => .connectResult (env.withMirror mirror)
  | .mirrorEvents env => .mirrorEvents (env.withMirror mirror)
  | .tick env => .tick (env.withMirror mirror)
  | .capture env => .capture (env.withMirror mirror)
  | .idle env => .idle (env.withMirror mirror)
  | .refresh env => .refresh (env.withMirror mirror)
  | .shutdownAll env => .shutdownAll (env.withMirror mirror)
  | input => input

namespace SenderManager

variable {manager other : SenderManager} {env : ManagerEnv} {mirror mirror' : MirrorEnv}

/-- A manager without its mirror. -/
def network (manager : SenderManager) : SenderManager :=
  { manager with
    localMirrorBranch := { queue := .new 0 }
    sharedSnapshot := { manager.sharedSnapshot with
      localMirror := { desiredEnabled := manager.sharedSnapshot.localMirror.desiredEnabled } }
    snapshot := { manager.snapshot with localMirror := {} } }

/-! ### The mirror's own work -/

/-- The network only sees whether the mirror is wanted. -/
theorem network_setLocalMirror (localMirror : LocalMirrorSnapshot) (manager : SenderManager) :
    (manager.setLocalMirror localMirror).network = manager.network.setLocalMirror
      { desiredEnabled := localMirror.desiredEnabled } := rfl

/-- A message to the mirror is outside the network part. -/
theorem network_controlMirror (env : ManagerEnv) (control : LocalMirrorControl)
    (manager : SenderManager) : (manager.controlMirror env control).network = manager.network := by
  unfold controlMirror
  split <;> rfl

/-- The switch of the mirror changes nothing of the network part but the wish itself. -/
theorem network_setLocalMirrorEnabled (env : ManagerEnv) (enabled : Bool)
    (manager : SenderManager) :
    (manager.setLocalMirrorEnabled env enabled).network =
      manager.network.setLocalMirror { desiredEnabled := enabled } := by
  unfold setLocalMirrorEnabled
  dsimp only
  split
  · exact network_setLocalMirror _ manager
  split
  · rw [network_controlMirror]
    exact network_setLocalMirror _ manager
  · rw [network_controlMirror]
    exact network_setLocalMirror _ manager

/-- The mirror's sink is part of the request, and read when a capture starts. -/
theorem network_setLocalMirrorTarget (env : ManagerEnv) (targetId : Option String)
    (manager : SenderManager) :
    (manager.setLocalMirrorTarget env targetId).network =
      { manager.network with
        localMirrorRequest := { manager.network.localMirrorRequest with targetId } } := by
  unfold setLocalMirrorTarget
  dsimp only
  split
  · rw [network_controlMirror]
    rfl
  · rfl

/-- No report of the mirror changes what the user wishes. -/
theorem desiredEnabled_foldl_mirrorAfter (events : List LocalMirrorEvent)
    (localMirror : LocalMirrorSnapshot) :
    (events.foldl mirrorAfter localMirror).desiredEnabled = localMirror.desiredEnabled := by
  induction events generalizing localMirror with
  | nil => rfl
  | cons event events ih =>
    rw [List.foldl_cons, ih]
    cases event <;> rfl

/-- The reports of the mirror reach its own status only. -/
theorem network_processLocalMirrorEvents (env : ManagerEnv) (manager : SenderManager) :
    (manager.processLocalMirrorEvents env).network = manager.network := by
  rw [processLocalMirrorEvents, network_setLocalMirror, desiredEnabled_foldl_mirrorAfter]
  rfl

/-- The frame of the mirror is a copy. -/
theorem network_pushToMirror (env : ManagerEnv) (frame : FanoutAudioFrame)
    (manager : SenderManager) : (manager.pushToMirror env frame).network = manager.network := by
  unfold pushToMirror
  dsimp only
  split <;> rfl

/-! ### Work on the collection -/

/-- To add a target is to add it to the network part. -/
theorem network_queueTargetConnect (now : Instant) (target : SenderTarget)
    (manager : SenderManager) :
    (manager.queueTargetConnect now target).network =
      manager.network.queueTargetConnect now target := by
  have htargets : manager.network.targets = manager.targets := rfl
  rw [queueTargetConnect, queueTargetConnect, htargets]
  rcases manager.targets.stateFor target.receiverId with - | (- | - | - | - | - | -) <;> rfl

/-- A removal is one of the network part. -/
theorem network_removeTarget (deviceId : DeviceId) (manager : SenderManager) :
    (manager.removeTarget deviceId).network = manager.network.removeTarget deviceId := by
  have htargets : manager.network.targets = manager.targets := rfl
  rw [removeTarget, removeTarget, htargets]
  rcases manager.targets.activeSession deviceId with - | session <;> rfl

/-- Calls on the network part, one after the other. -/
theorem network_foldl {ι : Type} {call : SenderManager → ι → SenderManager}
    (hcall : ∀ (manager : SenderManager) (i : ι),
      call manager.network i = (call manager i).network) (is : List ι) (manager : SenderManager) :
    (is.foldl call manager).network = is.foldl call manager.network :=
  (List.foldl_hom network (fun manager i ↦ hcall manager i)).symm

/-- So is an update of a session. -/
theorem network_updateActive (deviceId : DeviceId)
    (update : ManagedTargetSession → ManagedTargetSession) (manager : SenderManager) :
    manager.network.updateActive deviceId update = (manager.updateActive deviceId update).network := by
  have htargets : manager.network.targets = manager.targets := rfl
  rw [updateActive, updateActive, htargets]
  rcases manager.targets.activeSession deviceId with - | session <;> rfl

/-- So is a failure. -/
theorem network_failTarget (env : ManagerEnv) (deviceId : DeviceId) (manager : SenderManager) :
    manager.network.failTarget env deviceId = (manager.failTarget env deviceId).network := by
  have htargets : manager.network.targets = manager.targets := rfl
  rw [failTarget, failTarget, htargets]
  rcases manager.targets.activeSession deviceId with - | session <;> rfl

/-- So is an attempt that is started. -/
theorem network_launch (deviceId : DeviceId) (manager : SenderManager) :
    manager.network.launch deviceId = (manager.launch deviceId).network := by
  have htargets : manager.network.targets = manager.targets := rfl
  rw [launch, launch, htargets]
  rcases manager.targets.pendingSession deviceId with - | pending <;> rfl

/-- The pending targets are started by their own entries. -/
theorem network_processPendingTargets (env : ManagerEnv) (manager : SenderManager) :
    (manager.processPendingTargets env).network = manager.network.processPendingTargets env :=
  network_foldl (fun manager deviceId ↦ network_launch deviceId manager) _ manager

/-- The error of a capture is noted down in the sessions, which are all in the network part. -/
theorem network_failAllActiveTargets (env : ManagerEnv) (message : String)
    (manager : SenderManager) :
    (manager.failAllActiveTargets env message).network =
      manager.network.failAllActiveTargets env message :=
  network_foldl (fun manager deviceId ↦ network_updateActive deviceId _ manager) _ manager

/-- A walk over the sessions does not look at the mirror. -/
theorem network_forEachActive (env : ManagerEnv)
    (act : DeviceId → ManagedTargetSession → Bool × ManagedTargetSession) (manager : SenderManager) :
    (manager.forEachActive env act).network = manager.network.forEachActive env act := by
  have htargets : manager.network.targets = manager.targets := rfl
  rw [forEachActive, forEachActive, htargets]
  dsimp only
  rw [network_foldl (fun manager deviceId ↦ network_failTarget env deviceId manager),
    network_foldl (fun manager deviceId ↦ network_updateActive deviceId _ manager)]

/-- Neither does a failed attempt. -/
theorem network_handleFailed (env : ManagerEnv) (failure : TargetConnectFailure)
    (manager : SenderManager) :
    (manager.handleFailed env failure).network = manager.network.handleFailed env failure := by
  have htargets : manager.network.targets = manager.targets := rfl
  have hpending : (manager.network.setLastError failure.snapshot.lastError).targets.pendingSession
      failure.snapshot.receiverId = manager.targets.pendingSession failure.snapshot.receiverId := rfl
  have hpending' : (manager.setLastError failure.snapshot.lastError).targets.pendingSession
      failure.snapshot.receiverId = manager.targets.pendingSession failure.snapshot.receiverId := rfl
  simp only [handleFailed, htargets, hpending, hpending']
  rcases manager.targets.contains failure.snapshot.receiverId with - | -
  · rfl
  rcases retries failure with - | -
  · rfl
  rcases manager.targets.pendingSession failure.snapshot.receiverId with - | pending <;> rfl

/-! ### The rest of an iteration -/

/-- The capture stops when no target is left, mirror or not. -/
theorem network_stopCaptureIfIdle (env : ManagerEnv) (manager : SenderManager) :
    (manager.stopCaptureIfIdle env).network =
      if manager.targets.hasActiveTargets || manager.targets.hasPendingTargets then manager.network
      else { manager.network with
        capture := none
        captureStartedUnixMs := none } := by
  obtain ⟨_, heq⟩ := stopCaptureIfIdle_eq env manager
  rw [heq]
  split <;> rfl

/-- The status that is published keeps the wish. -/
theorem desiredEnabled_finalizeLocalMirrorState (localMirror : LocalMirrorSnapshot)
    (captureActive : Bool) :
    (finalizeLocalMirrorState localMirror captureActive).desiredEnabled =
      localMirror.desiredEnabled := by
  unfold finalizeLocalMirrorState
  split <;> rfl

/-- What `refresh_snapshot` publishes about the network. -/
theorem network_refreshSnapshot (env : ManagerEnv) (manager : SenderManager) :
    (manager.refreshSnapshot env).network =
      let targets := manager.targets.collectSnapshots env.order
      let sharedSnapshot := { manager.network.sharedSnapshot with
        targets
        metrics := aggregateMetrics targets
        state := deriveManagerState targets }
      { manager.network with
        sharedSnapshot
        snapshot := { sharedSnapshot with localMirror := {} } } := by
  simp only [refreshSnapshot, network, desiredEnabled_finalizeLocalMirrorState]

/-- A target is stopped in the network part. -/
theorem network_stopTarget (deviceId : DeviceId) (manager : SenderManager) :
    manager.network.stopTarget deviceId = (manager.stopTarget deviceId).network := by
  have htargets : manager.network.targets = manager.targets := rfl
  rw [stopTarget, stopTarget, htargets]
  rcases manager.targets.activeSession deviceId with - | session <;> rfl

section Pair

variable (h : other.network = manager.network)
include h

theorem targets_of_network : other.targets = manager.targets := by
  have htargets := congrArg SenderManager.targets h
  exact htargets

theorem capture_of_network : other.capture = manager.capture := by
  have hcapture := congrArg SenderManager.capture h
  exact hcapture

theorem desiredEnabled_of_network : other.sharedSnapshot.localMirror.desiredEnabled =
    manager.sharedSnapshot.localMirror.desiredEnabled :=
  congrArg (fun manager ↦ manager.sharedSnapshot.localMirror.desiredEnabled) h

/-- Frames are stamped by the capture alone. -/
theorem stamped_of_network (env : ManagerEnv) (mirror mirror' : MirrorEnv) (frame : AudioFrame) :
    other.stamped (env.withMirror mirror') frame = manager.stamped (env.withMirror mirror) frame := by
  have hnetwork := congrArg SenderManager.captureStartedUnixMs h
  have hstarted : other.captureStartedUnixMs = manager.captureStartedUnixMs := hnetwork
  simp only [stamped, hstarted, ManagerEnv.withMirror]

/-- **Fan-out does not depend on the mirror**: the same frame goes to the same sessions, whether or not the
mirror listens. -/
theorem captureAndFanOut_network (env : ManagerEnv) (mirror mirror' : MirrorEnv) :
    (other.captureAndFanOut (env.withMirror mirror')).network =
      (manager.captureAndFanOut (env.withMirror mirror)).network := by
  have hcapture' := capture_of_network h
  have hfailed (message : String) :
      ((other.setLastError (some message)).failAllActiveTargets (env.withMirror mirror')
        message).network =
      ((manager.setLastError (some message)).failAllActiveTargets (env.withMirror mirror)
        message).network := by
    have hset : (other.setLastError (some message)).network =
        (manager.setLastError (some message)).network :=
      congrArg (fun manager : SenderManager ↦ manager.setLastError (some message)) h
    rw [network_failAllActiveTargets, network_failAllActiveTargets, hset]
    rfl
  rcases hcapture : manager.capture with - | capture
  · rw [hcapture] at hcapture'
    simp only [captureAndFanOut, hcapture, hcapture']
    exact h
  rw [hcapture] at hcapture'
  have hpolled (mirror : MirrorEnv) : (env.withMirror mirror).tryRecvFrame capture =
      env.tryRecvFrame capture := rfl
  rcases hframe : env.tryRecvFrame capture with error | - | frame
  -- the source tells the end of the capture from other failures, and fails every target in both
  · cases error with
    | captureEnded =>
      simp only [captureAndFanOut, hcapture, hcapture', hpolled, hframe]
      exact hfailed _
    | _ =>
      simp only [captureAndFanOut, hcapture, hcapture', hpolled, hframe]
      exact hfailed _
  · simp only [captureAndFanOut, hcapture, hcapture', hpolled, hframe]
    exact h
  · have hstamped := stamped_of_network h env mirror mirror' frame
    simp only [stamped] at hstamped
    simp only [captureAndFanOut, hcapture, hcapture', hpolled, hframe, hstamped]
    rw [network_forEachActive, network_forEachActive, network_pushToMirror, network_pushToMirror, h]
    rfl

/-- Neither does the end of the manager. -/
theorem shutdownAll_network (env : ManagerEnv) (mirror mirror' : MirrorEnv) :
    (other.shutdownAll (env.withMirror mirror')).network =
      (manager.shutdownAll (env.withMirror mirror)).network := by
  have hstopped : ((other.targets.activeIds env.order).foldl
        (fun (manager : SenderManager) deviceId ↦ manager.stopTarget deviceId)
        { other with capture := none }).network =
      ((manager.targets.activeIds env.order).foldl
        (fun (manager : SenderManager) deviceId ↦ manager.stopTarget deviceId)
        { manager with capture := none }).network := by
    have hcleared : ({ other with capture := none } : SenderManager).network =
        ({ manager with capture := none } : SenderManager).network :=
      congrArg (fun manager : SenderManager ↦ { manager with capture := none }) h
    rw [network_foldl (fun manager deviceId ↦ network_stopTarget deviceId manager),
      network_foldl (fun manager deviceId ↦ network_stopTarget deviceId manager), hcleared,
      targets_of_network h]
  have hended := congrArg (fun stopped : SenderManager ↦ ({ stopped with
    targets := {}
    connectRx := []
    dropped := stopped.dropped ++ stopped.held ++ stopped.arriving
    sharedSnapshot := { stopped.sharedSnapshot with
      targets := []
      metrics := {}
      state := .idle
      lastError := none }
    snapshot := { stopped.sharedSnapshot with
      targets := []
      metrics := {}
      state := .idle
      lastError := none
      localMirror := {} } } : SenderManager)) hstopped
  simp only [shutdownAll, network, desiredEnabled_finalizeLocalMirrorState]
  exact hended

end Pair

/-! ### Starting the capture -/

/-- A connection that is wanted would start the capture, and the mirror with it. -/
def startsMirror (env : ManagerEnv) (manager : SenderManager) : Bool :=
  manager.capture.isNone && (env.startCapture manager.captureSettings).isOk &&
    manager.sharedSnapshot.localMirror.desiredEnabled

/-- A capture that starts, and whether the mirror comes along. -/
theorem ensureCaptureRunning_of_started {capture : CaptureHandle} (hnone : manager.capture = none)
    (hstart : env.startCapture manager.captureSettings = .ok capture) :
    (manager.ensureCaptureRunning env).1 =
        (if manager.sharedSnapshot.localMirror.desiredEnabled = true ∧ env.mirrorListens = false then
          .error .channelClosed
        else .ok ()) ∧
      (manager.ensureCaptureRunning env).2.network =
        { manager.network with
          capture := some capture
          captureStartedUnixMs := some env.nowUnixMs } := by
  have hrunning : ¬ manager.capture.isSome = true := by
    rw [hnone]
    exact Bool.false_ne_true
  simp only [ensureCaptureRunning, hrunning, hstart]
  rcases hdesired : manager.sharedSnapshot.localMirror.desiredEnabled with - | -
  · simp only [Bool.false_eq_true, if_false, false_and]
    exact ⟨trivial, rfl⟩
  · rcases hlistens : env.mirrorListens with - | -
    · simp [LocalMirrorBranch.send, setLocalMirror, network, hdesired]
    · simp [LocalMirrorBranch.send, setLocalMirror, network, hdesired]

/-- **The capture starts alike**, where the mirror answers alike or is not to be started. -/
theorem ensureCaptureRunning_network (h : other.network = manager.network)
    (hstart : manager.startsMirror env = true → mirror'.listens = mirror.listens) :
    (other.ensureCaptureRunning (env.withMirror mirror')).1 =
        (manager.ensureCaptureRunning (env.withMirror mirror)).1 ∧
      (other.ensureCaptureRunning (env.withMirror mirror')).2.network =
        (manager.ensureCaptureRunning (env.withMirror mirror)).2.network := by
  have hcapture := capture_of_network h
  have hsettings : other.captureSettings = manager.captureSettings := by
    have hsettings := congrArg SenderManager.captureSettings h
    exact hsettings
  -- a running capture is left alone; one that starts may start the mirror too
  rcases hnone : manager.capture with - | capture
  · rw [hnone] at hcapture
    rcases hstarted : env.startCapture manager.captureSettings with error | capture
    · have hfailed {started : SenderManager} {mirror : MirrorEnv} (hnone : started.capture = none)
          (hsettings : started.captureSettings = manager.captureSettings) :
          started.ensureCaptureRunning (env.withMirror mirror) =
            (.error (.audio error), started) := by
        have hstarted : (env.withMirror mirror).startCapture started.captureSettings =
            .error error := hsettings ▸ hstarted
        simp [ensureCaptureRunning, hnone, hstarted]
      rw [hfailed hcapture hsettings, hfailed hnone rfl]
      exact ⟨rfl, h⟩
    · have hstarted' : (env.withMirror mirror').startCapture other.captureSettings = .ok capture :=
        hsettings ▸ hstarted
      obtain ⟨hresult, hnetwork⟩ :=
        @ensureCaptureRunning_of_started manager (env.withMirror mirror) capture hnone hstarted
      obtain ⟨hresult', hnetwork'⟩ :=
        @ensureCaptureRunning_of_started other (env.withMirror mirror') capture hcapture hstarted'
      rw [hresult, hresult', hnetwork, hnetwork', h, desiredEnabled_of_network h]
      refine ⟨?_, rfl⟩
      rcases hdesired : manager.sharedSnapshot.localMirror.desiredEnabled with - | -
      · rfl
      · have hlistens : mirror'.listens = mirror.listens := hstart (by
          simp [startsMirror, hnone, hstarted, hdesired, Except.isOk, Except.toBool])
        simp only [ManagerEnv.withMirror, hlistens]
  · rw [hnone] at hcapture
    have hrunning {started : SenderManager} {mirror : MirrorEnv}
        (hcapture : started.capture = some capture) :
        started.ensureCaptureRunning (env.withMirror mirror) = (.ok (), started) := by
      simp [ensureCaptureRunning, hcapture]
    rw [hrunning hcapture, hrunning hnone]
    exact ⟨rfl, h⟩

/-- So a session comes in alike. -/
theorem handleConnected_network (h : other.network = manager.network)
    (session : ManagedTargetSession)
    (hstart : manager.targets.contains session.target.receiverId = true →
      manager.startsMirror env = true → mirror'.listens = mirror.listens) :
    (other.handleConnected (env.withMirror mirror') session).network =
      (manager.handleConnected (env.withMirror mirror) session).network := by
  have htargets := targets_of_network h
  simp only [handleConnected, htargets]
  rcases hcontains : manager.targets.contains session.target.receiverId with - | -
  · exact congrArg (shutDownSession session) h
  · have hinserted : (other.insertEntry session.target.receiverId (.active session)).network =
        (manager.insertEntry session.target.receiverId (.active session)).network :=
      congrArg (insertEntry session.target.receiverId (.active session)) h
    obtain ⟨hresult, hnetwork⟩ := @ensureCaptureRunning_network
      (manager.insertEntry session.target.receiverId (.active session)) _ env mirror mirror'
      hinserted (hstart hcontains)
    rcases hrun : (manager.insertEntry session.target.receiverId
      (.active session)).ensureCaptureRunning (env.withMirror mirror) with ⟨result, started⟩
    rcases hrun' : (other.insertEntry session.target.receiverId
      (.active session)).ensureCaptureRunning (env.withMirror mirror') with ⟨result', started'⟩
    rw [hrun, hrun'] at hresult hnetwork
    obtain rfl : result' = result := hresult
    rcases result' with error | ⟨⟩
    · simp only [if_true]
      rw [network_failAllActiveTargets, network_failAllActiveTargets,
        show (started'.setLastError (some error.display)).network =
          (started.setLastError (some error.display)).network from
          congrArg (setLastError (some error.display)) hnetwork]
      rfl
    · exact hnetwork

end SenderManager

/-! ### Two runs -/

/-- A step, and what the mirror does in it in one run and in the other. -/
structure MirrorPair where
  input : SenderInput
  mirror : MirrorEnv
  mirror' : MirrorEnv

def MirrorPair.first (pair : MirrorPair) : SenderInput := pair.input.withMirror pair.mirror

def MirrorPair.second (pair : MirrorPair) : SenderInput := pair.input.withMirror pair.mirror'

namespace SenderSystem

/-- A connect result starts the capture while the mirror is wanted. -/
def startsMirror (system : SenderSystem) : SenderInput → Bool
  | .connectResult env => system.arrivingSession.isSome && system.manager.startsMirror env
  | _ => false

/-- Where the capture and the mirror are started together, the mirror's thread takes the control in both
runs or in none. -/
def StartsAlike (system : SenderSystem) (pair : MirrorPair) : Prop :=
  system.startsMirror pair.input = true → pair.mirror'.listens = pair.mirror.listens

instance (system : SenderSystem) (pair : MirrorPair) : Decidable (system.StartsAlike pair) :=
  inferInstanceAs (Decidable (_ → _))

/-- The same but for the mirror. -/
structure SameNetwork (system other : SenderSystem) : Prop where
  phase : other.phase = system.phase
  network : other.manager.network = system.manager.network

variable {secsF64 : SecsF64} {format : WireFormat} {system other next : SenderSystem}

/-- Two calls that do the same to the network part can be taken together, and leave it the same. -/
theorem SameNetwork.call (h : SameNetwork system other) {phase after : ManagerPhase}
    {env : ManagerEnv} {mirror mirror' : MirrorEnv}
    {body body' : ManagerEnv → SenderManager → SenderManager}
    (hcall : system.call phase after (env.withMirror mirror) body = some next)
    (hbody : (body' (env.withMirror mirror') other.manager).network =
      (body (env.withMirror mirror) system.manager).network) :
    ∃ next', other.call phase after (env.withMirror mirror') body' = some next' ∧
      SameNetwork next next' := by
  obtain ⟨hphase, hwalked, rfl⟩ := call_eq_some hcall
  refine ⟨⟨after, body' (env.withMirror mirror') other.manager⟩, if_pos ⟨h.phase.trans hphase, ?_⟩,
    rfl, hbody⟩
  rw [SenderManager.WalkedBy, SenderManager.targets_of_network h.network]
  exact hwalked

/-- No command of the user tells two mirrors apart in the network part. -/
theorem processCommand_network (h : SameNetwork system other) (env : ManagerEnv)
    (mirror mirror' : MirrorEnv) (command : SenderCommand) :
    (other.manager.processCommand (env.withMirror mirror') command).network =
      (system.manager.processCommand (env.withMirror mirror) command).network := by
  cases command with
  | addTarget target =>
    simp only [SenderManager.processCommand]
    rw [SenderManager.network_queueTargetConnect, SenderManager.network_queueTargetConnect, h.network]
    rfl
  | removeTarget deviceId =>
    simp only [SenderManager.processCommand]
    rw [SenderManager.network_removeTarget, SenderManager.network_removeTarget, h.network]
  | setLocalMirrorEnabled enabled =>
    simp only [SenderManager.processCommand]
    rw [SenderManager.network_setLocalMirrorEnabled, SenderManager.network_setLocalMirrorEnabled,
      h.network]
  | setLocalMirrorTarget targetId =>
    simp only [SenderManager.processCommand]
    rw [SenderManager.network_setLocalMirrorTarget, SenderManager.network_setLocalMirrorTarget,
      h.network]
  | setLocalDeviceId deviceId =>
    exact congrArg (fun manager : SenderManager ↦ { manager with
      connectRequest := { manager.connectRequest with localDeviceId := some deviceId } }) h.network
  | setQualityPreset quality =>
    exact congrArg (fun manager : SenderManager ↦ { manager with
      config := { manager.config with quality }
      connectRequest := { manager.connectRequest with quality } }) h.network
  | shutdown =>
    exact congrArg (fun manager : SenderManager ↦ { manager with
      sharedSnapshot := { manager.sharedSnapshot with state := .stopping } }) h.network

/-- No tick does. -/
theorem tickTargets_network (h : SameNetwork system other) (env : ManagerEnv)
    (mirror mirror' : MirrorEnv) :
    (other.manager.tickTargets (env.withMirror mirror')).network =
      (system.manager.tickTargets (env.withMirror mirror)).network := by
  have hconfig := congrArg SenderManager.config h.network
  have hinterval : other.manager.heartbeatInterval = system.manager.heartbeatInterval :=
    congrArg (fun config : TransportConfig ↦
      Duration.fromMillis (max config.heartbeatIntervalMs.toNat 250)) hconfig
  rw [SenderManager.tickTargets, SenderManager.tickTargets, SenderManager.network_forEachActive,
    SenderManager.network_forEachActive, h.network, hinterval]
  rfl

/-- **A step that starts alike in both runs keeps them the same but for the mirror.** -/
theorem step_network {pair : MirrorPair} (h : SameNetwork system other)
    (halike : system.StartsAlike pair) (hstep : system.step secsF64 format pair.first = some next) :
    ∃ next', other.step secsF64 format pair.second = some next' ∧ SameNetwork next next' := by
  obtain ⟨input, mirror, mirror'⟩ := pair
  simp only [MirrorPair.first, MirrorPair.second] at hstep ⊢
  cases input with
  | command env command =>
    simp only [SenderInput.withMirror, step, h.phase] at hstep ⊢
    split at hstep
    next hphase =>
      obtain rfl := Option.some.inj hstep
      exact ⟨_, if_pos hphase, rfl, processCommand_network h env mirror mirror' command⟩
    · cases hstep
  | noCommand =>
    simp only [SenderInput.withMirror, step, h.phase] at hstep ⊢
    split at hstep
    next hphase =>
      obtain rfl := Option.some.inj hstep
      exact ⟨_, if_pos hphase, rfl, h.network⟩
    · cases hstep
  | pendingTargets env =>
    simp only [SenderInput.withMirror, step] at hstep ⊢
    refine h.call hstep ?_
    rw [SenderManager.network_processPendingTargets, SenderManager.network_processPendingTargets,
      h.network]
    rfl
  | connectResult env =>
    have hconnectRx := congrArg SenderManager.connectRx h.network
    have hconnectRx : other.manager.connectRx = system.manager.connectRx := hconnectRx
    simp only [SenderInput.withMirror, step, hconnectRx] at hstep ⊢
    rcases hhead : system.manager.connectRx with - | ⟨⟨attempt, result⟩, connectRx⟩
    · rw [hhead] at hstep
      cases hstep
    · rw [hhead] at hstep
      refine h.call hstep ?_
      have hreceived : (other.manager.received connectRx).network =
          (system.manager.received connectRx).network :=
        congrArg (SenderManager.received connectRx) h.network
      cases result with
      | error failure =>
        refine (SenderManager.network_handleFailed _ failure _).trans ?_
        rw [hreceived]
        exact (SenderManager.network_handleFailed _ failure _).symm
      | ok session =>
        -- the mirror is asked only where the capture starts, and there both runs are alike
        refine SenderManager.handleConnected_network hreceived session fun hcontains hstarts ↦ ?_
        have hcontains : system.manager.targets.contains session.target.receiverId = true := hcontains
        have hstarts : system.manager.startsMirror env = true := hstarts
        refine halike ?_
        simp only [startsMirror, arrivingSession, hhead, hcontains, if_true, Option.isSome_some,
          hstarts, Bool.and_self]
  | noConnectResult =>
    have hconnectRx := congrArg SenderManager.connectRx h.network
    have hconnectRx : other.manager.connectRx = system.manager.connectRx := hconnectRx
    simp only [SenderInput.withMirror, step, h.phase, hconnectRx] at hstep ⊢
    split at hstep
    next hready =>
      obtain rfl := Option.some.inj hstep
      exact ⟨_, if_pos hready, rfl, h.network⟩
    · cases hstep
  | mirrorEvents env =>
    simp only [SenderInput.withMirror, step] at hstep ⊢
    refine h.call hstep ?_
    rw [SenderManager.network_processLocalMirrorEvents,
      SenderManager.network_processLocalMirrorEvents, h.network]
  | tick env =>
    simp only [SenderInput.withMirror, step] at hstep ⊢
    exact h.call hstep (tickTargets_network h env mirror mirror')
  | capture env =>
    simp only [SenderInput.withMirror, step] at hstep ⊢
    exact h.call hstep (SenderManager.captureAndFanOut_network h.network env mirror mirror')
  | idle env =>
    simp only [SenderInput.withMirror, step] at hstep ⊢
    refine h.call hstep ?_
    rw [SenderManager.network_stopCaptureIfIdle, SenderManager.network_stopCaptureIfIdle, h.network,
      SenderManager.targets_of_network h.network]
  | refresh env =>
    simp only [SenderInput.withMirror, step] at hstep ⊢
    refine h.call hstep ?_
    rw [SenderManager.network_refreshSnapshot, SenderManager.network_refreshSnapshot, h.network,
      SenderManager.targets_of_network h.network]
    rfl
  | shutdownAll env =>
    simp only [SenderInput.withMirror, step] at hstep ⊢
    exact h.call hstep (SenderManager.shutdownAll_network h.network env mirror mirror')
  | connected attempt env =>
    have hthreads := congrArg SenderManager.threads h.network
    have hthreads : other.manager.threads = system.manager.threads := hthreads
    simp only [SenderInput.withMirror, step, h.phase, hthreads] at hstep ⊢
    split at hstep
    next hmem =>
      obtain rfl := Option.some.inj hstep
      refine ⟨_, if_pos hmem, rfl, ?_⟩
      dsimp only
      split
      · exact congrArg (SenderManager.unsent attempt (attempt.result secsF64 format env)) h.network
      · exact congrArg (SenderManager.sent attempt (attempt.result secsF64 format env)) h.network
    · cases hstep

/-- The targets, the capture and what is pushed to the targets are the same. -/
structure Undisturbed (system other : SenderSystem) : Prop where
  targets : other.manager.targets = system.manager.targets
  capture : other.manager.capture = system.manager.capture
  pushed : ∀ env mirror mirror', other.manager.capturedFrame (ManagerEnv.withMirror mirror' env) =
    system.manager.capturedFrame (ManagerEnv.withMirror mirror env)

/-- The same network part is all that the targets see. -/
theorem undisturbed_of_network (h : SameNetwork system other) : Undisturbed system other where
  targets := SenderManager.targets_of_network h.network
  capture := SenderManager.capture_of_network h.network
  pushed env mirror mirror' := by
    simp only [SenderManager.capturedFrame, SenderManager.capture_of_network h.network,
      SenderManager.stamped_of_network h.network env mirror mirror']
    rfl

/-- **The mirror does not reach the network**, where it takes the control that starts it with the capture
in both runs or in none. Whatever else it reports and refuses, the targets, the capture and the frames
pushed to the targets are the same. -/
theorem mirror_isolated (secsF64 : SecsF64) (format : WireFormat) (setup : SenderSetup)
    (now : Instant) (target : SenderTarget) (pairs : List MirrorPair) (final : SenderSystem)
    (hrun : Transition.run (step secsF64 format) (start secsF64 setup now target)
      (pairs.map MirrorPair.first) = some final)
    (halike : Transition.Along (fun system pair ↦ step secsF64 format system pair.first) StartsAlike
      (start secsF64 setup now target) pairs) :
    ∃ final', Transition.run (step secsF64 format) (start secsF64 setup now target)
        (pairs.map MirrorPair.second) = some final' ∧ Undisturbed final final' := by
  rw [Transition.run_map] at hrun ⊢
  obtain ⟨final', hrun', hsame⟩ := @Transition.run_simulation _ _ _ _
    (fun system pair ↦ step secsF64 format system pair.second) StartsAlike SameNetwork
    (fun _ _ _ _ ↦ step_network) _ _ (start secsF64 setup now target) _ ⟨rfl, rfl⟩ halike hrun
  exact ⟨final', hrun', undisturbed_of_network hsame⟩

end SenderSystem

/-! ### A mirror that does not listen -/

namespace Sample

/-- The same steps, with another mirror in the second run. -/
def mirrored (mirror' : MirrorEnv) (inputs : List SenderInput) : List MirrorPair :=
  inputs.map fun input ↦ ⟨input, {}, mirror'⟩

/-- The mirror reports an error and then listens no longer. -/
def broken : MirrorEnv := { listens := false, events := [.error "sink gone"] }

/-- A target is open; the mirror is switched off and on. -/
def toggled : List SenderInput :=
  [.command managerEnv (.setLocalMirrorEnabled false),
    .command managerEnv (.setLocalMirrorEnabled true), .noCommand, .pendingTargets managerEnv,
    .noConnectResult, .mirrorEvents managerEnv, .tick managerEnv, .capture managerEnv]

end Sample

namespace SenderSystem

/-- A mirror that breaks when the capture is running. -/
theorem mirror_isolated_toggled :
    ∃ final final' : SenderSystem,
      Transition.run (step Sample.secsF64 Sample.senderFormat)
          (start Sample.secsF64 Sample.senderSetup 0 (Sample.senderTarget 1))
          ((Sample.mirrored {} (openedTarget Sample.managerEnv) ++
            Sample.mirrored Sample.broken Sample.toggled).map MirrorPair.first) = some final ∧
        Transition.run (step Sample.secsF64 Sample.senderFormat)
          (start Sample.secsF64 Sample.senderSetup 0 (Sample.senderTarget 1))
          ((Sample.mirrored {} (openedTarget Sample.managerEnv) ++
            Sample.mirrored Sample.broken Sample.toggled).map MirrorPair.second) = some final' ∧
        final.manager.sharedSnapshot.localMirror.state = .starting ∧ Undisturbed final final' := by
  have hrun : (Transition.run (step Sample.secsF64 Sample.senderFormat)
      (start Sample.secsF64 Sample.senderSetup 0 (Sample.senderTarget 1))
      ((Sample.mirrored {} (openedTarget Sample.managerEnv) ++
        Sample.mirrored Sample.broken Sample.toggled).map MirrorPair.first)).map (fun system ↦
          system.manager.sharedSnapshot.localMirror.state) = some .starting := by decide +kernel
  obtain ⟨final, hrun, hstate⟩ := Option.map_eq_some_iff.1 hrun
  obtain ⟨final', hrun', hsame⟩ :=
    mirror_isolated _ _ _ _ _ _ final hrun (by decide +kernel)
  exact ⟨final, final', hrun, hrun', hstate, hsame⟩

/-- **A mirror takes the cast down.** The mirror's thread has ended when the first session connects. The
capture is running all the same, but the session has failed; with a mirror that listens it streams. -/
theorem mirror_takes_cast_down :
    (Transition.run (step Sample.secsF64 Sample.senderFormat)
        (start Sample.secsF64 Sample.senderSetup 0 (Sample.senderTarget 1))
        ((Sample.mirrored { listens := false } ((openedTarget Sample.managerEnv).take 4)).map
          MirrorPair.first)).map (fun system ↦ (system.manager.capture.isSome,
            system.manager.targets.stateFor Sample.receiverId)) = some (true, some .streaming) ∧
      (Transition.run (step Sample.secsF64 Sample.senderFormat)
        (start Sample.secsF64 Sample.senderSetup 0 (Sample.senderTarget 1))
        ((Sample.mirrored { listens := false } ((openedTarget Sample.managerEnv).take 4)).map
          MirrorPair.second)).map (fun system ↦ (system.manager.capture.isSome,
            system.manager.targets.stateFor Sample.receiverId)) = some (true, some .error) := by
  decide +kernel

end SenderSystem

end SynchroSonic
