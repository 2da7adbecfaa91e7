import SynchroSonic.Transport.TargetView

/-!
# What the targets share

The capture and the local mirror belong to all targets, so they are the way in which one target could
matter to another. Working on the collection leaves them alone (`Outside`), and what is left of a step
is short: `sharedAfter` says what each input does to the shared part, and `step_shared` that this is all
it does.
-/

namespace SynchroSonic

/-- The capture and the local mirror. -/
structure SharedState where
  captureSettings : CaptureSettings
  capture : Option CaptureHandle
  captureStartedUnixMs : Option ℕ
  localMirrorRequest : PlaybackStartRequest
  localMirrorBranch : LocalMirrorBranch
  localMirror : LocalMirrorSnapshot
  deriving DecidableEq, Repr

namespace SenderManager

variable {manager next latest : SenderManager} {env : ManagerEnv}

/-- The shared part of a manager. -/
def shared (manager : SenderManager) : SharedState where
  captureSettings := manager.captureSettings
  capture := manager.capture
  captureStartedUnixMs := manager.captureStartedUnixMs
  localMirrorRequest := manager.localMirrorRequest
  localMirrorBranch := manager.localMirrorBranch
  localMirror := manager.sharedSnapshot.localMirror

/-! ### Work on the collection -/

/-- Nothing outside the collection has changed, except for the last error and the record of what became
of sessions. -/
def Outside (manager next : SenderManager) : Prop :=
  next = { manager with
    targets := next.targets
    shutDown := next.shutDown
    dropped := next.dropped
    sharedSnapshot := { manager.sharedSnapshot with lastError := next.sharedSnapshot.lastError } }

theorem Outside.refl (manager : SenderManager) : Outside manager manager := rfl

theorem Outside.trans (h : Outside manager next) (h' : Outside next latest) :
    Outside manager latest := by
  rw [Outside] at h' ⊢
  rw [h', h]

/-- Work on the collection leaves the shared part alone. -/
theorem Outside.shared (h : Outside manager next) : next.shared = manager.shared := by
  rw [h]
  rfl

/-- Any number of such calls is such a call. -/
theorem Outside.foldl {ι : Type} {call : SenderManager → ι → SenderManager}
    (hcall : ∀ (manager : SenderManager) (i : ι), Outside manager (call manager i)) (is : List ι)
    (manager : SenderManager) : Outside manager (is.foldl call manager) := by
  induction is generalizing manager with
  | nil => exact .refl manager
  | cons i is ih => exact (hcall manager i).trans (ih _)

/-- An update of a session is work on the collection. -/
theorem outside_updateActive (deviceId : DeviceId)
    (update : ManagedTargetSession → ManagedTargetSession) (manager : SenderManager) :
    Outside manager (manager.updateActive deviceId update) := by
  unfold updateActive
  split <;> exact rfl

/-- So is the error of a capture. -/
theorem outside_failAllActiveTargets (env : ManagerEnv) (message : String)
    (manager : SenderManager) : Outside manager (manager.failAllActiveTargets env message) :=
  .foldl (fun manager deviceId ↦ outside_updateActive deviceId _ manager) _ manager

/-- So is a target that fails. -/
theorem outside_failTarget (env : ManagerEnv) (deviceId : DeviceId) (manager : SenderManager) :
    Outside manager (manager.failTarget env deviceId) := by
  unfold failTarget
  split <;> exact rfl

/-- So is a walk over the open sessions. -/
theorem outside_forEachActive (env : ManagerEnv)
    (act : DeviceId → ManagedTargetSession → Bool × ManagedTargetSession) (manager : SenderManager) :
    Outside manager (manager.forEachActive env act) :=
  (Outside.foldl (fun manager deviceId ↦ outside_updateActive deviceId _ manager) _ manager).trans
    (.foldl (fun manager deviceId ↦ outside_failTarget env deviceId manager) _ _)

/-- So is a target that is added. -/
theorem outside_queueTargetConnect (now : Instant) (target : SenderTarget)
    (manager : SenderManager) : Outside manager (manager.queueTargetConnect now target) := by
  unfold queueTargetConnect
  split <;> exact rfl

/-- So is a removal. -/
theorem outside_removeTarget (deviceId : DeviceId) (manager : SenderManager) :
    Outside manager (manager.removeTarget deviceId) := by
  unfold removeTarget
  dsimp only
  split <;> exact rfl

/-- So is a failed attempt. -/
theorem outside_handleFailed (env : ManagerEnv) (failure : TargetConnectFailure)
    (manager : SenderManager) : Outside manager (manager.handleFailed env failure) := by
  unfold handleFailed
  dsimp only
  split
  · split
    · split <;> exact rfl
    · exact rfl
  · exact rfl

/-- Attempts that are started run beside the shared part. -/
theorem shared_processPendingTargets (env : ManagerEnv) (manager : SenderManager) :
    (manager.processPendingTargets env).shared = manager.shared := by
  have hlaunch (deviceId : DeviceId) (manager : SenderManager) :
      (manager.launch deviceId).shared = manager.shared := by
    unfold launch
    split <;> rfl
  unfold processPendingTargets
  induction manager.targets.duePendingTargets env.order env.now generalizing manager with
  | nil => rfl
  | cons deviceId deviceIds ih => exact (ih _).trans (hlaunch deviceId manager)

/-! ### Work on the shared part -/

/-- A frame of the capture, if a call finds one. -/
def capturedFrame (env : ManagerEnv) (manager : SenderManager) : Option FanoutAudioFrame :=
  match manager.capture with
  | none => none
  | some capture =>
    match env.tryRecvFrame capture with
    | .ok frame => frame.map fun frame ↦ manager.stamped env frame
    | .error _ => none

/-- Fan-out touches the shared part with the frame for the mirror only. -/
theorem shared_captureAndFanOut (env : ManagerEnv) (manager : SenderManager) :
    (manager.captureAndFanOut env).shared =
      ((manager.capturedFrame env).elim manager fun frame ↦ manager.pushToMirror env frame).shared := by
  rcases hcapture : manager.capture with - | capture
  · simp only [captureAndFanOut, capturedFrame, hcapture, Option.elim_none]
  rcases hframe : env.tryRecvFrame capture with error | - | frame
  · cases error with
    | captureEnded =>
      simp only [captureAndFanOut, capturedFrame, hcapture, hframe, Option.elim_none]
      exact (outside_failAllActiveTargets env _ _).shared
    | _ =>
      simp only [captureAndFanOut, capturedFrame, hcapture, hframe, Option.elim_none]
      exact (outside_failAllActiveTargets env _ _).shared
  · simp only [captureAndFanOut, capturedFrame, hcapture, hframe, Option.map_none, Option.elim_none]
  · simp only [captureAndFanOut, capturedFrame, hcapture, hframe, Option.map_some, Option.elim_some]
    exact (outside_forEachActive env _ _).shared

/-- Starting the capture looks at the shared part alone. -/
theorem shared_ensureCaptureRunning_congr (h : next.shared = manager.shared) :
    (next.ensureCaptureRunning env).1 = (manager.ensureCaptureRunning env).1 ∧
      (next.ensureCaptureRunning env).2.shared = (manager.ensureCaptureRunning env).2.shared := by
  have hsettings : next.captureSettings = manager.captureSettings :=
    congrArg SharedState.captureSettings h
  have hcapture : next.capture = manager.capture := congrArg SharedState.capture h
  have hrequest : next.localMirrorRequest = manager.localMirrorRequest :=
    congrArg SharedState.localMirrorRequest h
  have hbranch : next.localMirrorBranch = manager.localMirrorBranch :=
    congrArg SharedState.localMirrorBranch h
  have hmirror : next.sharedSnapshot.localMirror = manager.sharedSnapshot.localMirror :=
    congrArg SharedState.localMirror h
  refine ⟨ensureCaptureRunning_congr hcapture hsettings hmirror, ?_⟩
  unfold ensureCaptureRunning
  rw [hcapture]
  by_cases hrunning : manager.capture.isSome = true
  · rw [if_pos hrunning, if_pos hrunning]
    exact h
  rw [if_neg hrunning, if_neg hrunning, hsettings]
  rcases env.startCapture manager.captureSettings with error | capture
  · exact h
  · dsimp only
    rw [hmirror]
    split
    · simp only [shared, setLocalMirror, hrequest, hbranch]
    · simp only [shared, hrequest, hbranch, hmirror]

/-- A session that comes in starts the capture for all, if its target is still wanted. -/
theorem shared_handleConnected (env : ManagerEnv) (session : ManagedTargetSession)
    (manager : SenderManager) :
    (manager.handleConnected env session).shared =
      if manager.targets.contains session.target.receiverId then
        (manager.ensureCaptureRunning env).2.shared
      else manager.shared := by
  unfold handleConnected
  split
  next hcontains =>
    obtain ⟨-, hshared⟩ := @shared_ensureCaptureRunning_congr manager
      (manager.insertEntry session.target.receiverId (.active session)) env rfl
    rw [← hshared]
    rcases (manager.insertEntry session.target.receiverId (.active session)).ensureCaptureRunning env
      with ⟨error | ⟨⟩, after⟩
    · exact (outside_failAllActiveTargets env error.display _).shared
    · rfl
  next hcontains => rfl

end SenderManager

/-! ### Steps -/

/-- The session the next result carries, if its target is wanted. -/
def SenderSystem.arrivingSession (system : SenderSystem) : Option ManagedTargetSession :=
  match system.manager.connectRx with
  | (_, .ok session) :: _ =>
    if system.manager.targets.contains session.target.receiverId then some session else none
  | _ => none

/-- A session arrives at the head of the channel, for a target that is still there. -/
theorem arrivingSession_eq_some {system : SenderSystem} {session : ManagedTargetSession}
    (h : system.arrivingSession = some session) :
    ∃ attempt connectRx, system.manager.connectRx = (attempt, .ok session) :: connectRx ∧
      system.manager.targets.contains session.target.receiverId = true := by
  simp only [SenderSystem.arrivingSession] at h
  split at h
  next attempt arriving connectRx hhead =>
    split at h
    next hcontains =>
      obtain rfl := Option.some.inj h
      exact ⟨attempt, connectRx, hhead, hcontains⟩
    · cases h
  · cases h

/-- What a step does to the shared part. -/
def SenderSystem.sharedAfter (system : SenderSystem) : SenderInput → SharedState
  | .command env (.setLocalMirrorEnabled enabled) =>
    (system.manager.setLocalMirrorEnabled env enabled).shared
  | .command env (.setLocalMirrorTarget targetId) =>
    (system.manager.setLocalMirrorTarget env targetId).shared
  | .connectResult env =>
    if system.arrivingSession.isSome then (system.manager.ensureCaptureRunning env).2.shared
    else system.manager.shared
  | .mirrorEvents env => (system.manager.processLocalMirrorEvents env).shared
  | .capture env =>
    ((system.manager.capturedFrame env).elim system.manager fun frame ↦
      system.manager.pushToMirror env frame).shared
  | .idle env => (system.manager.stopCaptureIfIdle env).shared
  | .refresh env => (system.manager.refreshSnapshot env).shared
  | .shutdownAll env => (system.manager.shutdownAll env).shared
  | _ => system.manager.shared

/-- **What a step does to the shared part.** -/
theorem step_shared {secsF64 : SecsF64} {format : WireFormat} {system next : SenderSystem}
    {input : SenderInput} (h : system.step secsF64 format input = some next) :
    next.manager.shared = system.sharedAfter input := by
  cases input with
  | command env command =>
    simp only [SenderSystem.step] at h
    split at h
    next hphase =>
      obtain rfl := Option.some.inj h
      cases command with
      | addTarget target =>
        exact (SenderManager.outside_queueTargetConnect env.now target _).shared
      | removeTarget deviceId => exact (SenderManager.outside_removeTarget deviceId _).shared
      | _ => rfl
    · cases h
  | noCommand =>
    simp only [SenderSystem.step] at h
    split at h
    · obtain rfl := Option.some.inj h
      rfl
    · cases h
  | pendingTargets env =>
    obtain ⟨-, -, rfl⟩ := call_eq_some h
    exact SenderManager.shared_processPendingTargets env _
  | connectResult env =>
    rcases hhead : system.manager.connectRx with - | ⟨⟨attempt, failure | session⟩, connectRx⟩
    · simp only [SenderSystem.step, hhead] at h
      cases h
    · simp only [SenderSystem.step, hhead] at h
      obtain ⟨-, -, rfl⟩ := call_eq_some h
      simp only [SenderSystem.sharedAfter, SenderSystem.arrivingSession, hhead]
      exact (SenderManager.outside_handleFailed env failure _).shared
    · simp only [SenderSystem.step, hhead] at h
      obtain ⟨-, -, rfl⟩ := call_eq_some h
      -- what starts the capture is read from fields that taking the result does not touch
      obtain ⟨-, hshared⟩ := @SenderManager.shared_ensureCaptureRunning_congr system.manager
        (system.manager.received connectRx) env rfl
      refine (SenderManager.shared_handleConnected env session
        (system.manager.received connectRx)).trans ?_
      simp only [SenderSystem.sharedAfter, SenderSystem.arrivingSession, hhead, ← hshared]
      by_cases hcontains : system.manager.targets.contains session.target.receiverId = true
      · rw [if_pos hcontains]
        exact if_pos hcontains
      · rw [if_neg hcontains]
        exact if_neg hcontains
  | noConnectResult =>
    simp only [SenderSystem.step] at h
    split at h
    · obtain rfl := Option.some.inj h
      rfl
    · cases h
  | mirrorEvents env =>
    obtain ⟨-, -, rfl⟩ := call_eq_some h
    rfl
  | tick env =>
    obtain ⟨-, -, rfl⟩ := call_eq_some h
    exact (SenderManager.outside_forEachActive env _ _).shared
  | capture env =>
    obtain ⟨-, -, rfl⟩ := call_eq_some h
    exact SenderManager.shared_captureAndFanOut env _
  | idle env =>
    obtain ⟨-, -, rfl⟩ := call_eq_some h
    rfl
  | refresh env =>
    obtain ⟨-, -, rfl⟩ := call_eq_some h
    rfl
  | shutdownAll env =>
    obtain ⟨-, -, rfl⟩ := call_eq_some h
    rfl
  | connected attempt env =>
    simp only [SenderSystem.step] at h
    split at h
    · obtain rfl := Option.some.inj h
      split <;> rfl
    · cases h

/-! ### The capture -/

namespace SenderManager

/-- A message to the mirror leaves the capture alone. -/
theorem capture_controlMirror (env : ManagerEnv) (control : LocalMirrorControl)
    (manager : SenderManager) :
    (manager.controlMirror env control).capture = manager.capture ∧
      (manager.controlMirror env control).captureSettings = manager.captureSettings := by
  unfold controlMirror
  split <;> exact ⟨rfl, rfl⟩

/-- So does the switch of the mirror. -/
theorem capture_setLocalMirrorEnabled (env : ManagerEnv) (enabled : Bool)
    (manager : SenderManager) :
    (manager.setLocalMirrorEnabled env enabled).capture = manager.capture ∧
      (manager.setLocalMirrorEnabled env enabled).captureSettings = manager.captureSettings := by
  unfold setLocalMirrorEnabled
  dsimp only
  split
  · exact ⟨rfl, rfl⟩
  · split <;> exact capture_controlMirror env _ _

/-- So does the mirror's target. -/
theorem capture_setLocalMirrorTarget (env : ManagerEnv) (targetId : Option String)
    (manager : SenderManager) :
    (manager.setLocalMirrorTarget env targetId).capture = manager.capture ∧
      (manager.setLocalMirrorTarget env targetId).captureSettings = manager.captureSettings := by
  unfold setLocalMirrorTarget
  dsimp only
  split
  · exact capture_controlMirror env _ _
  · exact ⟨rfl, rfl⟩

/-- So does the mirror's frame. -/
theorem capture_pushToMirror (env : ManagerEnv) (frame : FanoutAudioFrame)
    (manager : SenderManager) :
    (manager.pushToMirror env frame).capture = manager.capture ∧
      (manager.pushToMirror env frame).captureSettings = manager.captureSettings := by
  unfold pushToMirror
  dsimp only
  split <;> exact ⟨rfl, rfl⟩

/-- How `ensure_capture_running` leaves the capture: it was running, it was started with the manager's
settings, or it could not be started. -/
theorem capture_ensureCaptureRunning (env : ManagerEnv) (manager : SenderManager) :
    (manager.capture.isSome = true ∧ manager.ensureCaptureRunning env = (.ok (), manager)) ∨
    (manager.capture = none ∧ ∃ capture, env.startCapture manager.captureSettings = .ok capture ∧
      (manager.ensureCaptureRunning env).2.capture = some capture) ∨
    (manager.capture = none ∧ ∃ error, env.startCapture manager.captureSettings = .error error ∧
      manager.ensureCaptureRunning env = (.error (.audio error), manager)) := by
  unfold ensureCaptureRunning
  rcases hcapture : manager.capture with - | capture
  · rw [if_neg (by simp)]
    rcases hstart : env.startCapture manager.captureSettings with error | capture
    · exact Or.inr (Or.inr ⟨rfl, error, rfl, rfl⟩)
    · refine Or.inr (Or.inl ⟨rfl, capture, rfl, ?_⟩)
      dsimp only
      split <;> rfl
  · exact Or.inl ⟨rfl, if_pos rfl⟩

/-- The settings are those of the setup throughout. -/
theorem captureSettings_ensureCaptureRunning (env : ManagerEnv) (manager : SenderManager) :
    (manager.ensureCaptureRunning env).2.captureSettings = manager.captureSettings := by
  unfold ensureCaptureRunning
  split
  · rfl
  split
  · rfl
  dsimp only
  split <;> rfl

/-- Also when the capture stops. -/
theorem captureSettings_stopCaptureIfIdle (env : ManagerEnv) (manager : SenderManager) :
    (manager.stopCaptureIfIdle env).captureSettings = manager.captureSettings := by
  obtain ⟨_, heq⟩ := stopCaptureIfIdle_eq env manager
  rw [heq]
  split <;> rfl

/-- The capture stops when no target is left to capture for. -/
theorem capture_stopCaptureIfIdle (env : ManagerEnv) (manager : SenderManager) :
    (manager.stopCaptureIfIdle env).capture =
      if manager.targets.hasActiveTargets || manager.targets.hasPendingTargets then manager.capture
      else none := by
  obtain ⟨_, heq⟩ := stopCaptureIfIdle_eq env manager
  rw [heq]
  split <;> rfl

/-- The targets are stopped without a look at the shared part. -/
theorem shared_foldl_stopTarget (deviceIds : List DeviceId) (manager : SenderManager) :
    (deviceIds.foldl (fun manager deviceId ↦ manager.stopTarget deviceId) manager).shared =
      manager.shared := by
  refine (Outside.foldl (fun manager deviceId ↦ ?_) deviceIds manager).shared
  rcases stopTarget_eq deviceId manager with ⟨-, hsame⟩ | hremoved
  · rw [hsame]
    exact .refl manager
  · rw [hremoved]
    exact outside_removeTarget deviceId manager

/-- Behind the end there is no capture. -/
theorem shared_shutdownAll (env : ManagerEnv) (manager : SenderManager) :
    (manager.shutdownAll env).capture = none ∧
      (manager.shutdownAll env).captureSettings = manager.captureSettings := by
  have hshared := shared_foldl_stopTarget (manager.targets.activeIds env.order)
    { manager with capture := none }
  exact ⟨congrArg SharedState.capture hshared, congrArg SharedState.captureSettings hshared⟩

end SenderManager

/-- What a step does to the capture. -/
def SenderSystem.captureAfter (system : SenderSystem) : SenderInput → Option CaptureHandle
  | .connectResult env =>
    if system.arrivingSession.isSome then (system.manager.ensureCaptureRunning env).2.capture
    else system.manager.capture
  | .idle _ =>
    if system.manager.targets.hasActiveTargets || system.manager.targets.hasPendingTargets then
      system.manager.capture
    else none
  | .shutdownAll _ => none
  | _ => system.manager.capture

/-- **What a step does to the capture**, and that the settings stay what they are. -/
theorem step_capture {secsF64 : SecsF64} {format : WireFormat} {system next : SenderSystem}
    {input : SenderInput} (h : system.step secsF64 format input = some next) :
    next.manager.capture = system.captureAfter input ∧
      next.manager.captureSettings = system.manager.captureSettings := by
  have hcapture : next.manager.capture = (system.sharedAfter input).capture :=
    congrArg SharedState.capture (step_shared h)
  have hsettings : next.manager.captureSettings = (system.sharedAfter input).captureSettings :=
    congrArg SharedState.captureSettings (step_shared h)
  rw [hcapture, hsettings]
  cases input with
  | command env command =>
    cases command with
    | setLocalMirrorEnabled enabled =>
      exact SenderManager.capture_setLocalMirrorEnabled env enabled system.manager
    | setLocalMirrorTarget targetId =>
      exact SenderManager.capture_setLocalMirrorTarget env targetId system.manager
    | _ => exact ⟨rfl, rfl⟩
  | connectResult env =>
    simp only [SenderSystem.sharedAfter, SenderSystem.captureAfter]
    split
    · exact ⟨rfl, SenderManager.captureSettings_ensureCaptureRunning env system.manager⟩
    · exact ⟨rfl, rfl⟩
  | capture env =>
    simp only [SenderSystem.sharedAfter, SenderSystem.captureAfter]
    rcases system.manager.capturedFrame env with - | frame
    · exact ⟨rfl, rfl⟩
    · exact SenderManager.capture_pushToMirror env frame system.manager
  | idle env =>
    exact ⟨SenderManager.capture_stopCaptureIfIdle env system.manager,
      SenderManager.captureSettings_stopCaptureIfIdle env system.manager⟩
  | shutdownAll env => exact SenderManager.shared_shutdownAll env system.manager
  | _ => exact ⟨rfl, rfl⟩

end SynchroSonic
