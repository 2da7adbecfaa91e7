import SynchroSonic.Transport.SharedState

/-!
# The sender session

`LanSenderSession` is what the rest of the program holds. It spawns the manager's thread with the first
target and sends it commands afterwards; the two share the published snapshot. `stop` sends `Shutdown`
and waits for the thread, so no other call is made before the thread has ended.

A session outlives its casts. While the thread is alive, `start` only adds a target, and the manager
goes on with the capture settings it was built from.
-/

namespace SynchroSonic

/-- `LanSenderSession`, the channel of its commands and the manager's thread. -/
structure LanSenderSession where
  config : TransportConfig := {}
  /-- `playback_engine.backend_name()`. -/
  backendName : String
  localPlaybackTargetId : Option String := none
  localDeviceId : Option DeviceId := none
  snapshot : StreamSessionSnapshot
  /-- `control_tx` is there. -/
  connected : Bool := false
  /-- The commands on their way, oldest first. -/
  commands : List SenderCommand := []
  worker : Option SenderSystem := none
  /-- The settings of the last `start` that returned `Ok`; only proofs look at that. -/
  accepted : Option CaptureSettings := none

/-- A call on the session, the end of a `stop`, or a step of the manager's thread. -/
inductive SessionInput
  | start (now : Instant) (nowUnixMs : ℕ) (captureSettings : CaptureSettings)
      (target : SenderTarget) (senderName : String)
  | stopTarget (deviceId : DeviceId)
  | setLocalPlaybackEnabled (enabled : Bool)
  | setLocalPlaybackTarget (targetId : Option String)
  | setLocalDeviceId (deviceId : DeviceId)
  | setQualityPreset (quality : QualityPreset)
  | stop
  | joined
  | manager (input : SenderInput)

/-- The manager sees the snapshot the session shares with it. -/
def SenderSystem.sharing (snapshot : StreamSessionSnapshot) (system : SenderSystem) : SenderSystem :=
  { system with manager := { system.manager with snapshot } }

namespace LanSenderSession

/-- `LanSenderSession::with_playback_engine`. -/
def new (config : TransportConfig) (backendName : String) : LanSenderSession where
  config := config
  backendName := backendName
  snapshot := { localMirror := { playbackBackend := some backendName } }

/-- The thread still holds the other end of the channel. -/
def listened (session : LanSenderSession) : Bool :=
  session.worker.any fun system ↦ decide (system.phase ≠ .ended)

/-- Send a command. -/
def send (command : SenderCommand) (session : LanSenderSession) :
    Except TransportError Unit × LanSenderSession :=
  if session.listened then (.ok (), { session with commands := session.commands ++ [command] })
  else (.error .channelClosed, session)

/-- Send a command, if there is a thread. -/
def sendIfConnected (command : SenderCommand) (session : LanSenderSession) :
    Except TransportError Unit × LanSenderSession :=
  if session.connected then session.send command else (.ok (), session)

/-- The snapshot `start` publishes before it spawns the thread. -/
def seededSnapshot (managerSessionId : String) (captureSettings : CaptureSettings)
    (target : SenderTarget) (session : LanSenderSession) : StreamSessionSnapshot where
  sessionId := some managerSessionId
  stream := some (receiverStreamConfig captureSettings)
  localMirror :=
    { desiredEnabled := captureSettings.outputs.localMonitoring
      playbackTargetId := session.localPlaybackTargetId
      state := if captureSettings.outputs.localMonitoring then .idle else .disabled
      playbackBackend := some session.backendName }
  targets := [pendingTargetSnapshot target 0]
  state := .connecting

/-- `start` without a thread: one is spawned. -/
def spawn (secsF64 : SecsF64) (now : Instant) (nowUnixMs : ℕ) (captureSettings : CaptureSettings)
    (target : SenderTarget) (senderName : String) (session : LanSenderSession) :
    LanSenderSession :=
  let managerSessionId := "sender-" ++ toString nowUnixMs
  let snapshot := session.seededSnapshot managerSessionId captureSettings target
  let setup : SenderSetup :=
    { config := session.config
      captureSettings
      senderName
      managerSessionId
      localPlaybackTargetId := session.localPlaybackTargetId
      localDeviceId := session.localDeviceId
      backendName := session.backendName
      snapshot }
  { session with
    snapshot
    connected := true
    commands := []
    worker := some (SenderSystem.start secsF64 setup now target)
    accepted := some captureSettings }

/-- The running cast has another stream shape than these settings. -/
def changesStream (captureSettings : CaptureSettings) (session : LanSenderSession) : Bool :=
  session.snapshot.stream.any fun currentStream ↦
    decide (currentStream ≠ receiverStreamConfig captureSettings)

/-- `LanSenderSession::start`. -/
def start (secsF64 : SecsF64) (now : Instant) (nowUnixMs : ℕ) (captureSettings : CaptureSettings)
    (target : SenderTarget) (senderName : String) (session : LanSenderSession) :
    Except TransportError Unit × LanSenderSession :=
  if session.connected then
    if session.changesStream captureSettings then
      (.error (.negotiation ("changing capture stream parameters while the sender manager is active "
        ++ "is not supported")), session)
    else
      match session.send (.addTarget target) with
      | (.error error, session) => (.error error, session)
      | (.ok (), session) => (.ok (), { session with accepted := some captureSettings })
  else (.ok (), session.spawn secsF64 now nowUnixMs captureSettings target senderName)

/-- `LanSenderSession::stop_target`. -/
def stopTarget (deviceId : DeviceId) (session : LanSenderSession) :
    Except TransportError Unit × LanSenderSession :=
  if session.connected then session.send (.removeTarget deviceId) else (.error .notRunning, session)

/-- `LanSenderSession::set_local_playback_enabled`. -/
def setLocalPlaybackEnabled (enabled : Bool) (session : LanSenderSession) :
    Except TransportError Unit × LanSenderSession :=
  match session.sendIfConnected (.setLocalMirrorEnabled enabled) with
  | (.error error, session) => (.error error, session)
  | (.ok (), session) =>
    let localMirror := { session.snapshot.localMirror with
      desiredEnabled := enabled
      state :=
        if session.snapshot.state = .idle then if enabled then .idle else .disabled
        else session.snapshot.localMirror.state }
    let localMirror :=
      if enabled ∧ localMirror.state = .disabled then
        { localMirror with
          state := .starting
          lastError := none }
      else localMirror
    (.ok (), { session with snapshot := { session.snapshot with localMirror } })

/-- `LanSenderSession::set_local_playback_target`. -/
def setLocalPlaybackTarget (targetId : Option String) (session : LanSenderSession) :
    Except TransportError Unit × LanSenderSession :=
  match { session with localPlaybackTargetId := targetId }.sendIfConnected
      (.setLocalMirrorTarget targetId) with
  | (.error error, session) => (.error error, session)
  | (.ok (), session) =>
    (.ok (), { session with snapshot := { session.snapshot with
      localMirror := { session.snapshot.localMirror with
        playbackTargetId := targetId
        lastError := none } } })

/-- `LanSenderSession::set_local_device_id`, whose message may get lost. -/
def setLocalDeviceId (deviceId : DeviceId) (session : LanSenderSession) : LanSenderSession :=
  ({ session with localDeviceId := some deviceId }.sendIfConnected (.setLocalDeviceId deviceId)).2

/-- `LanSenderSession::set_quality_preset`. -/
def setQualityPreset (quality : QualityPreset) (session : LanSenderSession) :
    Except TransportError Unit × LanSenderSession :=
  { session with config := { session.config with quality } }.sendIfConnected
    (.setQualityPreset quality)

/-- The end of `stop`, when the thread has been joined. -/
def stopped (session : LanSenderSession) : LanSenderSession :=
  { session with
    commands := []
    worker := none
    snapshot := { session.snapshot with
      state := .idle
      targets := []
      localMirror := finalizeLocalMirrorState session.snapshot.localMirror false } }

/-- `LanSenderSession::stop`, up to the point where it waits for the thread. -/
def stop (session : LanSenderSession) : LanSenderSession :=
  let session := { (session.sendIfConnected .shutdown).2 with connected := false }
  if session.worker.isSome then session else session.stopped

/-- A `stop` waits for the thread. -/
def stopping (session : LanSenderSession) : Bool := !session.connected && session.worker.isSome

/-- The commands that are left when the manager has looked into the channel. -/
def receive (session : LanSenderSession) : SenderInput → Option (List SenderCommand)
  | .command _ command =>
    match session.commands with
    | [] => none
    | head :: commands => if command = head then some commands else none
  | .noCommand => if session.commands.isEmpty then some [] else none
  | _ => some session.commands

/-- A call of the program, which `stop` does not let in while it waits. -/
def call (session : LanSenderSession) (body : LanSenderSession → LanSenderSession) :
    Option LanSenderSession :=
  if session.stopping then none else some (body session)

/-- One step. -/
def step (secsF64 : SecsF64) (format : WireFormat) (session : LanSenderSession) :
    SessionInput → Option LanSenderSession
  | .start now nowUnixMs captureSettings target senderName => session.call fun session ↦
    (session.start secsF64 now nowUnixMs captureSettings target senderName).2
  | .stopTarget deviceId => session.call fun session ↦ (session.stopTarget deviceId).2
  | .setLocalPlaybackEnabled enabled => session.call fun session ↦
    (session.setLocalPlaybackEnabled enabled).2
  | .setLocalPlaybackTarget targetId => session.call fun session ↦
    (session.setLocalPlaybackTarget targetId).2
  | .setLocalDeviceId deviceId => session.call fun session ↦ session.setLocalDeviceId deviceId
  | .setQualityPreset quality => session.call fun session ↦ (session.setQualityPreset quality).2
  | .stop => session.call stop
  | .joined =>
    if session.stopping ∧ session.listened = false then some session.stopped else none
  | .manager input =>
    match session.worker, session.receive input with
    | some system, some commands =>
      ((system.sharing session.snapshot).step secsF64 format input).map fun next ↦
        { session with
          commands
          snapshot := next.manager.snapshot
          worker := some next }
    | _, _ => none

end LanSenderSession

/-! ### The calls of `start_capture` -/

/-- What `ensure_capture_running` passes to `start_capture`, if it calls it. -/
def SenderManager.captureCall (manager : SenderManager) : Option CaptureSettings :=
  if manager.capture.isSome then none else some manager.captureSettings

/-- What a step of the manager passes to `start_capture`: only a connection that is wanted makes it
look for the capture. -/
def SenderSystem.captureCall (system : SenderSystem) : SenderInput → Option CaptureSettings
  | .connectResult _ => if system.arrivingSession.isSome then system.manager.captureCall else none
  | _ => none

def LanSenderSession.captureCall (session : LanSenderSession) :
    SessionInput → Option CaptureSettings
  | .manager input => session.worker.bind fun system ↦ system.captureCall input
  | _ => none

/-- Nothing else is asked of `start_capture`. -/
theorem SenderManager.ensureCaptureRunning_startCapture {env : ManagerEnv}
    {startCapture : CaptureSettings → Except AudioError CaptureHandle} {manager : SenderManager}
    (h : ∀ settings ∈ manager.captureCall, startCapture settings = env.startCapture settings) :
    manager.ensureCaptureRunning { env with startCapture } = manager.ensureCaptureRunning env := by
  unfold ensureCaptureRunning
  by_cases hrunning : manager.capture.isSome = true
  · rw [if_pos hrunning, if_pos hrunning]
  · have hcall : manager.captureCall = some manager.captureSettings := if_neg hrunning
    have hsame : ({ env with startCapture } : ManagerEnv).startCapture manager.captureSettings =
        env.startCapture manager.captureSettings := h _ hcall
    rw [if_neg hrunning, if_neg hrunning, hsame]

/-- A step of the manager finds out no more than what it passes to `start_capture`. -/
theorem step_startCapture {secsF64 : SecsF64} {format : WireFormat} {system : SenderSystem}
    {env : ManagerEnv} {startCapture : CaptureSettings → Except AudioError CaptureHandle}
    (h : ∀ settings ∈ system.captureCall (.connectResult env),
      startCapture settings = env.startCapture settings) :
    system.step secsF64 format (.connectResult { env with startCapture }) =
      system.step secsF64 format (.connectResult env) := by
  rcases hhead : system.manager.connectRx with - | ⟨⟨attempt, failure | session⟩, connectRx⟩
  · simp only [SenderSystem.step, hhead]
  · simp only [SenderSystem.step, hhead]
    rfl
  · simp only [SenderSystem.step, hhead]
    have hresult : (system.manager.received connectRx).processConnectResult
        { env with startCapture } (.ok session) =
        (system.manager.received connectRx).processConnectResult env (.ok session) := by
      simp only [SenderManager.processConnectResult, SenderManager.handleConnected]
      split
      next hcontains =>
        have hcontains : system.manager.targets.contains session.target.receiverId = true := hcontains
        simp only [SenderSystem.captureCall, SenderSystem.arrivingSession, hhead, hcontains, if_true,
          Option.isSome_some] at h
        rw [@SenderManager.ensureCaptureRunning_startCapture env startCapture
          ((system.manager.received connectRx).insertEntry session.target.receiverId
            (.active session)) h]
        rfl
      · rfl
    unfold SenderSystem.call
    dsimp only
    rw [hresult]
    rfl

/-! ### The settings that were accepted -/

namespace LanSenderSession

variable {secsF64 : SecsF64} {format : WireFormat}

/-- A `start` that reuses the manager passes the settings the manager was built from. One that is not
let in, because it would change the stream shape, may pass any. -/
def ReusesAlike (session : LanSenderSession) : SessionInput → Prop
  | .start _ _ captureSettings _ _ =>
    session.connected = true → session.changesStream captureSettings = false →
      ∀ system ∈ session.worker, captureSettings = system.manager.captureSettings
  | _ => True

/-- The manager captures with the settings accepted last. -/
def CapturesAccepted (session : LanSenderSession) (input : SessionInput) : Prop :=
  ∀ settings ∈ session.captureCall input, session.accepted = some settings

/-- The settings accepted last are those of the manager. -/
def Tracks (session : LanSenderSession) : Prop :=
  ∀ system ∈ session.worker, session.accepted = some system.manager.captureSettings

theorem send_worker (command : SenderCommand) (session : LanSenderSession) :
    (session.send command).2.worker = session.worker ∧
      (session.send command).2.accepted = session.accepted := by
  unfold send
  split <;> exact ⟨rfl, rfl⟩

theorem sendIfConnected_worker (command : SenderCommand) (session : LanSenderSession) :
    (session.sendIfConnected command).2.worker = session.worker ∧
      (session.sendIfConnected command).2.accepted = session.accepted := by
  unfold sendIfConnected
  split
  · exact send_worker command session
  · exact ⟨rfl, rfl⟩

/-- A change that keeps the manager and what was accepted. -/
theorem Tracks.of_worker {session next : LanSenderSession} (h : session.Tracks)
    (hworker : next.worker = session.worker ∧ next.accepted = session.accepted) : next.Tracks := by
  obtain ⟨hworker, haccepted⟩ := hworker
  rw [Tracks, hworker, haccepted]
  exact h

theorem tracks_stopped (session : LanSenderSession) : session.stopped.Tracks :=
  fun _ hmem ↦ absurd hmem (Option.not_mem_none _)

theorem Tracks.start {session : LanSenderSession} (h : session.Tracks) {now : Instant}
    {nowUnixMs : ℕ} {captureSettings : CaptureSettings} {target : SenderTarget} {senderName : String}
    (hreuses : session.ReusesAlike (.start now nowUnixMs captureSettings target senderName)) :
    (session.start secsF64 now nowUnixMs captureSettings target senderName).2.Tracks := by
  unfold LanSenderSession.start
  split
  next hconnected =>
    split
    · exact h
    next hchanges =>
      have hsent := send_worker (.addTarget target) session
      rcases hsend : session.send (.addTarget target) with ⟨error | ⟨⟩, sent⟩
      · rw [hsend] at hsent
        exact h.of_worker hsent
      · rw [hsend] at hsent
        intro system hmem
        have hmem : system ∈ session.worker := hsent.1 ▸ hmem
        exact congrArg some (hreuses hconnected (Bool.eq_false_iff.2 hchanges) system hmem)
  · intro system hmem
    obtain rfl := Option.some.inj hmem
    simp only [spawn, SenderSystem.start]
    rw [(SenderManager.outside_queueTargetConnect now target _)]
    rfl

theorem Tracks.stop {session : LanSenderSession} (h : session.Tracks) : session.stop.Tracks := by
  unfold LanSenderSession.stop
  dsimp only
  split
  · exact h.of_worker (sendIfConnected_worker .shutdown session)
  · exact tracks_stopped _

/-- **A step that reuses the manager alike keeps track of its settings.** -/
theorem tracks_step {session next : LanSenderSession} {input : SessionInput} (h : session.Tracks)
    (hreuses : session.ReusesAlike input) (hstep : session.step secsF64 format input = some next) :
    next.Tracks := by
  have hcall {body : LanSenderSession → LanSenderSession} (hstep : session.call body = some next)
      (hbody : (body session).Tracks) : next.Tracks := by
    unfold call at hstep
    split at hstep
    · cases hstep
    · obtain rfl := Option.some.inj hstep
      exact hbody
  cases input with
  | start now nowUnixMs captureSettings target senderName =>
    simp only [step] at hstep
    exact hcall hstep (h.start hreuses)
  | stopTarget deviceId =>
    simp only [step] at hstep
    refine hcall hstep (h.of_worker ?_)
    unfold stopTarget
    split
    · exact send_worker _ session
    · exact ⟨rfl, rfl⟩
  | setLocalPlaybackEnabled enabled =>
    simp only [step] at hstep
    refine hcall hstep (h.of_worker ?_)
    unfold setLocalPlaybackEnabled
    have hsent := sendIfConnected_worker (.setLocalMirrorEnabled enabled) session
    rcases hsend : session.sendIfConnected (.setLocalMirrorEnabled enabled) with ⟨error | ⟨⟩, sent⟩
    · rw [hsend] at hsent
      exact hsent
    · rw [hsend] at hsent
      exact hsent
  | setLocalPlaybackTarget targetId =>
    simp only [step] at hstep
    refine hcall hstep (h.of_worker ?_)
    unfold setLocalPlaybackTarget
    split
    next error sent hsend =>
      rw [← congrArg Prod.snd hsend]
      exact sendIfConnected_worker (.setLocalMirrorTarget targetId) _
    next sent hsend =>
      have hsent := sendIfConnected_worker (.setLocalMirrorTarget targetId)
        { session with localPlaybackTargetId := targetId }
      rw [congrArg Prod.snd hsend] at hsent
      exact hsent
  | setLocalDeviceId deviceId =>
    simp only [step] at hstep
    exact hcall hstep (h.of_worker (sendIfConnected_worker (.setLocalDeviceId deviceId) _))
  | setQualityPreset quality =>
    simp only [step] at hstep
    refine hcall hstep (h.of_worker ?_)
    exact sendIfConnected_worker (.setQualityPreset quality) _
  | stop => exact hcall hstep h.stop
  | joined =>
    simp only [step] at hstep
    split at hstep
    · obtain rfl := Option.some.inj hstep
      exact tracks_stopped session
    · cases hstep
  | manager input =>
    simp only [step] at hstep
    split at hstep
    next system commands hworker hreceive =>
      obtain ⟨after, hafter, rfl⟩ := Option.map_eq_some_iff.1 hstep
      obtain ⟨-, hsettings⟩ := step_capture hafter
      intro system' hmem
      obtain rfl := Option.some.inj hmem
      rw [hsettings]
      exact h system hworker
    · cases hstep

/-- **Where every reuse is alike, the manager captures with the settings accepted last.** -/
theorem captures_accepted (secsF64 : SecsF64) (format : WireFormat) (config : TransportConfig)
    (backendName : String) (inputs : List SessionInput)
    (hreuses : Transition.Along (step secsF64 format) ReusesAlike (new config backendName) inputs) :
    Transition.Along (step secsF64 format) CapturesAccepted (new config backendName) inputs := by
  refine @Transition.along_of_invariant _ _ _ _ _ Tracks (fun _ _ _ ↦ tracks_step)
    (fun session input h _ ↦ ?_) _ _ (fun _ hmem ↦ absurd hmem (Option.not_mem_none _)) hreuses
  intro settings hcall
  cases input with
  | manager input =>
    obtain ⟨system, hworker, hcall⟩ := Option.bind_eq_some_iff.1 hcall
    have hsettings : settings = system.manager.captureSettings := by
      cases input with
      | connectResult env =>
        simp only [SenderSystem.captureCall, SenderManager.captureCall] at hcall
        split at hcall
        · split at hcall
          · cases hcall
          · exact (Option.some.inj hcall).symm
        · cases hcall
      | _ => cases hcall
    rw [hsettings]
    exact h system hworker
  | _ => cases hcall

/-! ### Two sources -/

end LanSenderSession

namespace Sample

def sourced (sourceId : String) : CaptureSettings := { sourceId := some sourceId }

def startFrom (sourceId : String) : SessionInput :=
  .start 0 0 (sourced sourceId) (senderTarget 1) "sender"

/-- An iteration of the manager that finds nothing to do and an empty collection. -/
def idleIteration : List SenderInput :=
  [.noCommand, .pendingTargets {}, .noConnectResult, .mirrorEvents {}, .tick {}, .capture {},
    .idle {}, .refresh {}]

/-- A cast of this source, up to the end of its first iteration. -/
def castFrom (sourceId : String) : List SessionInput :=
  startFrom sourceId :: (openedTarget managerEnv).map .manager

/-- A cast of one source whose target is removed; then a cast of another source, up to its
connection. -/
def recast : List SessionInput :=
  castFrom "monitor-a" ++
    [.stopTarget receiverId, .manager (.command {} (.removeTarget receiverId))] ++
    idleIteration.map .manager ++
    [startFrom "monitor-b", .manager (.command {} (.addTarget (senderTarget 1)))] ++
    [SenderInput.noCommand, .pendingTargets managerEnv,
      .connected ⟨1, senderTarget 1, 1, connectRequest⟩ accepted].map .manager

end Sample

namespace LanSenderSession

/-- A single cast captures with its own settings. -/
theorem captures_accepted_one_cast :
    Transition.Along (step Sample.secsF64 Sample.senderFormat) CapturesAccepted
      (new {} "mock") (Sample.castFrom "monitor-a") := by
  refine captures_accepted _ _ _ _ _ ⟨fun hconnected ↦ ?_, fun session _ ↦
    Transition.along_of_forall (fun input hmem session ↦ ?_) session⟩
  · cases hconnected
  · obtain ⟨input, -, rfl⟩ := List.mem_map.1 hmem
    trivial

/-- **The wrong source.** The second cast was accepted, and the capture that its connection starts is
that of the first. -/
theorem captures_first_source :
    ((Transition.run (step Sample.secsF64 Sample.senderFormat) (new {} "mock") Sample.recast).map
        fun session ↦ (session.accepted,
          session.captureCall (.manager (.connectResult Sample.managerEnv)),
          (session.step Sample.secsF64 Sample.senderFormat
            (.manager (.connectResult Sample.managerEnv))).isSome)) =
      some (some (Sample.sourced "monitor-b"), some (Sample.sourced "monitor-a"), true) := by
  decide +kernel

end LanSenderSession

end SynchroSonic
