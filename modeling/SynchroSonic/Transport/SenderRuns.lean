import SynchroSonic.Machine.Transition
import SynchroSonic.Transport.Receiver
import SynchroSonic.Transport.SenderManager

/-!
# The runs of the sender manager

`SenderSystem` is the manager's thread, at one of the points of its loop, with the connect threads
beside it. One step is one turn of a `while let` loop or one of the calls in the body of `run`; at any
time in between a connect thread may finish.

A command is an input of its own, since the user may have sent anything. That the loop goes on means
that the channel in front of it was found empty. Once the manager has ended, nobody receives what the
connect threads report.
-/

namespace SynchroSonic

/-- Where the manager's thread is. -/
inductive ManagerPhase
  | commands
  | pendingTargets
  | connectResults
  | mirrorEvents
  | ticking
  | capturing
  | idling
  | refreshing
  | stopping
  | ended
  deriving DecidableEq, Repr

/-- The manager's thread. -/
structure SenderSystem where
  phase : ManagerPhase
  manager : SenderManager

/-- One step of the manager, or the end of a connect thread. -/
inductive SenderInput
  | command (env : ManagerEnv) (command : SenderCommand)
  | noCommand
  | pendingTargets (env : ManagerEnv)
  | connectResult (env : ManagerEnv)
  | noConnectResult
  | mirrorEvents (env : ManagerEnv)
  | tick (env : ManagerEnv)
  | capture (env : ManagerEnv)
  | idle (env : ManagerEnv)
  | refresh (env : ManagerEnv)
  | shutdownAll (env : ManagerEnv)
  | connected (attempt : ConnectAttempt) (env : ConnectEnv)

/-- What a connect thread comes back with. -/
def ConnectAttempt.result (secsF64 : SecsF64) (format : WireFormat) (env : ConnectEnv)
    (attempt : ConnectAttempt) : TargetConnectResult :=
  ManagedTargetSession.connect secsF64 format env ⟨attempt.attempt⟩ attempt.target
    attempt.attemptCount attempt.request

/-- Inputs that start no attempt, end none and put no entry in the collection. -/
def SenderInput.isQuiet : SenderInput → Bool
  | .command _ (.addTarget _) | .pendingTargets _ | .connectResult _ | .shutdownAll _
  | .connected _ _ => false
  | _ => true

namespace SenderManager

/-- A walk through the collection meets every key once. -/
def WalkedBy (manager : SenderManager) (env : ManagerEnv) : Prop :=
  env.order.Perm manager.targets.entries.keys

instance (manager : SenderManager) (env : ManagerEnv) : Decidable (manager.WalkedBy env) :=
  inferInstanceAs (Decidable (env.order.Perm manager.targets.entries.keys))

/-- A connect thread has its result. -/
def reported (attempt : ConnectAttempt) (result : TargetConnectResult) (manager : SenderManager) :
    SenderManager :=
  { manager with
    threads := manager.threads.erase attempt
    opened := manager.opened ++ streamsOf result }

/-- The result goes into the channel. -/
def sent (attempt : ConnectAttempt) (result : TargetConnectResult) (manager : SenderManager) :
    SenderManager :=
  { manager.reported attempt result with connectRx := manager.connectRx ++ [(attempt, result)] }

/-- Nobody listens at the other end: the result is dropped. -/
def unsent (attempt : ConnectAttempt) (result : TargetConnectResult) (manager : SenderManager) :
    SenderManager :=
  { manager.reported attempt result with dropped := manager.dropped ++ streamsOf result }

/-- The result at the head of the channel is taken out. -/
def received (connectRx : List (ConnectAttempt × TargetConnectResult)) (manager : SenderManager) :
    SenderManager :=
  { manager with connectRx }

end SenderManager

namespace SenderSystem

/-- The thread `LanSenderSession::start` spawns: it queues the first target and enters the loop. -/
def start (secsF64 : SecsF64) (setup : SenderSetup) (now : Instant) (target : SenderTarget) :
    SenderSystem where
  phase := .commands
  manager := (SenderManager.new secsF64 setup).queueTargetConnect now target

/-- The call that is made in a phase, and the phase behind it. -/
def call (system : SenderSystem) (phase next : ManagerPhase) (env : ManagerEnv)
    (body : ManagerEnv → SenderManager → SenderManager) : Option SenderSystem :=
  if system.phase = phase ∧ system.manager.WalkedBy env then
    some ⟨next, body env system.manager⟩
  else none

/-- One step. -/
def step (secsF64 : SecsF64) (format : WireFormat) (system : SenderSystem) :
    SenderInput → Option SenderSystem
  | .command env command =>
    if system.phase = .commands then
      some ⟨if command = .shutdown then .stopping else .commands,
        system.manager.processCommand env command⟩
    else none
  | .noCommand =>
    if system.phase = .commands then some ⟨.pendingTargets, system.manager⟩ else none
  | .pendingTargets env =>
    system.call .pendingTargets .connectResults env SenderManager.processPendingTargets
  | .connectResult env =>
    match system.manager.connectRx with
    | [] => none
    | (_, result) :: connectRx =>
      system.call .connectResults .connectResults env fun env manager ↦
        (manager.received connectRx).processConnectResult env result
  | .noConnectResult =>
    if system.phase = .connectResults ∧ system.manager.connectRx.isEmpty then
      some ⟨.mirrorEvents, system.manager⟩
    else none
  | .mirrorEvents env =>
    system.call .mirrorEvents .ticking env SenderManager.processLocalMirrorEvents
  | .tick env => system.call .ticking .capturing env SenderManager.tickTargets
  | .capture env => system.call .capturing .idling env SenderManager.captureAndFanOut
  | .idle env => system.call .idling .refreshing env SenderManager.stopCaptureIfIdle
  | .refresh env => system.call .refreshing .commands env SenderManager.refreshSnapshot
  | .shutdownAll env => system.call .stopping .ended env SenderManager.shutdownAll
  | .connected attempt env =>
    if attempt ∈ system.manager.threads then
      let result := attempt.result secsF64 format env
      some ⟨system.phase,
        -- the receiving end is gone with the manager: the result is dropped in the thread
        if system.phase = .ended then system.manager.unsent attempt result
        else system.manager.sent attempt result⟩
    else none

end SenderSystem

/-! ### A sender and a receiver -/

namespace Sample

/-- Packets of ten milliseconds. -/
def secsF64 : SecsF64 := fun _ _ ↦ 10000000

def receiverId : DeviceId := ⟨"receiver-1"⟩

def senderTarget (port : UInt16) : SenderTarget :=
  ⟨receiverId, "receiver", ⟨receiverId, ⟨.v4 0x7f000001, port⟩⟩⟩

def senderSetup : SenderSetup :=
  { senderName := "sender", managerSessionId := "sender-0", backendName := "mock" }

def connectRequest : TargetConnectRequest := (SenderManager.new secsF64 senderSetup).connectRequest

/-- What an attempt at time 0 says to the receiver. -/
def senderHello : HelloMessage :=
  .new "sender-0-receiver-1-0" "sender" connectRequest.streamConfig .balanced 150 1000

def senderHelloJson : List String :=
  ["\x7b\"protocol_version\":1,", "\"session_id\":\"sender-0-receiver-1-0\",",
    "\"sender_name\":\"sender\",", "\"supported_codecs\":[\"RawPcm\"],",
    "\"desired_codec\":\"RawPcm\","] ++ streamJson ++
  ["\"quality\":\"Balanced\",", "\"target_latency_ms\":150,", "\"keepalive_interval_ms\":1000\x7d"]

def senderAcceptJson : List String :=
  ["\x7b\"protocol_version\":1,", "\"session_id\":\"sender-0-receiver-1-0\",",
    "\"receiver_name\":\"receiver\",", "\"codec\":\"RawPcm\","] ++ streamJson ++
  ["\"keepalive_interval_ms\":1000,", "\"receiver_latency_ms\":150\x7d"]

def senderFormat : WireFormat :=
  { format with
    hello := .single senderHello senderHelloJson
    accept := .single (acceptFor args senderHello) senderAcceptJson }

/-- The collection holds one target. -/
def managerEnv : ManagerEnv := { order := [receiverId] }

/-- The receiver accepts. -/
def accepted : ConnectEnv where
  nowUnixMs := 0
  connectTimeout _ _ := .ok ()
  setNodelay := .ok ()
  writer := .empty
  reader := ReadScript.ofList
    (encodeFrame ⟨.accept, SerdeJson.asciiBytes senderAcceptJson, []⟩)
  writerClone := .ok ()
  readerClone := .ok ()
  lastHeartbeat := 0
  startedAt := 0

/-- Nobody listens. -/
def refused : ConnectEnv :=
  { accepted with connectTimeout := fun _ _ ↦ .error ⟨.connectionRefused, "refused"⟩ }

end Sample

/-- A session is opened and lives through one iteration, in which the capture may end. -/
def openedTarget (capture : ManagerEnv) : List SenderInput :=
  [.noCommand, .pendingTargets Sample.managerEnv,
    .connected ⟨0, Sample.senderTarget 1, 1, Sample.connectRequest⟩ Sample.accepted,
    .connectResult Sample.managerEnv, .noConnectResult, .mirrorEvents Sample.managerEnv,
    .tick Sample.managerEnv, .capture capture, .idle Sample.managerEnv, .refresh Sample.managerEnv]

end SynchroSonic
