import Mathlib.Data.List.AList
import SynchroSonic.Core.Config
import SynchroSonic.Transport.Fanout
import SynchroSonic.Transport.Messages

/-!
# The session with one target

`ManagedTargetSession.connect` opens a TCP stream, says `Hello` and waits for `Accept`; `tick` and
`pushFrame` are what the manager does to an open session. What a session finds around it — the clock,
the socket, what its reader and writer threads report — is an argument.

A stream is named after the connection attempt that opened it, so that two sessions are never taken for
one another.
-/

namespace SynchroSonic

def MIN_BRANCH_QUEUE_PACKETS : ℕ := 4

def BRANCH_QUEUE_HEADROOM_PACKETS : ℕ := 2

def MAX_BRANCH_QUEUE_PACKETS : ℕ := 64

def MAX_CONNECT_ATTEMPTS : ℕ := 3

/-- `SenderTarget`. -/
structure SenderTarget where
  receiverId : DeviceId
  receiverName : String
  endpoint : TransportEndpoint
  deriving DecidableEq, Repr

/-- `TargetConnectRequest`. -/
structure TargetConnectRequest where
  managerSessionId : String
  senderName : String
  streamConfig : ReceiverStreamConfig
  connectTimeout : Duration
  quality : QualityPreset
  targetLatencyMs : UInt16
  heartbeatIntervalMs : UInt16
  localDeviceId : Option DeviceId
  deriving DecidableEq, Repr

/-- `TargetConnectFailure`. -/
structure TargetConnectFailure where
  target : SenderTarget
  snapshot : StreamTargetSnapshot
  failureKind : StreamTargetFailureKind
  retryable : Bool
  deriving DecidableEq, Repr

/-- `pending_target_snapshot`. -/
def pendingTargetSnapshot (target : SenderTarget) (attemptCount : ℕ) : StreamTargetSnapshot where
  receiverId := target.receiverId
  receiverName := target.receiverName
  endpoint := target.endpoint.address
  state := .connecting
  health := .pending
  attemptCount := attemptCount

/-- `connect_failure`. -/
def connectFailure (target : SenderTarget) (snapshot : StreamTargetSnapshot)
    (failureKind : StreamTargetFailureKind) (message : String) (retryable : Bool) :
    TargetConnectFailure where
  target := target
  snapshot := { snapshot with
    state := .error
    health :=
      match failureKind with
      | .protocolMismatch | .selfTargetBlocked => .error
      | _ => .unreachable
    lastErrorKind := some failureKind
    lastError := some message }
  failureKind := failureKind
  retryable := retryable

/-- `classify_connect_error`. -/
def classifyConnectError (error : TransportError) : StreamTargetFailureKind :=
  match error with
  | .connect _ source =>
    match source.kind with
    | .connectionRefused => .refused
    | .timedOut => .timeout
    | _ => .unreachable
  | _ => .unreachable

/-- `retry_backoff`. -/
def retryBackoff (attemptCount : ℕ) : Duration :=
  match attemptCount with
  | 0 | 1 => Duration.fromMillis 500
  | 2 => Duration.fromMillis 1500
  | _ => Duration.fromMillis 3000

/-- `branch_queue_capacity`. -/
def branchQueueCapacity (packetDuration : Duration) (targetLatencyMs : UInt16) : ℕ :=
  let packetMs := max (Duration.asMillis packetDuration) 1
  let targetMs := max targetLatencyMs.toNat 10
  let packets := (targetMs + (packetMs - 1)) / packetMs + BRANCH_QUEUE_HEADROOM_PACKETS
  min (max packets MIN_BRANCH_QUEUE_PACKETS) MAX_BRANCH_QUEUE_PACKETS

/-- `bitrate_bps`. -/
def bitrateBps (bytesSent : ℕ) (elapsed : Duration) : ℕ :=
  let millis := Duration.asMillis elapsed
  if millis = 0 then 0 else Word.satMul 64 (Word.satMul 64 bytesSent 8) 1000 / millis

/-- `validate_accept`. -/
def validateAccept (accept : AcceptMessage) (expectedSessionId : String)
    (requestedStream : ReceiverStreamConfig) : Except TransportError Unit :=
  if accept.protocolVersion ≠ STREAM_PROTOCOL_VERSION then
    .error (.negotiation ("receiver negotiated unsupported protocol version "
      ++ toString accept.protocolVersion))
  else if accept.sessionId ≠ expectedSessionId then
    .error (.negotiation "receiver accepted a different session id")
  else if accept.codec ≠ .rawPcm then
    .error (.negotiation "receiver negotiated unsupported codec")
  else if accept.stream ≠ requestedStream then
    .error (.negotiation
      "receiver changed stream parameters; renegotiation is not yet supported")
  else .ok ()

/-! ### Sessions -/

/-- The socket a connection attempt opened. -/
structure TcpStream where
  attempt : ℕ
  deriving DecidableEq, Repr

/-- `InboundControl`: what the reader thread reports. -/
inductive InboundControl
  | heartbeatAck (nonce wireBytes : ℕ)
  | stop (reason : String) (wireBytes : ℕ)
  | error (message : String) (wireBytes : ℕ)
  | disconnected
  deriving DecidableEq, Repr

/-- `NetworkEvent`: what the writer thread reports. -/
inductive NetworkEvent
  | audioSent (wireBytes : ℕ)
  | heartbeatSent (wireBytes : ℕ)
  | stopSent (wireBytes : ℕ)
  | error (message : String)
  deriving DecidableEq, Repr

/-- `ManagedTargetSession`. -/
structure ManagedTargetSession where
  target : SenderTarget
  snapshot : StreamTargetSnapshot
  stream : TcpStream
  networkBranch : BufferedBranchQueue FanoutAudioFrame
  pendingHeartbeats : AList fun _ : ℕ ↦ Instant := ∅
  heartbeatNonce : ℕ := 0
  lastHeartbeat : Instant
  startedAt : Instant

/-- What a connection attempt finds. -/
structure ConnectEnv where
  nowUnixMs : ℕ
  connectTimeout : SocketAddr → Duration → Except IoError Unit
  setNodelay : Except IoError Unit
  writer : Writer
  reader : Reader
  /-- The clones of the stream, for the writer thread and for the reader thread. -/
  writerClone : Except IoError Unit
  readerClone : Except IoError Unit
  lastHeartbeat : Instant
  startedAt : Instant

/-- What a tick finds. -/
structure TickEnv where
  inbound : List InboundControl := []
  events : List NetworkEvent := []
  /-- The clock readings of the tick, in order. -/
  now : ℕ → Instant
  /-- The writer thread takes controls. -/
  writerListens : Bool := true
  /-- How many frames the writer thread has taken by the end of the tick. -/
  consumed : ℕ := 0

namespace ManagedTargetSession

/-- `ManagedTargetSession::connect`, on the stream of this attempt. -/
def connect (secsF64 : SecsF64) (format : WireFormat) (env : ConnectEnv) (stream : TcpStream)
    (target : SenderTarget) (attemptCount : ℕ) (request : TargetConnectRequest) :
    Except TargetConnectFailure ManagedTargetSession :=
  let snapshot := pendingTargetSnapshot target attemptCount
  let address := target.endpoint.address
  if request.localDeviceId = some target.receiverId then
    .error (connectFailure target snapshot .selfTargetBlocked
      "self-target connections are blocked" false)
  else
  let sessionId := request.managerSessionId ++ "-" ++ target.receiverId.value ++ "-"
    ++ toString env.nowUnixMs
  match env.connectTimeout address request.connectTimeout with
  | .error source =>
    let error := TransportError.connect address.display source
    .error (connectFailure target snapshot (classifyConnectError error) error.display true)
  | .ok () =>
  match env.setNodelay with
  | .error source =>
    .error (connectFailure target snapshot .unreachable
      (TransportError.io ("enabling TCP_NODELAY for " ++ address.display) source).display true)
  | .ok () =>
  let snapshot := { snapshot with state := .negotiating }
  let hello := HelloMessage.new sessionId request.senderName request.streamConfig request.quality
    request.targetLatencyMs request.heartbeatIntervalMs
  match (writeMessage format.hello .hello hello [] env.writer).1 with
  | .error error =>
    -- a socket that fails here counts as a mismatch too, and is not retried
    .error (connectFailure target snapshot .protocolMismatch error.display false)
  | .ok sent =>
  let snapshot := { snapshot with metrics := { snapshot.metrics with
    bytesSent := snapshot.metrics.bytesSent + sent } }
  match (readFrame env.reader).1 with
  | .error error => .error (connectFailure target snapshot .unreachable error.display true)
  | .ok acceptFrame =>
  let snapshot := { snapshot with metrics := { snapshot.metrics with
    bytesReceived := snapshot.metrics.bytesReceived + acceptFrame.wireBytes
    packetsReceived := snapshot.metrics.packetsReceived + 1 } }
  if acceptFrame.kind ≠ .accept then
    .error (connectFailure target snapshot .protocolMismatch
      "receiver did not respond with Accept" false)
  else
  match decodeMetadata format.accept acceptFrame with
  | .error error =>
    .error (connectFailure target snapshot .protocolMismatch error.display false)
  | .ok accept =>
  match validateAccept accept sessionId request.streamConfig with
  | .error error =>
    .error (connectFailure target snapshot .protocolMismatch error.display false)
  | .ok () =>
  let snapshot := { snapshot with
    sessionId := some sessionId
    codec := some accept.codec
    stream := some accept.stream
    state := .streaming
    health := .healthy
    lastErrorKind := none
    lastError := none }
  let cloning (source : IoError) :=
    TransportError.io ("cloning TCP stream for " ++ address.display) source
  match env.writerClone with
  | .error source =>
    .error (connectFailure target snapshot .unreachable (cloning source).display true)
  | .ok () =>
  -- sized by the latency asked for, not by what the receiver buffers
  let networkBranch := BufferedBranchQueue.new
    (branchQueueCapacity (accept.stream.packetDuration secsF64) request.targetLatencyMs)
  let snapshot := { snapshot with networkBuffer := networkBranch.snapshot }
  match env.readerClone with
  | .error source =>
    .error (connectFailure target snapshot .unreachable (cloning source).display true)
  | .ok () =>
    .ok { target, snapshot, stream, networkBranch
          lastHeartbeat := env.lastHeartbeat
          startedAt := env.startedAt }

/-- What a result says about its attempt: the stream, if there is one, is the one of the attempt, and
the target is the one that was asked for. -/
def Answers (stream : TcpStream) (target : SenderTarget) :
    Except TargetConnectFailure ManagedTargetSession → Prop
  | .ok session => session.stream = stream ∧ session.target = target ∧
      session.snapshot.receiverId = target.receiverId
  | .error failure => failure.target = target ∧ failure.snapshot.receiverId = target.receiverId

/-- What `connect` comes back with: a failure of this attempt, or a session of this attempt that has not
begun. -/
inductive ConnectOutcome (stream : TcpStream) (target : SenderTarget) (attemptCount : ℕ) :
    Except TargetConnectFailure ManagedTargetSession → Prop
  | failed {snapshot : StreamTargetSnapshot} {failureKind : StreamTargetFailureKind}
      {message : String} {retryable : Bool} (receiverId : snapshot.receiverId = target.receiverId)
      (attempts : snapshot.attemptCount = attemptCount)
      (retry : snapshot.nextRetryAtUnixMs = none) :
      ConnectOutcome stream target attemptCount
        (.error (connectFailure target snapshot failureKind message retryable))
  | opened {session : ManagedTargetSession} (sameStream : session.stream = stream)
      (sameTarget : session.target = target)
      (receiverId : session.snapshot.receiverId = target.receiverId)
      (state : session.snapshot.state = .streaming)
      (retry : session.snapshot.nextRetryAtUnixMs = none)
      (unfed : session.networkBranch.items = []) (unasked : session.heartbeatNonce = 0) :
      ConnectOutcome stream target attemptCount (.ok session)

/-- **What `connect` comes back with**, whichever of its calls fails. -/
theorem connect_outcome (secsF64 : SecsF64) (format : WireFormat) (env : ConnectEnv)
    (stream : TcpStream) (target : SenderTarget) (attemptCount : ℕ)
    (request : TargetConnectRequest) :
    ConnectOutcome stream target attemptCount
      (connect secsF64 format env stream target attemptCount request) := by
  unfold connect
  dsimp only
  split
  · exact .failed rfl rfl rfl
  split
  · exact .failed rfl rfl rfl
  split
  · exact .failed rfl rfl rfl
  split
  · exact .failed rfl rfl rfl
  split
  · exact .failed rfl rfl rfl
  split
  · exact .failed rfl rfl rfl
  split
  · exact .failed rfl rfl rfl
  split
  · exact .failed rfl rfl rfl
  split
  · exact .failed rfl rfl rfl
  split
  · exact .failed rfl rfl rfl
  · exact .opened rfl rfl rfl rfl rfl rfl rfl

theorem connect_answers (secsF64 : SecsF64) (format : WireFormat) (env : ConnectEnv)
    (stream : TcpStream) (target : SenderTarget) (attemptCount : ℕ)
    (request : TargetConnectRequest) :
    Answers stream target (connect secsF64 format env stream target attemptCount request) := by
  have houtcome := connect_outcome secsF64 format env stream target attemptCount request
  generalize connect secsF64 format env stream target attemptCount request = result at houtcome
  cases houtcome with
  | failed receiverId => exact ⟨rfl, receiverId⟩
  | opened sameStream sameTarget receiverId => exact ⟨sameStream, sameTarget, receiverId⟩

def setError (message : String) (health : StreamTargetHealth) (session : ManagedTargetSession) :
    ManagedTargetSession :=
  { session with snapshot := { session.snapshot with
    lastError := some message
    state := .error
    health } }

def refreshHealth (session : ManagedTargetSession) : ManagedTargetSession :=
  if session.snapshot.state ≠ .streaming then session
  else { session with snapshot := { session.snapshot with
    health :=
      if 0 < session.snapshot.networkBuffer.droppedPackets
          ∨ 0 < session.snapshot.metrics.packetGaps then .degraded
      else .healthy } }

/-- The metrics after a frame came in. -/
def countReceived (wireBytes : ℕ) (session : ManagedTargetSession) : ManagedTargetSession :=
  { session with snapshot := { session.snapshot with metrics := { session.snapshot.metrics with
    bytesReceived := session.snapshot.metrics.bytesReceived + wireBytes
    packetsReceived := session.snapshot.metrics.packetsReceived + 1 } } }

/-- The metrics after bytes went out. -/
def countSent (wireBytes : ℕ) (session : ManagedTargetSession) : ManagedTargetSession :=
  { session with snapshot := { session.snapshot with metrics := { session.snapshot.metrics with
    bytesSent := session.snapshot.metrics.bytesSent + wireBytes } } }

/-- A report of the reader thread. -/
def handleInbound (now : Instant) (session : ManagedTargetSession) :
    InboundControl → ManagedTargetSession
  | .heartbeatAck nonce wireBytes =>
    let session := session.countReceived wireBytes
    let metrics := { session.snapshot.metrics with
      keepalivesReceived := session.snapshot.metrics.keepalivesReceived + 1 }
    match session.pendingHeartbeats.lookup nonce with
    -- a nonce that is not pending is counted and otherwise ignored
    | none => { session with snapshot := { session.snapshot with metrics } }
    | some sentAt => { session with
        pendingHeartbeats := session.pendingHeartbeats.erase nonce
        snapshot := { session.snapshot with metrics := { metrics with
          latencyEstimateMs := some (Word.wrap 32 (Duration.asMillis (now - sentAt) / 2)) } } }
  | .stop reason wireBytes =>
    (session.countReceived wireBytes).setError ("receiver requested stop: " ++ reason) .unreachable
  | .error message wireBytes => (session.countReceived wireBytes).setError message .error
  | .disconnected => session.setError "receiver disconnected unexpectedly" .unreachable

/-- A report of the writer thread. -/
def handleNetworkEvent (now : Instant) (session : ManagedTargetSession) :
    NetworkEvent → ManagedTargetSession
  | .audioSent wireBytes =>
    let session := session.countSent wireBytes
    { session with snapshot := { session.snapshot with metrics := { session.snapshot.metrics with
      packetsSent := session.snapshot.metrics.packetsSent + 1
      estimatedBitrateBps :=
        bitrateBps session.snapshot.metrics.bytesSent (now - session.startedAt) } } }
  | .heartbeatSent wireBytes =>
    let session := session.countSent wireBytes
    { session with snapshot := { session.snapshot with metrics := { session.snapshot.metrics with
      keepalivesSent := session.snapshot.metrics.keepalivesSent + 1 } } }
  | .stopSent wireBytes => session.countSent wireBytes
  | .error message => session.setError message .unreachable

/-- The heartbeat of a tick, if one is due. The three clock readings are those of the check, of the
entry in the table of heartbeats under way, and of the new last heartbeat. -/
def heartbeat (heartbeatInterval : Duration) (writerListens : Bool)
    (checkedAt sentAt rearmedAt : Instant) (session : ManagedTargetSession) :
    ManagedTargetSession :=
  if session.snapshot.state = .streaming ∧
      heartbeatInterval ≤ checkedAt - session.lastHeartbeat then
    let nonce := session.heartbeatNonce + 1
    let session := { session with
      heartbeatNonce := nonce
      pendingHeartbeats := session.pendingHeartbeats.insert nonce sentAt }
    if writerListens then { session with lastHeartbeat := rearmedAt }
    else session.setError TransportError.channelClosed.display .unreachable
  else session

/-- The queue as the session sees it goes into the snapshot. -/
def refreshBuffer (session : ManagedTargetSession) : ManagedTargetSession :=
  { session with snapshot := { session.snapshot with
    networkBuffer := session.networkBranch.snapshot } }

/-- The writer thread takes frames out of the queue. -/
def consume (taken : ℕ) (session : ManagedTargetSession) : ManagedTargetSession :=
  { session with networkBranch := session.networkBranch.consume taken }

/-- `tick`: whether the session still streams, and the session. -/
def tick (heartbeatInterval : Duration) (env : TickEnv) (session : ManagedTargetSession) :
    Bool × ManagedTargetSession :=
  let session := env.inbound.zipIdx.foldl
    (fun session (inbound, reading) ↦ session.handleInbound (env.now reading) inbound) session
  let session := env.events.zipIdx.foldl
    (fun session (event, reading) ↦
      session.handleNetworkEvent (env.now (env.inbound.length + reading)) event) session
  let readings := env.inbound.length + env.events.length
  let session := session.heartbeat heartbeatInterval env.writerListens
    (env.now readings) (env.now (readings + 1)) (env.now (readings + 2))
  let session := (session.consume env.consumed).refreshBuffer.refreshHealth
  (session.snapshot.state = .streaming, session)

/-- `push_frame`. -/
def pushFrame (env : QueueEnv) (frame : FanoutAudioFrame) (session : ManagedTargetSession) :
    Except TransportError Unit × ManagedTargetSession :=
  match session.networkBranch.push env frame with
  | (.error error, networkBranch) => (.error error, { session with networkBranch })
  | (.ok _, networkBranch) => (.ok (), ({ session with networkBranch }).refreshBuffer.refreshHealth)

/-- The snapshot `shutdown_immediate` leaves. Its queue is cleared, unless the writer thread did not
end properly. -/
def shutdownImmediate (writerJoined : Bool) (session : ManagedTargetSession) :
    StreamTargetSnapshot :=
  let networkBranch :=
    if writerJoined then session.networkBranch.clear else session.networkBranch
  { session.snapshot with networkBuffer := networkBranch.snapshot }

end ManagedTargetSession

end SynchroSonic
