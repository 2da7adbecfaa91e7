import SynchroSonic.Core.Receiver

/-!
# The sender's shared types

Session states, target snapshots and metrics, as the sender manager publishes them.
-/

namespace SynchroSonic

def STREAM_PROTOCOL_VERSION : UInt16 := 1

/-- `receiver_stream_config`: the stream a capture is announced as. -/
def receiverStreamConfig (settings : CaptureSettings) : ReceiverStreamConfig where
  sampleRateHz := settings.sampleRateHz
  channels := settings.channels
  sampleFormat := settings.sampleFormat
  framesPerPacket := settings.bufferFrames

/-- `StreamCodec`. -/
inductive StreamCodec
  | rawPcm
  deriving DecidableEq, Repr

/-- `StreamSessionState`. -/
inductive StreamSessionState
  | idle
  | connecting
  | negotiating
  | streaming
  | stopping
  | error
  deriving DecidableEq, Repr

/-- `StreamMetrics`. -/
structure StreamMetrics where
  packetsSent : ℕ := 0
  packetsReceived : ℕ := 0
  bytesSent : ℕ := 0
  bytesReceived : ℕ := 0
  estimatedBitrateBps : ℕ := 0
  latencyEstimateMs : Option ℕ := none
  packetGaps : ℕ := 0
  keepalivesSent : ℕ := 0
  keepalivesReceived : ℕ := 0
  deriving DecidableEq, Repr

/-- `StreamMetrics::accumulate`: counters add up, latencies are compared. -/
def StreamMetrics.accumulate (metrics other : StreamMetrics) : StreamMetrics where
  packetsSent := metrics.packetsSent + other.packetsSent
  packetsReceived := metrics.packetsReceived + other.packetsReceived
  bytesSent := metrics.bytesSent + other.bytesSent
  bytesReceived := metrics.bytesReceived + other.bytesReceived
  estimatedBitrateBps := metrics.estimatedBitrateBps + other.estimatedBitrateBps
  latencyEstimateMs :=
    match metrics.latencyEstimateMs, other.latencyEstimateMs with
    | some left, some right => some (max left right)
    | some left, none => some left
    | none, some right => some right
    | none, none => none
  packetGaps := metrics.packetGaps + other.packetGaps
  keepalivesSent := metrics.keepalivesSent + other.keepalivesSent
  keepalivesReceived := metrics.keepalivesReceived + other.keepalivesReceived

/-- `StreamBranchBufferSnapshot`. -/
structure StreamBranchBufferSnapshot where
  queuedPackets : ℕ := 0
  maxPackets : ℕ := 0
  droppedPackets : ℕ := 0
  deriving DecidableEq, Repr

/-- `LocalMirrorState`. -/
inductive LocalMirrorState
  | disabled
  | idle
  | starting
  | mirroring
  | stopping
  | error
  deriving DecidableEq, Repr

/-- `LocalMirrorSnapshot`. -/
structure LocalMirrorSnapshot where
  desiredEnabled : Bool := false
  state : LocalMirrorState := .disabled
  playbackBackend : Option String := none
  playbackTargetId : Option String := none
  buffer : StreamBranchBufferSnapshot := {}
  packetsPlayed : ℕ := 0
  bytesPlayed : ℕ := 0
  lastError : Option String := none
  deriving DecidableEq, Repr

/-- `StreamTargetHealth`. -/
inductive StreamTargetHealth
  | pending
  | healthy
  | degraded
  | unreachable
  | error
  deriving DecidableEq, Repr

/-- `StreamTargetFailureKind`. -/
inductive StreamTargetFailureKind
  | refused
  | timeout
  | resolveFailure
  | protocolMismatch
  | selfTargetBlocked
  | unreachable
  deriving DecidableEq, Repr

/-- `StreamTargetSnapshot`, with the defaults of its constructor. -/
structure StreamTargetSnapshot where
  receiverId : DeviceId
  receiverName : String
  endpoint : SocketAddr
  state : StreamSessionState := .idle
  health : StreamTargetHealth := .pending
  sessionId : Option String := none
  codec : Option StreamCodec := none
  stream : Option ReceiverStreamConfig := none
  networkBuffer : StreamBranchBufferSnapshot := {}
  metrics : StreamMetrics := {}
  attemptCount : ℕ := 0
  nextRetryAtUnixMs : Option ℕ := none
  lastErrorKind : Option StreamTargetFailureKind := none
  lastError : Option String := none
  deriving DecidableEq, Repr

/-- `StreamSessionSnapshot`. -/
structure StreamSessionSnapshot where
  state : StreamSessionState := .idle
  sessionId : Option String := none
  stream : Option ReceiverStreamConfig := none
  targets : List StreamTargetSnapshot := []
  localMirror : LocalMirrorSnapshot := {}
  metrics : StreamMetrics := {}
  lastError : Option String := none
  deriving DecidableEq, Repr

end SynchroSonic
