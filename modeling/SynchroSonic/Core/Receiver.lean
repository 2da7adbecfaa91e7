import SynchroSonic.Core.Audio
import SynchroSonic.Core.Models
import SynchroSonic.Machine.Word

/-!
# The receiver's shared types

Latency presets, the negotiated stream shape, the events the transport hands to the receiver runtime,
and the snapshot records it publishes.

`Duration::from_secs_f64` is the one place where the receiver computes with floating point. It is
a parameter here, the function `secsF64` from frames per packet and sample rate to nanoseconds;
results that depend on its accuracy say so.
-/

namespace SynchroSonic

/-- `ReceiverServiceState`. -/
inductive ReceiverServiceState
  | idle
  | listening
  | connected
  | buffering
  | playing
  | error
  deriving DecidableEq, Repr

/-- `ReceiverSyncState`. -/
inductive ReceiverSyncState
  | idle
  | priming
  | locked
  | late
  | recovering
  deriving DecidableEq, Repr

/-! ### Latency presets -/

/-- `ReceiverLatencyPreset`. -/
inductive ReceiverLatencyPreset
  | lowLatency
  | balanced
  | stable
  deriving DecidableEq, Repr

/-- `ReceiverLatencyProfile`. -/
structure ReceiverLatencyProfile where
  playbackLatencyMs : UInt16
  targetBufferMs : UInt16
  maxBufferMs : UInt16
  latencyToleranceMs : UInt16
  latePacketDropMs : UInt16
  reconnectGracePeriod : Duration
  deriving DecidableEq, Repr

def ReceiverLatencyPreset.profile : ReceiverLatencyPreset → ReceiverLatencyProfile
  | .lowLatency =>
    { playbackLatencyMs := 50
      targetBufferMs := 30
      maxBufferMs := 110
      latencyToleranceMs := 20
      latePacketDropMs := 25
      reconnectGracePeriod := Duration.fromMillis 750 }
  | .balanced =>
    { playbackLatencyMs := 80
      targetBufferMs := 70
      maxBufferMs := 210
      latencyToleranceMs := 30
      latePacketDropMs := 40
      reconnectGracePeriod := Duration.fromMillis 1500 }
  | .stable =>
    { playbackLatencyMs := 110
      targetBufferMs := 120
      maxBufferMs := 340
      latencyToleranceMs := 45
      latePacketDropMs := 60
      reconnectGracePeriod := Duration.fromMillis 2500 }

def ReceiverLatencyProfile.expectedOutputLatencyMs (profile : ReceiverLatencyProfile) : UInt16 :=
  UInt16.ofNat (Word.satAdd 16 profile.playbackLatencyMs.toNat profile.targetBufferMs.toNat)

/-! ### The stream shape -/

/-- `ReceiverStreamConfig`, with its defaults. -/
structure ReceiverStreamConfig where
  sampleRateHz : UInt32 := 48000
  channels : UInt16 := 2
  sampleFormat : AudioSampleFormat := .s16Le
  framesPerPacket : UInt32 := 480
  deriving DecidableEq, Repr

/-- `Duration::from_secs_f64` of a quotient of two `u32`s, in nanoseconds. -/
abbrev SecsF64 := ℕ → ℕ → Duration

namespace ReceiverStreamConfig

def bytesPerFrame (stream : ReceiverStreamConfig) : ℕ :=
  stream.channels.toNat * stream.sampleFormat.bytesPerSample

def packetDuration (secsF64 : SecsF64) (stream : ReceiverStreamConfig) : Duration :=
  if stream.sampleRateHz = 0 ∨ stream.framesPerPacket = 0 then Duration.fromMillis 0
  else secsF64 stream.framesPerPacket.toNat stream.sampleRateHz.toNat

theorem bytesPerFrame_pos {stream : ReceiverStreamConfig} (h : stream.channels ≠ 0) :
    0 < stream.bytesPerFrame := by
  have hch : stream.channels.toNat ≠ 0 := fun h0 ↦ h (UInt16.toNat_inj.mp h0)
  exact Nat.mul_pos (Nat.pos_of_ne_zero hch) stream.sampleFormat.bytesPerSample_pos

end ReceiverStreamConfig

/-- `packet_count_for_duration`: how many packets it takes to fill `target`, at least one, and one
when packets have no measurable duration. -/
def packetCountForDuration (target packetDuration : Duration) : ℕ :=
  if packetDuration = 0 then 1
  else min ((max target 1 + packetDuration - 1) / packetDuration) (Word.max 64)

def ReceiverLatencyProfile.bufferPacketLimits (secsF64 : SecsF64)
    (profile : ReceiverLatencyProfile) (stream : ReceiverStreamConfig) : ℕ × ℕ :=
  let packetDuration := stream.packetDuration secsF64
  (packetCountForDuration (Duration.fromMillis profile.targetBufferMs.toNat) packetDuration,
    packetCountForDuration (Duration.fromMillis profile.maxBufferMs.toNat) packetDuration)

/-! ### Packets and events -/

/-- `ReceiverConnectionInfo`. -/
structure ReceiverConnectionInfo where
  sessionId : String
  remoteAddr : Option SocketAddr
  stream : ReceiverStreamConfig
  requestedLatencyMs : UInt16
  deriving DecidableEq, Repr

/-- `ReceiverAudioPacket`. -/
structure ReceiverAudioPacket where
  sequence : UInt64
  capturedAtMs : UInt64
  capturedAtUnixMs : UInt64
  payload : List UInt8
  deriving DecidableEq, Repr

/-- The number of frames in a packet; a payload that is not a whole number of frames is refused. The
count is cast to 32 bits. -/
def ReceiverAudioPacket.frameCount (packet : ReceiverAudioPacket) (stream : ReceiverStreamConfig) :
    Except String ℕ :=
  let bytesPerFrame := stream.bytesPerFrame
  if bytesPerFrame = 0 then .error "stream bytes_per_frame cannot be zero"
  else if packet.payload.length % bytesPerFrame ≠ 0 then
    .error ("packet payload size " ++ toString packet.payload.length
      ++ " is not divisible by bytes_per_frame " ++ toString bytesPerFrame)
  else .ok (Word.wrap 32 (packet.payload.length / bytesPerFrame))

/-- **A packet is counted exactly when it is a whole number of frames.** -/
theorem ReceiverAudioPacket.frameCount_eq_ok_iff {packet : ReceiverAudioPacket}
    {stream : ReceiverStreamConfig} (h : 0 < stream.bytesPerFrame) {count : ℕ} :
    packet.frameCount stream = .ok count ↔
      stream.bytesPerFrame ∣ packet.payload.length ∧
        count = Word.wrap 32 (packet.payload.length / stream.bytesPerFrame) := by
  have hne : stream.bytesPerFrame ≠ 0 := by omega
  by_cases hmod : packet.payload.length % stream.bytesPerFrame = 0
  · simp [frameCount, hne, hmod, Nat.dvd_of_mod_eq_zero hmod, eq_comm]
  · simp [frameCount, hne, hmod, Nat.dvd_iff_mod_eq_zero]

/-- `ReceiverTransportEvent`. -/
inductive ReceiverTransportEvent
  | connected (connection : ReceiverConnectionInfo)
  | audioPacket (packet : ReceiverAudioPacket)
  | keepAlive
  | disconnected (reason : String) (reconnectSuggested : Bool)
  | error (message : String)
  deriving DecidableEq, Repr

/-! ### Playback -/

/-- `PlaybackStartRequest`. -/
structure PlaybackStartRequest where
  stream : ReceiverStreamConfig
  targetId : Option String
  latencyMs : UInt16
  deriving DecidableEq, Repr

/-- A running playback process. -/
structure PlaybackSink where
  handle : ℕ
  deriving DecidableEq, Repr

/-! ### What the runtime publishes -/

/-- `ReceiverBufferSnapshot`. -/
structure ReceiverBufferSnapshot where
  queuedPackets : ℕ := 0
  queuedFrames : ℕ := 0
  queuedAudioMs : ℕ := 0
  targetBufferMs : ℕ := 0
  maxBufferMs : ℕ := 0
  startThresholdPackets : ℕ := 0
  maxPackets : ℕ := 0
  deriving DecidableEq, Repr

/-- Fill level in percent: by audio duration, by packet count when there is no duration to divide
by, and `0` when there is neither. -/
def ReceiverBufferSnapshot.fillPercent (snapshot : ReceiverBufferSnapshot) : ℕ :=
  if snapshot.maxBufferMs ≠ 0 then
    min (Word.satMul 32 snapshot.queuedAudioMs 100 / snapshot.maxBufferMs) 100
  else if snapshot.maxPackets ≠ 0 then
    min (Word.satMul 32 snapshot.queuedPackets 100 / snapshot.maxPackets) 100
  else 0

/-- `ReceiverMetrics`. -/
structure ReceiverMetrics where
  packetsReceived : ℕ := 0
  framesReceived : ℕ := 0
  bytesReceived : ℕ := 0
  packetsPlayed : ℕ := 0
  framesPlayed : ℕ := 0
  bytesPlayed : ℕ := 0
  bufferFillPercent : ℕ := 0
  underruns : ℕ := 0
  overruns : ℕ := 0
  reconnectAttempts : ℕ := 0
  deriving DecidableEq, Repr

/-- `ReceiverSyncSnapshot`. -/
structure ReceiverSyncSnapshot where
  state : ReceiverSyncState := .idle
  requestedLatencyMs : Option UInt16 := none
  targetBufferMs : UInt16 := 0
  playbackLatencyMs : UInt16 := 0
  expectedOutputLatencyMs : UInt16 := 0
  queuedAudioMs : ℕ := 0
  bufferDeltaMs : ℤ := 0
  scheduleErrorMs : ℤ := 0
  latePacketDrops : ℕ := 0
  syncResets : ℕ := 0
  lastSenderTimestampMs : Option UInt64 := none
  lastSenderCaptureUnixMs : Option UInt64 := none
  deriving DecidableEq, Repr

def ReceiverSyncSnapshot.fromProfile (profile : ReceiverLatencyProfile) : ReceiverSyncSnapshot :=
  { targetBufferMs := profile.targetBufferMs
    playbackLatencyMs := profile.playbackLatencyMs
    expectedOutputLatencyMs := profile.expectedOutputLatencyMs }

end SynchroSonic
