import SynchroSonic.Core.Audio
import SynchroSonic.Machine.Loop
import SynchroSonic.Machine.Transition
import SynchroSonic.Receiver.Buffer

/-!
# The receiver worker

`ReceiverWorker` and its handlers. What a handler asks of its surroundings — the clock, the playback
engine, the sinks — is a `HandlerEnv`; the calls of a handler are numbered, so that nothing ties one
answer to the next.

The drain loop has several ways to end, and one of them would be a panic (`expect`). They are named by
`DrainExit`, so that a result about the loop can say which of them never happen.

One field of the worker only records what it did: the payloads the sinks took, with the clock
readings they were written at.
-/

namespace SynchroSonic

/-- What a handler finds when it calls out. -/
structure HandlerEnv where
  /-- The clock readings of the handler, in order. -/
  now : ℕ → Instant
  /-- The reading `check_transport_timeout` makes. -/
  timeoutNow : Instant
  startStream : PlaybackStartRequest → Except AudioError PlaybackSink
  /-- The writes of the handler, in order. -/
  write : ℕ → PlaybackSink → List UInt8 → Except AudioError Unit
  stop : PlaybackSink → Except AudioError Unit

/-- Surroundings whose clock stands at `now`. -/
def HandlerEnv.atMoment (now : Instant) (env : HandlerEnv) : HandlerEnv :=
  { env with now := fun _ ↦ now, timeoutNow := now }

/-- `SyncClock`. -/
structure SyncClock where
  anchorLocalInstant : Instant
  anchorSenderTimestampMs : UInt64
  deriving DecidableEq, Repr

/-- The moment a packet is due: its offset on the sender's clock plus the buffer target, on the local
clock. -/
def SyncClock.writeDeadline (clock : SyncClock) (senderTimestampMs : UInt64)
    (targetBufferMs : UInt16) : Instant :=
  let senderOffsetMs := senderTimestampMs.toNat - clock.anchorSenderTimestampMs.toNat
  clock.anchorLocalInstant + Duration.fromMillis (Word.satAdd 64 senderOffsetMs targetBufferMs.toNat)

/-- `signed_instant_delta_ms`. -/
def signedInstantDeltaMs (left right : Instant) : ℤ :=
  if right ≤ left then (min (Duration.asMillis (left - right)) (Word.max 31) : ℕ)
  else -(min (Duration.asMillis (right - left)) (Word.max 31) : ℕ)

/-- A payload a sink took. -/
structure SinkWrite where
  sink : PlaybackSink
  payload : List UInt8
  writtenAt : Instant
  deadline : Instant
  deriving DecidableEq, Repr

/-- `ReceiverWorker`, with the part of the shared snapshot it publishes. -/
structure ReceiverWorker where
  playbackTargetId : Option String
  playbackSink : Option PlaybackSink
  buffer : ReceiverPacketBuffer
  bufferProfile : ReceiverLatencyProfile
  metrics : ReceiverMetrics
  sync : ReceiverSyncSnapshot
  syncClock : Option SyncClock
  connection : Option ReceiverConnectionInfo
  state : ReceiverServiceState
  nextPlaybackDeadline : Option Instant
  lastTransportActivity : Option Instant
  lastError : Option String
  /-- What the sinks took, oldest first. -/
  written : List SinkWrite
  deriving Repr

/-- What `sync_snapshot` writes to the shared `ReceiverSnapshot`. -/
structure ReceiverSnapshot where
  state : ReceiverServiceState
  connection : Option ReceiverConnectionInfo
  buffer : ReceiverBufferSnapshot
  sync : ReceiverSyncSnapshot
  metrics : ReceiverMetrics
  lastError : Option String
  deriving DecidableEq, Repr

namespace ReceiverWorker

/-- `ReceiverWorker::new`. -/
def new (secsF64 : SecsF64) (playbackTargetId : Option String)
    (latencyPreset : ReceiverLatencyPreset) : ReceiverWorker where
  playbackTargetId := playbackTargetId
  playbackSink := none
  buffer := .new secsF64 latencyPreset.profile {}
  bufferProfile := latencyPreset.profile
  metrics := {}
  sync := .fromProfile latencyPreset.profile
  syncClock := none
  connection := none
  state := .listening
  nextPlaybackDeadline := none
  lastTransportActivity := none
  lastError := none
  written := []

/-- `sync_snapshot`: what an observer sees of the worker. -/
def snapshot (worker : ReceiverWorker) : ReceiverSnapshot where
  state := worker.state
  connection := worker.connection
  buffer := worker.buffer.snapshot
  sync := worker.sync
  metrics := { worker.metrics with bufferFillPercent := worker.buffer.snapshot.fillPercent }
  lastError := worker.lastError

/-! ### Parts the handlers share -/

def writeDeadlineFor (senderTimestampMs : UInt64) (worker : ReceiverWorker) : Option Instant :=
  worker.syncClock.map fun clock ↦
    clock.writeDeadline senderTimestampMs worker.bufferProfile.targetBufferMs

def refreshSyncBufferMetrics (worker : ReceiverWorker) : ReceiverWorker :=
  { worker with
    sync := { worker.sync with
      queuedAudioMs := worker.buffer.queuedAudioMs
      bufferDeltaMs := Word.toSigned 32 worker.buffer.queuedAudioMs
        - worker.sync.targetBufferMs.toNat } }

def resetSyncTimeline (countReset : Bool) (worker : ReceiverWorker) : ReceiverWorker :=
  { worker with
    syncClock := none
    nextPlaybackDeadline := none
    sync := { worker.sync with
      scheduleErrorMs := 0
      lastSenderTimestampMs := none
      lastSenderCaptureUnixMs := none
      syncResets := if countReset then worker.sync.syncResets + 1 else worker.sync.syncResets } }

def stopPlaybackSink (env : HandlerEnv) (worker : ReceiverWorker) : ReceiverWorker :=
  match worker.playbackSink with
  | none => worker
  | some sink =>
    match env.stop sink with
    | .ok () => { worker with playbackSink := none }
    | .error error => { worker with playbackSink := none, lastError := some error.display }

/-- `metrics.buffer_fill_percent = self.buffer.snapshot().fill_percent()`. -/
def measureFill (worker : ReceiverWorker) : ReceiverWorker :=
  { worker with metrics := { worker.metrics with
      bufferFillPercent := worker.buffer.snapshot.fillPercent } }

def setSyncState (state : ReceiverSyncState) (worker : ReceiverWorker) : ReceiverWorker :=
  { worker with sync := { worker.sync with state } }

def handleDisconnect (env : HandlerEnv) (reason : String) (reconnectSuggested : Bool)
    (worker : ReceiverWorker) : ReceiverWorker :=
  let worker := { worker with metrics := { worker.metrics with
    reconnectAttempts := worker.metrics.reconnectAttempts + if reconnectSuggested then 1 else 0 } }
  let worker := worker.stopPlaybackSink env
  let worker := resetSyncTimeline false
    { worker with connection := none, buffer := worker.buffer.clear }
  { worker with
    sync := .fromProfile worker.bufferProfile
    lastTransportActivity := none
    state := .listening
    metrics := { worker.metrics with bufferFillPercent := 0 }
    lastError := if reconnectSuggested then some reason else none }

def setError (env : HandlerEnv) (message : String) (worker : ReceiverWorker) : ReceiverWorker :=
  let worker := worker.stopPlaybackSink env
  let worker := resetSyncTimeline false
    { worker with connection := none, buffer := worker.buffer.clear }
  { worker with
    sync := { ReceiverSyncSnapshot.fromProfile worker.bufferProfile with state := .recovering }
    lastTransportActivity := none
    state := .error
    lastError := some message
    metrics := { worker.metrics with bufferFillPercent := 0 } }

/-- What is asked of the playback engine for a stream. -/
def startRequest (worker : ReceiverWorker) (stream : ReceiverStreamConfig) : PlaybackStartRequest where
  stream := stream
  targetId := worker.playbackTargetId
  latencyMs := worker.bufferProfile.playbackLatencyMs

/-! ### Connecting -/

def handleConnect (secsF64 : SecsF64) (env : HandlerEnv) (connection : ReceiverConnectionInfo)
    (worker : ReceiverWorker) : ReceiverWorker :=
  let worker := worker.stopPlaybackSink env
  let worker := resetSyncTimeline false
    { worker with buffer := .new secsF64 worker.bufferProfile connection.stream }
  let worker := { worker with sync :=
    { ReceiverSyncSnapshot.fromProfile worker.bufferProfile with
      state := .priming
      requestedLatencyMs := some connection.requestedLatencyMs } }
  -- a sink that does not start leaves the worker without a session
  match env.startStream (worker.startRequest connection.stream) with
  | .ok sink =>
    { worker with
      playbackSink := some sink
      connection := some connection
      state := .connected
      lastTransportActivity := some (env.now 0)
      lastError := none }
  | .error error => setError env error.display { worker with connection := none }

def handlePlaybackTargetChange (env : HandlerEnv) (targetId : Option String)
    (worker : ReceiverWorker) : ReceiverWorker :=
  let worker := { worker with playbackTargetId := targetId, lastError := none }
  match worker.connection with
  | none => if worker.state = .error then { worker with state := .listening } else worker
  | some connection =>
    match env.startStream (worker.startRequest connection.stream) with
    -- the new sink is opened before the old one is closed
    | .ok sink =>
      let worker := worker.stopPlaybackSink env
      { worker with
        playbackSink := some sink
        state := if worker.state = .connected then .buffering else worker.state }
    | .error error => { worker with lastError := some error.display }

/-! ### Packets -/

/-- The sync window opens with the first packet; every packet leaves its timestamps. -/
def openSyncWindow (receivedAt : Instant) (packet : ReceiverAudioPacket) (worker : ReceiverWorker) :
    ReceiverWorker :=
  { worker with
    syncClock := some (worker.syncClock.getD ⟨receivedAt, packet.capturedAtMs⟩)
    sync := { worker.sync with
      lastSenderTimestampMs := some packet.capturedAtMs
      lastSenderCaptureUnixMs := some packet.capturedAtUnixMs } }

/-- The bookkeeping for a packet that was pushed. -/
def countPacket (receivedAt : Instant) (packet : ReceiverAudioPacket) (frameCount : ℕ)
    (outcome : BufferPushOutcome) (buffer : ReceiverPacketBuffer) (worker : ReceiverWorker) :
    ReceiverWorker :=
  refreshSyncBufferMetrics { worker with
    buffer := buffer
    metrics := { worker.metrics with
      overruns :=
        match outcome with
        | .accepted => worker.metrics.overruns
        | .droppedOldest _ => worker.metrics.overruns + 1
      packetsReceived := worker.metrics.packetsReceived + 1
      framesReceived := worker.metrics.framesReceived + frameCount
      bytesReceived := worker.metrics.bytesReceived + packet.payload.length
      bufferFillPercent := buffer.snapshot.fillPercent }
    lastTransportActivity := some receivedAt }

/-- The states a packet leaves behind, by whether the buffer is ready. -/
def settleStates (worker : ReceiverWorker) : ReceiverWorker :=
  if worker.buffer.isReady then
    { worker with
      state := if worker.state = .playing then .playing else .buffering
      nextPlaybackDeadline := worker.nextPlaybackDeadline.or
        (worker.buffer.front.bind fun front ↦ worker.writeDeadlineFor front.packet.capturedAtMs)
      sync := { worker.sync with
        state :=
          match worker.sync.state with
          | .idle | .priming | .recovering => .priming
          | state => state } }
  else if worker.state = .connected ∨ worker.state = .buffering then
    { worker with
      state := .buffering
      sync := { worker.sync with
        state := if worker.sync.state = .recovering then .recovering else .priming } }
  else worker

def handlePacket (env : HandlerEnv) (packet : ReceiverAudioPacket) (worker : ReceiverWorker) :
    ReceiverWorker :=
  match worker.connection with
  | none => worker
  | some connection =>
    let receivedAt := env.now 0
    let worker := worker.openSyncWindow receivedAt packet
    match packet.frameCount connection.stream with
    | .error message => worker.setError env message
    | .ok frameCount =>
      match worker.buffer.push packet connection.stream with
      | .error error => worker.setError env error.display
      | .ok (outcome, buffer) =>
        (worker.countPacket receivedAt packet frameCount outcome buffer).settleStates

/-! ### Draining -/

/-- How `drain_ready_packets` ends. -/
inductive DrainExit
  | notConnected
  | noClock
  | notReady
  /-- The buffer ran empty. -/
  | drained
  /-- A packet without a deadline. -/
  | missingDeadline
  /-- The last packet was stale. -/
  | resynced
  /-- The next packet is not due yet. -/
  | waiting
  /-- There is no sink to write to. -/
  | sinkDisappeared
  | writeFailed
  /-- `expect` failed. -/
  | panicked
  deriving DecidableEq, Repr

/-- The buffer is empty at the head of a round: if the worker was playing, it ran dry. -/
def underrun (worker : ReceiverWorker) : ReceiverWorker :=
  if worker.state = .playing then
    let worker := measureFill { worker with
      metrics := { worker.metrics with underruns := worker.metrics.underruns + 1 }
      state := .buffering }
    (worker.resetSyncTimeline true).setSyncState .recovering
  else worker

/-- The next packet is due at `deadline`, from which the clock differs by `scheduleErrorMs`. -/
def schedule (deadline : Instant) (scheduleErrorMs : ℤ) (worker : ReceiverWorker) : ReceiverWorker :=
  { worker with
    nextPlaybackDeadline := some deadline
    sync := { worker.sync with scheduleErrorMs } }

/-- Nothing to play right now. -/
def awaitPacket (worker : ReceiverWorker) : ReceiverWorker :=
  { worker with state := if worker.state = .playing then .playing else .buffering }

/-- A packet was taken out, which leaves `buffer`. -/
def withBuffer (buffer : ReceiverPacketBuffer) (worker : ReceiverWorker) : ReceiverWorker :=
  { worker with buffer }

/-- A stale packet was taken out, which leaves `buffer`. -/
def dropStale (buffer : ReceiverPacketBuffer) (worker : ReceiverWorker) : ReceiverWorker :=
  (measureFill { worker with
    buffer := buffer
    sync := { worker.sync with
      latePacketDrops := worker.sync.latePacketDrops + 1
      state := .late } }).refreshSyncBufferMetrics

/-- A packet was written. -/
def countPlayed (packet : BufferedPacket) (scheduleErrorMs : ℤ) (sinkWrite : SinkWrite)
    (worker : ReceiverWorker) : ReceiverWorker :=
  (measureFill { worker with
    metrics := { worker.metrics with
      packetsPlayed := worker.metrics.packetsPlayed + 1
      framesPlayed := worker.metrics.framesPlayed + packet.frameCount
      bytesPlayed := worker.metrics.bytesPlayed + packet.packet.payload.length }
    state := .playing
    sync := { worker.sync with
      state :=
        if scheduleErrorMs > worker.bufferProfile.latencyToleranceMs.toNat then .late else .locked }
    nextPlaybackDeadline := none
    written := worker.written ++ [sinkWrite] }).refreshSyncBufferMetrics

/-- One round of the drain loop. `scheduled` is the worker with the packet's deadline noted down. -/
def drainRound (env : HandlerEnv) (round : ℕ) (worker : ReceiverWorker) :
    LoopStep ReceiverWorker (DrainExit × ReceiverWorker) :=
  match worker.buffer.front with
  | none => .done (.drained, worker.underrun)
  | some front =>
  match worker.writeDeadlineFor front.packet.capturedAtMs with
  | none => .done (.missingDeadline, worker)
  | some deadline =>
  let now := env.now round
  let scheduleErrorMs := signedInstantDeltaMs now deadline
  let scheduled := worker.schedule deadline scheduleErrorMs
  -- lateness is rounded to milliseconds, earliness is not
  if scheduleErrorMs > worker.bufferProfile.latePacketDropMs.toNat then
    match worker.buffer.pop with
    | none => .done (.panicked, scheduled)
    | some (_, buffer) =>
      match buffer.front with
      | none => .done (.resynced,
          ((scheduled.dropStale buffer).resetSyncTimeline true).setSyncState .recovering)
      | some _ => .again (scheduled.dropStale buffer)
  else if now < deadline then .done (.waiting, scheduled.awaitPacket)
  else
    match worker.buffer.pop with
    | none => .done (.panicked, scheduled)
    | some (packet, buffer) =>
      match worker.playbackSink with
      -- the packet is already out of the buffer and is lost
      | none => .done (.sinkDisappeared,
          (scheduled.withBuffer buffer).setError env
            "playback sink disappeared during active stream")
      | some sink =>
        match env.write round sink packet.packet.payload with
        | .error error =>
          .done (.writeFailed, (scheduled.withBuffer buffer).setError env error.display)
        | .ok () =>
          .again ((scheduled.withBuffer buffer).countPlayed packet scheduleErrorMs
            ⟨sink, packet.packet.payload, now, deadline⟩)

/-- The body of the drain loop, over the number of the round and the worker. -/
def drainBody (env : HandlerEnv) :
    ℕ × ReceiverWorker → LoopStep (ℕ × ReceiverWorker) (DrainExit × ReceiverWorker) :=
  fun (round, worker) ↦
    match drainRound env round worker with
    | .again worker => .again (round + 1, worker)
    | .done result => .done result

/-- The drain loop. Every further round takes a packet out, so the length of the buffer bounds the
number of rounds (`drainLoop_isSome`). -/
def drainLoop (env : HandlerEnv) (worker : ReceiverWorker) : Option (DrainExit × ReceiverWorker) :=
  Loop.run (drainBody env) (worker.buffer.packets.length + 1) (0, worker)

/-- `drain_ready_packets`. -/
def drainReadyPackets (env : HandlerEnv) (worker : ReceiverWorker) :
    Option (DrainExit × ReceiverWorker) :=
  if worker.connection.isNone then some (.notConnected, worker)
  else if worker.syncClock.isNone then
    some (.noClock, { worker with
      state := if worker.state = .connected then .buffering else worker.state })
  else if worker.nextPlaybackDeadline.isNone ∧ worker.buffer.isReady = false then
    some (.notReady, { worker.awaitPacket with
      sync := { worker.sync with
        state := if worker.sync.state = .recovering then .recovering else .priming
        scheduleErrorMs := 0 } })
  else drainLoop env worker

/-! ### Ticks -/

def checkTransportTimeout (env : HandlerEnv) (worker : ReceiverWorker) : ReceiverWorker :=
  match worker.lastTransportActivity with
  | none => worker
  | some lastActivity =>
    if worker.connection.isSome ∧
        worker.bufferProfile.reconnectGracePeriod ≤ env.timeoutNow - lastActivity then
      worker.handleDisconnect env "receiver transport timed out" true
    else worker

/-- `on_tick`. `none` stands for a panic. -/
def onTick (env : HandlerEnv) (worker : ReceiverWorker) : Option ReceiverWorker :=
  match worker.drainReadyPackets env with
  | none | some (.panicked, _) => none
  | some (_, worker) => some (worker.checkTransportTimeout env).refreshSyncBufferMetrics

/-- `handle_transport_event`. -/
def handleTransportEvent (secsF64 : SecsF64) (env : HandlerEnv) (event : ReceiverTransportEvent)
    (worker : ReceiverWorker) : ReceiverWorker :=
  match event with
  | .connected connection => worker.handleConnect secsF64 env connection
  | .audioPacket packet => worker.handlePacket env packet
  | .keepAlive => { worker with lastTransportActivity := some (env.now 0) }
  | .disconnected reason reconnectSuggested =>
    worker.handleDisconnect env reason reconnectSuggested
  | .error message => worker.setError env message

/-! ### The worker as a state machine -/

/-- What reaches the worker: `ReceiverCommand`, or a tick. `Shutdown` ends the worker and is no step
of it. -/
inductive WorkerInput
  | transport (event : ReceiverTransportEvent)
  | setPlaybackTarget (targetId : Option String)
  | tick
  deriving DecidableEq, Repr

/-- One turn of `receiver_worker_loop`. -/
def step (secsF64 : SecsF64) (worker : ReceiverWorker) :
    HandlerEnv × WorkerInput → Option ReceiverWorker
  | (env, .transport event) => some (worker.handleTransportEvent secsF64 env event)
  | (env, .setPlaybackTarget targetId) => some (worker.handlePlaybackTargetChange env targetId)
  | (env, .tick) => worker.onTick env

/-- `next_wait_duration`, at the clock reading `now`. -/
def nextWaitDuration (now : Instant) (worker : ReceiverWorker) : Duration :=
  let wait := Duration.fromMillis 200
  let wait :=
    match worker.nextPlaybackDeadline with
    | none => wait
    | some deadline => min wait (deadline - now)
  let wait :=
    match worker.lastTransportActivity with
    | none => wait
    | some lastActivity =>
      min wait (worker.bufferProfile.reconnectGracePeriod - (now - lastActivity))
  max wait (Duration.fromMillis 5)

/-- Surroundings in which every call succeeds, at a fixed moment. -/
def calmEnv (now : Instant) : HandlerEnv where
  now _ := now
  timeoutNow := now
  startStream _ := .ok ⟨0⟩
  write _ _ _ := .ok ()
  stop _ := .ok ()

end ReceiverWorker

end SynchroSonic
