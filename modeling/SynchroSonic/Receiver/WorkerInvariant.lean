import SynchroSonic.Receiver.Worker

/-!
# The representation invariant of the receiver worker

`ReceiverWorker.Invariant` ties the fields of the worker together: which of them are set follows from
whether there is a connection and whether a sync window is open. The handlers are covered one by one;
those that close a session end in a `Disconnected` worker, and the drain loop keeps a `Draining` one
until it leaves.

`drainRound_outcome` says what a round of the drain loop can do in such a worker. Neither a panic nor
a missing sink nor a missing deadline is among it (`worker_invariant`).
-/

namespace SynchroSonic

/-- The states of a worker that has a connection. -/
def ReceiverServiceState.isActive : ReceiverServiceState → Bool
  | .connected | .buffering | .playing => true
  | .idle | .listening | .error => false

namespace ReceiverWorker

/-- **The representation invariant.** -/
structure Invariant (worker : ReceiverWorker) : Prop where
  /-- The state is an active one exactly when there is a connection. -/
  active : worker.state.isActive = true ↔ worker.connection.isSome = true
  /-- A connection has a sink. -/
  sink : worker.connection.isSome = true → worker.playbackSink.isSome = true
  /-- Without a connection nothing is left of it. -/
  disconnected : worker.connection = none → worker.playbackSink = none ∧
    worker.buffer.packets = [] ∧ worker.syncClock = none ∧ worker.nextPlaybackDeadline = none
  /-- Outside a sync window nothing is queued or due. -/
  clockless : worker.syncClock = none →
    worker.buffer.packets = [] ∧ worker.nextPlaybackDeadline = none

/-- A worker that has just closed a session. -/
structure Disconnected (worker : ReceiverWorker) : Prop where
  state : worker.state.isActive = false
  connection : worker.connection = none
  playbackSink : worker.playbackSink = none
  packets : worker.buffer.packets = []
  syncClock : worker.syncClock = none
  nextPlaybackDeadline : worker.nextPlaybackDeadline = none

/-- A worker without a session satisfies the invariant. -/
theorem Disconnected.invariant {worker : ReceiverWorker} (h : worker.Disconnected) :
    worker.Invariant where
  active := by simp [h.state, h.connection]
  sink := by simp [h.connection]
  disconnected _ := ⟨h.playbackSink, h.packets, h.syncClock, h.nextPlaybackDeadline⟩
  clockless _ := ⟨h.packets, h.nextPlaybackDeadline⟩

/-! ### Closing a session -/

/-- `stop_playback_sink` touches the sink and the last error, and nothing else. -/
theorem stopPlaybackSink_eq (env : HandlerEnv) (worker : ReceiverWorker) :
    ∃ lastError, worker.stopPlaybackSink env =
      { worker with playbackSink := none, lastError := lastError } := by
  unfold stopPlaybackSink
  split
  next hsink => exact ⟨worker.lastError, by rw [← hsink]⟩
  next sink hsink =>
    split
    · exact ⟨worker.lastError, rfl⟩
    next error hstop => exact ⟨some error.display, rfl⟩

/-- An error closes the session. -/
theorem setError_disconnected (env : HandlerEnv) (message : String) (worker : ReceiverWorker) :
    (worker.setError env message).Disconnected := by
  obtain ⟨lastError, hstop⟩ := stopPlaybackSink_eq env worker
  simp only [setError, hstop]
  exact ⟨rfl, rfl, rfl, rfl, rfl, rfl⟩

/-- So does the end of the stream, whether or not a reconnect is suggested. -/
theorem handleDisconnect_disconnected (env : HandlerEnv) (reason : String)
    (reconnectSuggested : Bool) (worker : ReceiverWorker) :
    (worker.handleDisconnect env reason reconnectSuggested).Disconnected := by
  unfold handleDisconnect
  dsimp only
  obtain ⟨lastError, hstop⟩ := stopPlaybackSink_eq env { worker with metrics := { worker.metrics with
    reconnectAttempts := worker.metrics.reconnectAttempts + if reconnectSuggested then 1 else 0 } }
  rw [hstop]
  exact ⟨rfl, rfl, rfl, rfl, rfl, rfl⟩

@[simp] theorem stopPlaybackSink_bufferProfile (env : HandlerEnv) (worker : ReceiverWorker) :
    (worker.stopPlaybackSink env).bufferProfile = worker.bufferProfile := by
  obtain ⟨lastError, hstop⟩ := stopPlaybackSink_eq env worker
  rw [hstop]

@[simp] theorem setError_bufferProfile (env : HandlerEnv) (message : String)
    (worker : ReceiverWorker) : (worker.setError env message).bufferProfile = worker.bufferProfile :=
  stopPlaybackSink_bufferProfile env worker

@[simp] theorem handleDisconnect_bufferProfile (env : HandlerEnv) (reason : String)
    (reconnectSuggested : Bool) (worker : ReceiverWorker) :
    (worker.handleDisconnect env reason reconnectSuggested).bufferProfile = worker.bufferProfile :=
  stopPlaybackSink_bufferProfile env _

/-- An error empties the buffer. -/
theorem setError_buffer (env : HandlerEnv) (message : String) (worker : ReceiverWorker) :
    (worker.setError env message).buffer = worker.buffer.clear := by
  obtain ⟨lastError, hstop⟩ := stopPlaybackSink_eq env worker
  simp only [setError, hstop, resetSyncTimeline]

/-- So does the end of the stream. -/
theorem handleDisconnect_buffer (env : HandlerEnv) (reason : String) (reconnectSuggested : Bool)
    (worker : ReceiverWorker) :
    (worker.handleDisconnect env reason reconnectSuggested).buffer = worker.buffer.clear := by
  obtain ⟨lastError, hstop⟩ := stopPlaybackSink_eq env { worker with metrics := { worker.metrics with
    reconnectAttempts := worker.metrics.reconnectAttempts + if reconnectSuggested then 1 else 0 } }
  simp only [handleDisconnect, hstop, resetSyncTimeline]

/-! ### Connecting and changing the target -/

variable {secsF64 : SecsF64} {env : HandlerEnv} {worker : ReceiverWorker}

/-- A new worker has no session to close. -/
theorem Invariant.new (secsF64 : SecsF64) (playbackTargetId : Option String)
    (latencyPreset : ReceiverLatencyPreset) :
    (ReceiverWorker.new secsF64 playbackTargetId latencyPreset).Invariant :=
  Disconnected.invariant ⟨rfl, rfl, rfl, rfl, rfl, rfl⟩

/-- A session opens with a sink or not at all: a sink that cannot be started is an error. -/
theorem handleConnect_invariant (secsF64 : SecsF64) (env : HandlerEnv)
    (connection : ReceiverConnectionInfo) (worker : ReceiverWorker) :
    (worker.handleConnect secsF64 env connection).Invariant := by
  obtain ⟨lastError, hstop⟩ := stopPlaybackSink_eq env worker
  simp only [handleConnect, hstop]
  split
  · exact ⟨by simp [ReceiverServiceState.isActive], by simp, by simp, fun _ ↦ ⟨rfl, rfl⟩⟩
  · exact (setError_disconnected _ _ _).invariant

/-- `handle_playback_target_change` touches the target and the sink, the state and the last error, and
nothing else. A worker in the error state listens again, and one that has just connected starts to
buffer. -/
theorem handlePlaybackTargetChange_eq (env : HandlerEnv) (targetId : Option String)
    (worker : ReceiverWorker) :
    ∃ playbackTargetId playbackSink state lastError,
      worker.handlePlaybackTargetChange env targetId =
        { worker with playbackTargetId, playbackSink, state, lastError } ∧
      (state = worker.state ∨ worker.state = .error ∧ state = .listening ∨
        worker.state = .connected ∧ state = .buffering) := by
  unfold handlePlaybackTargetChange
  dsimp only
  split
  · split
    next herror =>
      exact ⟨targetId, worker.playbackSink, .listening, none, rfl, Or.inr (Or.inl ⟨herror, rfl⟩)⟩
    · exact ⟨targetId, worker.playbackSink, worker.state, none, rfl, Or.inl rfl⟩
  split
  next sink hstart =>
    obtain ⟨lastError, hstop⟩ := stopPlaybackSink_eq env
      { worker with playbackTargetId := targetId, lastError := none }
    rw [hstop]
    refine ⟨targetId, some sink, _, lastError, rfl, ?_⟩
    split
    next hconnected => exact Or.inr (Or.inr ⟨hconnected, rfl⟩)
    · exact Or.inl rfl
  next error hstart =>
    exact ⟨targetId, worker.playbackSink, worker.state, some error.display, rfl, Or.inl rfl⟩

/-- The sink of another target takes the place of the old one; if it cannot be started, the old one goes on. -/
theorem handlePlaybackTargetChange_invariant (env : HandlerEnv) (targetId : Option String)
    (h : worker.Invariant) : (worker.handlePlaybackTargetChange env targetId).Invariant := by
  unfold handlePlaybackTargetChange
  dsimp only
  split
  next hconnection =>
    have hactive : worker.state.isActive = false := by
      have := h.active
      simpa [hconnection] using this
    obtain ⟨hsink, hpackets, hclock, hdeadline⟩ := h.disconnected hconnection
    split
    · exact Disconnected.invariant ⟨rfl, hconnection, hsink, hpackets, hclock, hdeadline⟩
    · exact Disconnected.invariant ⟨hactive, hconnection, hsink, hpackets, hclock, hdeadline⟩
  next connection hconnection =>
    have hactive : worker.state.isActive = true := h.active.2 (by simp [hconnection])
    split
    next sink hstart =>
      obtain ⟨lastError, hstop⟩ := stopPlaybackSink_eq env
        { worker with playbackTargetId := targetId, lastError := none }
      rw [hstop]
      refine ⟨?_, fun _ ↦ rfl, by simp [hconnection], h.clockless⟩
      simp only [hconnection, Option.isSome_some, iff_true]
      split
      · rfl
      · exact hactive
    next error hstart => exact ⟨h.active, h.sink, h.disconnected, h.clockless⟩

/-- A change of the target leaves the connection alone. -/
theorem handlePlaybackTargetChange_connection (env : HandlerEnv) (targetId : Option String)
    (worker : ReceiverWorker) :
    (worker.handlePlaybackTargetChange env targetId).connection = worker.connection := by
  obtain ⟨_, _, _, _, heq, -⟩ := handlePlaybackTargetChange_eq env targetId worker
  rw [heq]

/-! ### Packets -/

/-- `settleStates` touches the two states, and sets a deadline where there was none. -/
theorem settleStates_eq (worker : ReceiverWorker) :
    ∃ state nextPlaybackDeadline syncState,
      worker.settleStates =
        { worker with
          state, nextPlaybackDeadline
          sync := { worker.sync with state := syncState } } ∧
      (worker.nextPlaybackDeadline.isSome = true →
        nextPlaybackDeadline = worker.nextPlaybackDeadline) := by
  unfold settleStates
  split
  · refine ⟨_, _, _, rfl, fun hdeadline ↦ ?_⟩
    obtain ⟨deadline, hdeadline⟩ := Option.isSome_iff_exists.1 hdeadline
    rw [hdeadline, Option.some_or]
  split
  · exact ⟨_, _, _, rfl, fun _ ↦ rfl⟩
  · exact ⟨worker.state, worker.nextPlaybackDeadline, worker.sync.state, rfl, fun _ ↦ rfl⟩

/-- The states that follow from the buffer are states of an open session. -/
theorem settleStates_invariant (h : worker.Invariant) (hconnection : worker.connection.isSome = true)
    (hclock : worker.syncClock.isSome = true) : worker.settleStates.Invariant := by
  have hactive := h.active.2 hconnection
  have hclockless (hnone : worker.syncClock = none) : False := by simp [hnone] at hclock
  have hconnected (hnone : worker.connection = none) : False := by simp [hnone] at hconnection
  unfold settleStates
  split
  · refine ⟨?_, h.sink, fun hnone ↦ (hconnected hnone).elim, fun hnone ↦ (hclockless hnone).elim⟩
    simp only [hconnection, iff_true]
    split <;> rfl
  · split
    · exact ⟨iff_of_true rfl hconnection, h.sink, fun hnone ↦ (hconnected hnone).elim,
        fun hnone ↦ (hclockless hnone).elim⟩
    · exact h

/-- A packet is queued in an open session or ends it by its error, and is ignored without one. -/
theorem handlePacket_invariant (env : HandlerEnv) (packet : ReceiverAudioPacket)
    (h : worker.Invariant) : (worker.handlePacket env packet).Invariant := by
  rcases hconnection : worker.connection with - | connection
  · simp only [handlePacket, hconnection]
    exact h
  have hsome : worker.connection.isSome = true := by simp [hconnection]
  simp only [handlePacket, hconnection]
  split
  · exact (setError_disconnected _ _ _).invariant
  split
  · exact (setError_disconnected _ _ _).invariant
  · refine settleStates_invariant ⟨h.active, h.sink, ?_, ?_⟩ hsome rfl
    · intro hnone
      simp [countPacket, refreshSyncBufferMetrics, openSyncWindow, hconnection] at hnone
    · intro hnone
      simp [countPacket, refreshSyncBufferMetrics, openSyncWindow] at hnone

/-! ### Draining -/

/-- The worker at the head of a round of the drain loop. -/
structure Draining (worker : ReceiverWorker) : Prop where
  active : worker.state.isActive = true
  connection : worker.connection.isSome = true
  playbackSink : worker.playbackSink.isSome = true
  syncClock : worker.syncClock.isSome = true

/-- The loop is entered and gone round in states that satisfy the invariant. -/
theorem Draining.invariant (h : worker.Draining) : worker.Invariant where
  active := iff_of_true h.active h.connection
  sink _ := h.playbackSink
  disconnected hnone := by
    have := h.connection
    simp [hnone] at this
  clockless hnone := by
    have := h.syncClock
    simp [hnone] at this

/-- A worker that waits for its next packet is in a session. -/
theorem awaitPacket_active (worker : ReceiverWorker) : worker.awaitPacket.state.isActive = true := by
  unfold awaitPacket
  dsimp only
  split <;> rfl

/-- What a round of the drain loop does. `packet` is the one at the front of the buffer, due at
`deadline`, and `buffer` is what is left without it. -/
inductive DrainOutcome (env : HandlerEnv) (round : ℕ) (worker : ReceiverWorker) :
    LoopStep ReceiverWorker (DrainExit × ReceiverWorker) → Prop
  /-- The buffer is empty. -/
  | drained (empty : worker.buffer.packets = []) :
      DrainOutcome env round worker (.done (.drained, worker.underrun))
  /-- The packet is stale, and there are more. -/
  | stale {packet : BufferedPacket} {buffer : ReceiverPacketBuffer} {deadline : Instant}
      (pop : worker.buffer.pop = some (packet, buffer))
      (due : worker.writeDeadlineFor packet.packet.capturedAtMs = some deadline)
      (late : signedInstantDeltaMs (env.now round) deadline >
        worker.bufferProfile.latePacketDropMs.toNat) (more : buffer.packets ≠ []) :
      DrainOutcome env round worker (.again
        ((worker.schedule deadline (signedInstantDeltaMs (env.now round) deadline)).dropStale
          buffer))
  /-- The packet is stale and was the last one. -/
  | resynced {packet : BufferedPacket} {buffer : ReceiverPacketBuffer} {deadline : Instant}
      (pop : worker.buffer.pop = some (packet, buffer))
      (due : worker.writeDeadlineFor packet.packet.capturedAtMs = some deadline)
      (late : signedInstantDeltaMs (env.now round) deadline >
        worker.bufferProfile.latePacketDropMs.toNat) (empty : buffer.packets = []) :
      DrainOutcome env round worker (.done (.resynced,
        (((worker.schedule deadline (signedInstantDeltaMs (env.now round) deadline)).dropStale
          buffer).resetSyncTimeline true).setSyncState .recovering))
  /-- The packet is not due yet. -/
  | waiting {deadline : Instant} (early : env.now round < deadline) :
      DrainOutcome env round worker (.done (.waiting,
        (worker.schedule deadline (signedInstantDeltaMs (env.now round) deadline)).awaitPacket))
  /-- The sink refused the packet. -/
  | writeFailed {packet : BufferedPacket} {buffer : ReceiverPacketBuffer} {deadline : Instant}
      {message : String} (pop : worker.buffer.pop = some (packet, buffer)) :
      DrainOutcome env round worker (.done (.writeFailed, setError env message
        ((worker.schedule deadline (signedInstantDeltaMs (env.now round) deadline)).withBuffer
          buffer)))
  /-- The sink took the packet. -/
  | played {packet : BufferedPacket} {buffer : ReceiverPacketBuffer} {deadline : Instant}
      {sink : PlaybackSink} (pop : worker.buffer.pop = some (packet, buffer))
      (due : worker.writeDeadlineFor packet.packet.capturedAtMs = some deadline)
      (punctual : deadline ≤ env.now round)
      (inTime : signedInstantDeltaMs (env.now round) deadline ≤
        worker.bufferProfile.latePacketDropMs.toNat) :
      DrainOutcome env round worker (.again (countPlayed packet
        (signedInstantDeltaMs (env.now round) deadline)
        ⟨sink, packet.packet.payload, env.now round, deadline⟩
        ((worker.schedule deadline (signedInstantDeltaMs (env.now round) deadline)).withBuffer
          buffer)))

/-- **What a round of the drain loop does.** -/
theorem drainRound_outcome (env : HandlerEnv) (round : ℕ) (h : worker.Draining) :
    DrainOutcome env round worker (drainRound env round worker) := by
  obtain ⟨clock, hclock⟩ := Option.isSome_iff_exists.1 h.syncClock
  obtain ⟨sink, hsink⟩ := Option.isSome_iff_exists.1 h.playbackSink
  rcases hfront : worker.buffer.front with - | packet
  · simp only [drainRound, hfront]
    exact .drained (ReceiverPacketBuffer.front_eq_none.1 hfront)
  obtain ⟨buffer, hpop⟩ := ReceiverPacketBuffer.pop_of_front hfront
  have hdue : worker.writeDeadlineFor packet.packet.capturedAtMs = some
      (clock.writeDeadline packet.packet.capturedAtMs worker.bufferProfile.targetBufferMs) := by
    simp only [writeDeadlineFor, hclock, Option.map_some]
  generalize clock.writeDeadline packet.packet.capturedAtMs worker.bufferProfile.targetBufferMs =
    deadline at hdue
  simp only [drainRound, hfront, hdue, hpop, hsink]
  split
  next hlate =>
    rcases hmore : buffer.front with - | next
    · exact .resynced hpop hdue hlate (ReceiverPacketBuffer.front_eq_none.1 hmore)
    · refine .stale hpop hdue hlate fun hempty ↦ ?_
      rw [ReceiverPacketBuffer.front_eq_none.2 hempty] at hmore
      exact nomatch hmore
  next hinTime =>
  split
  next hearly => exact .waiting hearly
  next hpunctual =>
  split
  · exact .writeFailed hpop
  · exact .played hpop hdue (not_lt.1 hpunctual) (not_lt.1 hinTime)

/-- A drain round that goes on leaves a worker that drains, one packet shorter. -/
theorem drainRound_again {round : ℕ} {next : ReceiverWorker} (h : worker.Draining)
    (hround : drainRound env round worker = .again next) :
    next.Draining ∧ next.buffer.packets.length < worker.buffer.packets.length := by
  have houtcome := drainRound_outcome env round h
  rw [hround] at houtcome
  cases houtcome with
  | stale pop =>
    obtain ⟨hpackets, -, -⟩ := ReceiverPacketBuffer.pop_eq_some pop
    refine ⟨⟨h.active, h.connection, h.playbackSink, h.syncClock⟩, ?_⟩
    rw [hpackets]
    exact Nat.lt_succ_self _
  | played pop =>
    obtain ⟨hpackets, -, -⟩ := ReceiverPacketBuffer.pop_eq_some pop
    refine ⟨⟨rfl, h.connection, h.playbackSink, h.syncClock⟩, ?_⟩
    rw [hpackets]
    exact Nat.lt_succ_self _

/-- The exits that the representation invariant rules out. -/
def DrainExit.isImpossible : DrainExit → Bool
  | .sinkDisappeared | .missingDeadline | .panicked => true
  | _ => false

/-- A worker that runs dry touches neither its session nor its queue, and counts no packet. -/
theorem underrun_eq (worker : ReceiverWorker) :
    ∃ underruns bufferFillPercent state syncClock nextPlaybackDeadline sync,
      worker.underrun = { worker with
        metrics := { worker.metrics with underruns, bufferFillPercent }
        state, syncClock, nextPlaybackDeadline, sync } ∧
      sync.latePacketDrops = worker.sync.latePacketDrops := by
  unfold underrun
  split
  · exact ⟨_, _, _, _, _, _, rfl, rfl⟩
  · exact ⟨_, _, _, _, _, _, rfl, rfl⟩

/-- An underrun reports an empty buffer, and keeps the session. -/
theorem underrun_invariant (h : worker.Draining) (hempty : worker.buffer.packets = []) :
    worker.underrun.Invariant := by
  unfold underrun
  split
  · refine ⟨iff_of_true rfl h.connection, fun _ ↦ h.playbackSink, fun hnone ↦ ?_,
      fun _ ↦ ⟨hempty, rfl⟩⟩
    have hsome := h.connection
    change worker.connection = none at hnone
    simp [hnone] at hsome
  · exact h.invariant

/-- A drain round that ends the loop leaves the invariant, by one of the possible exits. -/
theorem drainRound_done {round : ℕ} {exit : DrainExit} {final : ReceiverWorker}
    (h : worker.Draining) (hround : drainRound env round worker = .done (exit, final)) :
    final.Invariant ∧ exit.isImpossible = false := by
  have houtcome := drainRound_outcome env round h
  rw [hround] at houtcome
  cases houtcome with
  | drained empty => exact ⟨underrun_invariant h empty, rfl⟩
  | resynced pop due late empty =>
    refine ⟨⟨iff_of_true h.active h.connection, fun _ ↦ h.playbackSink, fun hnone ↦ ?_,
      fun _ ↦ ⟨empty, rfl⟩⟩, rfl⟩
    have hsome := h.connection
    change worker.connection = none at hnone
    simp [hnone] at hsome
  | waiting early =>
    refine ⟨Draining.invariant ⟨awaitPacket_active _, h.connection, h.playbackSink, h.syncClock⟩, rfl⟩
  | writeFailed pop => exact ⟨(setError_disconnected _ _ _).invariant, rfl⟩

/-- A round that goes on is one of `drainRound`, counted. -/
theorem drainBody_again {state next : ℕ × ReceiverWorker}
    (h : drainBody env state = .again next) :
    drainRound env state.1 state.2 = .again next.2 := by
  simp only [drainBody] at h
  split at h
  next hround =>
    obtain rfl := LoopStep.again.inj h
    exact hround
  · exact nomatch h

/-- So is the last round. -/
theorem drainBody_done {state : ℕ × ReceiverWorker} {result : DrainExit × ReceiverWorker}
    (h : drainBody env state = .done result) : drainRound env state.1 state.2 = .done result := by
  simp only [drainBody] at h
  split at h
  · exact nomatch h
  next hround =>
    obtain rfl := LoopStep.done.inj h
    exact hround

/-- The ways `drain_ready_packets` can go: three early returns, and the loop. -/
inductive DrainStart (env : HandlerEnv) (worker : ReceiverWorker) :
    Option (DrainExit × ReceiverWorker) → Prop
  | notConnected (connection : worker.connection = none) :
      DrainStart env worker (some (.notConnected, worker))
  | noClock (clock : worker.syncClock = none) :
      DrainStart env worker (some (.noClock, { worker with
        state := if worker.state = .connected then .buffering else worker.state }))
  | notReady {sync : ReceiverSyncSnapshot} (clock : worker.syncClock.isSome = true)
      (notReady : ¬(worker.nextPlaybackDeadline.isSome = true ∨ worker.buffer.isReady = true))
      (drops : sync.latePacketDrops = worker.sync.latePacketDrops) :
      DrainStart env worker (some (.notReady, { worker.awaitPacket with sync := sync }))
  | drains (draining : worker.Draining)
      (ready : worker.nextPlaybackDeadline.isSome = true ∨ worker.buffer.isReady = true) :
      DrainStart env worker (worker.drainLoop env)

/-- **How `drain_ready_packets` starts.** -/
theorem drainReadyPackets_start (env : HandlerEnv) (h : worker.Invariant) :
    DrainStart env worker (worker.drainReadyPackets env) := by
  unfold drainReadyPackets
  split
  next hconnection => exact .notConnected (Option.isNone_iff_eq_none.1 hconnection)
  next hconnection =>
  split
  next hclock => exact .noClock (Option.isNone_iff_eq_none.1 hclock)
  next hclock =>
  have hconnection : worker.connection.isSome = true := by
    simpa [← Option.isSome_iff_ne_none] using hconnection
  have hclock : worker.syncClock.isSome = true := by
    simpa [← Option.isSome_iff_ne_none] using hclock
  split
  next hnotReady =>
    refine .notReady hclock ?_ rfl
    rintro (hdeadline | hready)
    · exact Option.isSome_iff_ne_none.1 hdeadline (Option.isNone_iff_eq_none.1 hnotReady.1)
    · exact Bool.false_ne_true (hnotReady.2.symm.trans hready)
  next hready =>
    refine .drains ⟨h.active.2 hconnection, hconnection, h.sink hconnection, hclock⟩ ?_
    exact (not_and_or.1 hready).imp (fun hdeadline ↦ Option.isSome_iff_ne_none.2 fun hnone ↦
      hdeadline (Option.isNone_iff_eq_none.2 hnone)) Bool.eq_true_of_not_eq_false

/-- The exits of `drain_ready_packets` in front of the loop. -/
def DrainExit.isEarly : DrainExit → Bool
  | .notConnected | .noClock | .notReady => true
  | _ => false

/-- `drain_ready_packets` returns early, and then it touches nothing but the two states, or it
drains. -/
theorem drainReadyPackets_cases (env : HandlerEnv) (h : worker.Invariant) :
    (∃ exit state sync,
      worker.drainReadyPackets env = some (exit, { worker with state := state, sync := sync }) ∧
      exit.isEarly = true ∧ state.isActive = worker.state.isActive ∧
      sync.latePacketDrops = worker.sync.latePacketDrops) ∨
    (worker.Draining ∧ worker.drainReadyPackets env = worker.drainLoop env) := by
  have hstart := drainReadyPackets_start env h
  generalize worker.drainReadyPackets env = result at hstart ⊢
  cases hstart with
  | notConnected connection => exact Or.inl ⟨_, worker.state, worker.sync, rfl, rfl, rfl, rfl⟩
  | noClock clock =>
    refine Or.inl ⟨_, _, worker.sync, rfl, rfl, ?_, rfl⟩
    split
    next hconnected => rw [hconnected]; rfl
    · rfl
  | @notReady sync clock notReady drops =>
    have hactive : worker.state.isActive = true := h.active.2 (by
      by_contra hnone
      have hconnection := Option.not_isSome_iff_eq_none.1 hnone
      rw [(h.disconnected hconnection).2.2.1] at clock
      exact Bool.false_ne_true clock)
    exact Or.inl ⟨_, _, sync, rfl, rfl, (awaitPacket_active worker).trans hactive.symm, drops⟩
  | drains draining ready => exact Or.inr ⟨draining, rfl⟩

/-- **The rule of the drain loop**: what every round keeps while the worker drains, and turns into
`P` when it leaves, gives `P` of the result. -/
theorem of_drainLoop {I : ReceiverWorker → Prop} {P : DrainExit × ReceiverWorker → Prop}
    (hagain : ∀ round worker next, worker.Draining → I worker →
      drainRound env round worker = .again next → I next)
    (hdone : ∀ round worker result, worker.Draining → I worker →
      drainRound env round worker = .done result → P result)
    {result : DrainExit × ReceiverWorker} (hdraining : worker.Draining) (hI : I worker)
    (hrun : worker.drainLoop env = some result) : P result :=
  @Loop.of_run _ _ _ (fun state ↦ state.2.Draining ∧ I state.2) P
    (fun _ _ hstate hstep ↦ ⟨(drainRound_again hstate.1 (drainBody_again hstep)).1,
      hagain _ _ _ hstate.1 hstate.2 (drainBody_again hstep)⟩)
    (fun _ _ hstate hstep ↦ hdone _ _ _ hstate.1 hstate.2 (drainBody_done hstep))
    _ _ _ ⟨hdraining, hI⟩ hrun

/-- **The drain loop ends.** -/
theorem drainLoop_isSome (env : HandlerEnv) (h : worker.Draining) :
    (worker.drainLoop env).isSome :=
  @Loop.run_isSome _ _ _ (fun state ↦ state.2.Draining)
    (fun state ↦ state.2.buffer.packets.length)
    (fun _ _ hdraining hstep ↦ drainRound_again hdraining (drainBody_again hstep)) _ _ h
    (Nat.lt_succ_self _)

/-- **The drain loop ends**, by an exit that the source can reach, and keeps the invariant. -/
theorem drainReadyPackets_invariant (env : HandlerEnv) (h : worker.Invariant) :
    ∃ exit final, worker.drainReadyPackets env = some (exit, final) ∧ final.Invariant ∧
      exit.isImpossible = false := by
  rcases drainReadyPackets_cases env h with
    ⟨exit, state, sync, hdrain, hearly, hactive, -⟩ | ⟨hdraining, hdrain⟩
  · refine ⟨exit, _, hdrain, ⟨?_, h.sink, h.disconnected, h.clockless⟩, ?_⟩
    · rw [← h.active, ← hactive]
    · cases exit <;> first | rfl | exact nomatch hearly
  · obtain ⟨⟨exit, final⟩, hrun⟩ := Option.isSome_iff_exists.1 (drainLoop_isSome env hdraining)
    exact ⟨exit, final, hdrain.trans hrun, @of_drainLoop env worker (fun _ ↦ True)
      (fun result ↦ result.2.Invariant ∧ result.1.isImpossible = false) (fun _ _ _ _ _ _ ↦ trivial)
      (fun _ _ _ hdraining _ hround ↦ drainRound_done hdraining hround) _ hdraining trivial hrun⟩

/-! ### Ticks and runs -/

/-- A session that is given up is closed. -/
theorem checkTransportTimeout_invariant (env : HandlerEnv) (h : worker.Invariant) :
    (worker.checkTransportTimeout env).Invariant := by
  unfold checkTransportTimeout
  split
  · exact h
  split
  · exact (handleDisconnect_disconnected _ _ _ _).invariant
  · exact h

/-- **How a tick goes**: it drains, looks for a timeout, and refreshes what it reports. -/
theorem onTick_eq_some {next : ReceiverWorker} (hstep : worker.onTick env = some next) :
    ∃ exit final, worker.drainReadyPackets env = some (exit, final) ∧
      next = (final.checkTransportTimeout env).refreshSyncBufferMetrics := by
  unfold onTick at hstep
  split at hstep
  · exact nomatch hstep
  · exact nomatch hstep
  next exit final hexit hdrain => exact ⟨exit, final, hdrain, (Option.some.inj hstep).symm⟩

/-- **What a tick does**: it drains, and then it is done or finds the session timed out. -/
theorem onTick_cases {next : ReceiverWorker} (hstep : worker.onTick env = some next) :
    ∃ exit final, worker.drainReadyPackets env = some (exit, final) ∧
      ((∃ sync, next = { final with sync := sync }) ∨
        next.Disconnected ∧ next.bufferProfile = final.bufferProfile) := by
  obtain ⟨exit, final, hdrain, rfl⟩ := onTick_eq_some hstep
  refine ⟨exit, final, hdrain, ?_⟩
  unfold checkTransportTimeout
  split
  · exact Or.inl ⟨_, rfl⟩
  split
  · have hclosed := handleDisconnect_disconnected env "receiver transport timed out" true final
    exact Or.inr ⟨⟨hclosed.state, hclosed.connection, hclosed.playbackSink, hclosed.packets,
      hclosed.syncClock, hclosed.nextPlaybackDeadline⟩,
      handleDisconnect_bufferProfile env "receiver transport timed out" true final⟩
  · exact Or.inl ⟨_, rfl⟩

/-- **A tick comes back, and keeps the invariant.** -/
theorem onTick_invariant (env : HandlerEnv) (h : worker.Invariant) :
    ∃ next, worker.onTick env = some next ∧ next.Invariant := by
  obtain ⟨exit, final, hdrain, hfinal, hexit⟩ := drainReadyPackets_invariant env h
  have hchecked := checkTransportTimeout_invariant env hfinal
  refine ⟨(final.checkTransportTimeout env).refreshSyncBufferMetrics, ?_,
    ⟨hchecked.active, hchecked.sink, hchecked.disconnected, hchecked.clockless⟩⟩
  unfold onTick
  rw [hdrain]
  cases exit with
  | panicked => exact nomatch hexit
  | _ => rfl

/-- So does every event of the transport. -/
theorem handleTransportEvent_invariant (secsF64 : SecsF64) (env : HandlerEnv)
    (event : ReceiverTransportEvent) (h : worker.Invariant) :
    (worker.handleTransportEvent secsF64 env event).Invariant := by
  cases event with
  | connected connection => exact handleConnect_invariant secsF64 env connection worker
  | audioPacket packet => exact handlePacket_invariant env packet h
  | keepAlive => exact ⟨h.active, h.sink, h.disconnected, h.clockless⟩
  | disconnected reason reconnectSuggested =>
    exact (handleDisconnect_disconnected env reason reconnectSuggested worker).invariant
  | error message => exact (setError_disconnected env message worker).invariant

/-- **Every step keeps the invariant, and none panics.** -/
theorem step_invariant (secsF64 : SecsF64) (input : HandlerEnv × WorkerInput)
    (h : worker.Invariant) : ∃ next, worker.step secsF64 input = some next ∧ next.Invariant := by
  obtain ⟨env, input⟩ := input
  cases input with
  | transport event => exact ⟨_, rfl, handleTransportEvent_invariant secsF64 env event h⟩
  | setPlaybackTarget targetId =>
    exact ⟨_, rfl, handlePlaybackTargetChange_invariant env targetId h⟩
  | tick => exact onTick_invariant env h

/-- **The representation invariant.** Whatever events, target changes and ticks reach a worker, with
whatever clock readings and answers of the playback engine and the sinks: it does not panic, its
fields satisfy the invariant, and the drain loop never meets a missing sink, a missing deadline or
an empty buffer where it expects a packet. -/
theorem worker_invariant (secsF64 : SecsF64) (playbackTargetId : Option String)
    (latencyPreset : ReceiverLatencyPreset) (inputs : List (HandlerEnv × WorkerInput)) :
    ∃ worker, Transition.run (step secsF64) (new secsF64 playbackTargetId latencyPreset) inputs =
        some worker ∧
      worker.Invariant ∧
      ∀ env, ∃ exit final, worker.drainReadyPackets env = some (exit, final) ∧
        exit ≠ .sinkDisappeared ∧ exit ≠ .missingDeadline ∧ exit ≠ .panicked := by
  obtain ⟨worker, hrun, hinvariant⟩ :=
    Transition.exists_run (fun _ input h ↦ step_invariant secsF64 input h)
      (Invariant.new secsF64 playbackTargetId latencyPreset) inputs
  refine ⟨worker, hrun, hinvariant, fun env ↦ ?_⟩
  obtain ⟨exit, final, hdrain, -, hexit⟩ := drainReadyPackets_invariant env hinvariant
  refine ⟨exit, final, hdrain, ?_, ?_, ?_⟩ <;> rintro rfl <;> exact nomatch hexit

end ReceiverWorker

end SynchroSonic
