import SynchroSonic.Core.Config
import SynchroSonic.Receiver.LiveSession

/-!
# The receiver runtime

`ReceiverRuntime` is what the application holds: it starts and stops the worker thread, hands it
commands through a channel and reads the status the worker publishes. The caller and the thread run at
the same time. A call that goes to the thread and to the status one after the other is in progress in
between (`RuntimeCall`), and the thread may take any step meanwhile; a handler of the worker touches
nothing shared between taking its command and publishing, so it is one step.

A thread keeps record of the configuration it was started with, of the commands its channel was given
and of what it has taken up; only proofs look at these.

Of a worker in its loop this module shows that it keeps its playback target unless it is told another,
and that it never goes idle (`step_serving`).
-/

namespace SynchroSonic

/-- `ReceiverError`, as far as the calls of the runtime return it. -/
inductive ReceiverCallError
  | disabled (message : String)
  | invalidConfig (message : String)
  | notStarted
  | channelClosed
  | threadJoin
  deriving DecidableEq, Repr

/-- The errors that refuse a call, as opposed to those of a thread that is gone. -/
def ReceiverCallError.isRefusal : ReceiverCallError → Bool
  | .disabled _ | .invalidConfig _ | .notStarted => true
  | .channelClosed | .threadJoin => false

/-- The full `ReceiverSnapshot`; `worker` is the part the worker publishes. -/
structure ReceiverStatus where
  advertisedName : String
  bindHost : String
  listenPort : UInt16
  latencyPreset : ReceiverLatencyPreset
  playbackTargetId : Option String
  playbackBackend : Option String
  worker : ReceiverSnapshot
  deriving DecidableEq, Repr

/-- `ReceiverSnapshot::from_config`. -/
def ReceiverStatus.fromConfig (secsF64 : SecsF64) (config : ReceiverConfig) : ReceiverStatus :=
  let profile := config.latencyPreset.profile
  let (startThresholdPackets, maxPackets) := profile.bufferPacketLimits secsF64 {}
  { advertisedName := config.advertisedName
    bindHost := config.bindHost
    listenPort := config.listenPort
    latencyPreset := config.latencyPreset
    playbackTargetId := config.playbackTargetId
    playbackBackend := none
    worker :=
      { state := .idle
        connection := none
        buffer :=
          { targetBufferMs := profile.targetBufferMs.toNat
            maxBufferMs := profile.maxBufferMs.toNat
            startThresholdPackets := Word.wrap 32 startThresholdPackets
            maxPackets := Word.wrap 32 maxPackets }
        sync := .fromProfile profile
        metrics := {}
        lastError := none } }

/-- `ReceiverWorker::shutdown`, up to what is published. -/
def ReceiverWorker.shutdown (env : HandlerEnv) (worker : ReceiverWorker) : ReceiverWorker :=
  let worker := worker.stopPlaybackSink env
  let worker := resetSyncTimeline false { worker with
    buffer := worker.buffer.clear
    connection := none
    state := .idle
    metrics := { worker.metrics with bufferFillPercent := 0 } }
  { worker with sync := .fromProfile worker.bufferProfile }

/-- What travels to the thread, `Shutdown` included. -/
inductive RuntimeCommand
  | handle (command : ReceiverCommand)
  | shutdown
  deriving DecidableEq, Repr

/-- Where the thread is. -/
inductive ThreadPhase
  /-- It has been spawned and has not made its worker yet. -/
  | spawned
  | running (worker : ReceiverWorker)
  | ended
  | panicked

/-- The worker thread and its end of the channel. -/
structure ReceiverThread where
  /-- The configuration it was started with. -/
  config : ReceiverConfig
  phase : ThreadPhase := .spawned
  /-- The commands on their way, oldest first. -/
  channel : List RuntimeCommand := []
  /-- The commands the channel was given, oldest first. -/
  accepted : List ReceiverCommand := []
  /-- What the worker has taken up, oldest first. -/
  served : List (HandlerEnv × ReceiverWorker.WorkerInput) := []

/-- A call that has not returned yet. -/
inductive RuntimeCall
  | setPlaybackTarget (targetId : Option String)
  | stop
  deriving DecidableEq, Repr

/-- `ReceiverRuntime`, its thread, and the answers its calls gave. -/
structure ReceiverRuntime where
  config : ReceiverConfig
  /-- The name of the playback engine. -/
  backendName : String
  /-- The shared snapshot. -/
  status : ReceiverStatus
  /-- `command_tx` is there. -/
  commandTx : Bool
  worker : Option ReceiverThread
  call : Option RuntimeCall
  answers : List (Except ReceiverCallError Unit)

/-- A step of the caller or of the thread. -/
inductive RuntimeInput
  | setPlaybackTarget (targetId : Option String)
  /-- The second half of `set_playback_target`. -/
  | publishTarget
  | setLatencyPreset (latencyPreset : ReceiverLatencyPreset)
  | start
  | stop
  /-- The second half of `stop`. -/
  | join
  | submit (event : ReceiverTransportEvent)
  /-- The thread makes its worker. -/
  | spawn
  /-- The thread takes the next command. -/
  | deliver (env : HandlerEnv)
  /-- The thread has waited and there is no command. -/
  | timeout (env : HandlerEnv)
  /-- The thread finds the sender gone. -/
  | disconnected (env : HandlerEnv)

/-- A step of the runtime's thread. -/
def RuntimeInput.isThread : RuntimeInput → Bool
  | .spawn | .deliver _ | .timeout _ | .disconnected _ => true
  | .setPlaybackTarget _ | .publishTarget | .setLatencyPreset _ | .start | .stop | .join | .submit _ =>
    false

/-- The worker the thread makes. -/
def ReceiverThread.firstWorker (secsF64 : SecsF64) (thread : ReceiverThread) : ReceiverWorker :=
  .new secsF64 thread.config.playbackTargetId thread.config.latencyPreset

/-- The channel's other end is there. -/
def ReceiverThread.listens (thread : ReceiverThread) : Bool :=
  match thread.phase with
  | .spawned | .running _ => true
  | .ended | .panicked => false

/-- A command is put into the channel. -/
def ReceiverThread.send (command : RuntimeCommand) (thread : ReceiverThread) : ReceiverThread :=
  { thread with
    channel := thread.channel ++ [command]
    accepted := thread.accepted ++
      match command with
      | .handle command => [command]
      | .shutdown => [] }

/-! ### The target and the state of a worker -/

namespace ReceiverWorker

variable {secsF64 : SecsF64} {env : HandlerEnv} {worker next : ReceiverWorker}
  {targetId : Option String}

/-- The playback target after an input. -/
def WorkerInput.retarget (targetId : Option String) : WorkerInput → Option String
  | .setPlaybackTarget targetId => targetId
  | .transport _ | .tick => targetId

/-- A worker in its loop, set to this target. -/
structure Serving (targetId : Option String) (worker : ReceiverWorker) : Prop where
  target : worker.playbackTargetId = targetId
  busy : worker.state ≠ .idle

/-- An error leaves the worker in its loop. -/
theorem setError_serving (h : worker.playbackTargetId = targetId) (message : String) :
    (worker.setError env message).Serving targetId := by
  obtain ⟨lastError, hstop⟩ := stopPlaybackSink_eq env worker
  simp only [setError, hstop]
  exact ⟨h, ReceiverServiceState.noConfusion⟩

/-- So does the end of a session. -/
theorem handleDisconnect_serving (h : worker.playbackTargetId = targetId) (reason : String)
    (reconnectSuggested : Bool) :
    (worker.handleDisconnect env reason reconnectSuggested).Serving targetId := by
  simp only [handleDisconnect]
  generalize hcounted : ({ worker with metrics := { worker.metrics with
    reconnectAttempts := worker.metrics.reconnectAttempts + if reconnectSuggested then 1 else 0 } } :
      ReceiverWorker) = counted
  have htarget : counted.playbackTargetId = targetId := by
    subst hcounted
    exact h
  obtain ⟨lastError, hstop⟩ := stopPlaybackSink_eq env counted
  rw [hstop]
  exact ⟨htarget, ReceiverServiceState.noConfusion⟩

/-- Neither a new session nor the error of its sink changes the target. -/
theorem handleConnect_serving (h : worker.playbackTargetId = targetId)
    (connection : ReceiverConnectionInfo) :
    (worker.handleConnect secsF64 env connection).Serving targetId := by
  obtain ⟨lastError, hstop⟩ := stopPlaybackSink_eq env worker
  simp only [handleConnect, hstop]
  split
  · exact ⟨h, ReceiverServiceState.noConfusion⟩
  · refine setError_serving ?_ _
    exact h

/-- The target changes whether or not its sink opens. -/
theorem handlePlaybackTargetChange_serving (h : worker.state ≠ .idle) (targetId : Option String) :
    (worker.handlePlaybackTargetChange env targetId).Serving targetId := by
  simp only [handlePlaybackTargetChange]
  split
  · split
    · exact ⟨rfl, ReceiverServiceState.noConfusion⟩
    · exact ⟨rfl, h⟩
  split
  · obtain ⟨lastError, hstop⟩ := stopPlaybackSink_eq env
      { worker with playbackTargetId := targetId, lastError := none }
    rw [hstop]
    refine ⟨rfl, ?_⟩
    dsimp only
    split
    · exact ReceiverServiceState.noConfusion
    · exact h
  · exact ⟨rfl, h⟩

/-- A packet changes no target. -/
theorem handlePacket_serving (h : worker.Serving targetId) (packet : ReceiverAudioPacket) :
    (worker.handlePacket env packet).Serving targetId := by
  rw [handlePacket]
  split
  · exact h
  dsimp only
  split
  · refine setError_serving ?_ _
    exact h.target
  split
  · refine setError_serving ?_ _
    exact h.target
  simp only [settleStates]
  split
  · refine ⟨h.target, ?_⟩
    dsimp only
    split
    · exact ReceiverServiceState.noConfusion
    · exact ReceiverServiceState.noConfusion
  split
  · exact ⟨h.target, ReceiverServiceState.noConfusion⟩
  · exact ⟨h.target, h.busy⟩

theorem awaitPacket_busy (worker : ReceiverWorker) : worker.awaitPacket.state ≠ .idle := by
  dsimp only [awaitPacket]
  split
  · exact ReceiverServiceState.noConfusion
  · exact ReceiverServiceState.noConfusion

/-- An underrun goes back to buffering. -/
theorem underrun_serving (h : worker.Serving targetId) : worker.underrun.Serving targetId := by
  rw [underrun]
  split
  · exact ⟨h.target, ReceiverServiceState.noConfusion⟩
  · exact h

/-- The loop keeps the target, whatever it plays. -/
theorem drainReadyPackets_serving {exit : DrainExit} (hinvariant : worker.Invariant)
    (h : worker.Serving targetId) (hdrain : worker.drainReadyPackets env = some (exit, next)) :
    next.Serving targetId := by
  have hstart := drainReadyPackets_start env hinvariant
  rw [hdrain] at hstart
  generalize hresult : some (exit, next) = result at hstart
  cases hstart with
  | notConnected connection =>
    obtain ⟨-, rfl⟩ := Prod.mk.inj (Option.some.inj hresult)
    exact h
  | noClock clock =>
    obtain ⟨-, rfl⟩ := Prod.mk.inj (Option.some.inj hresult)
    refine ⟨h.target, ?_⟩
    dsimp only
    split
    · exact ReceiverServiceState.noConfusion
    · exact h.busy
  | notReady clock notReady drops =>
    obtain ⟨-, rfl⟩ := Prod.mk.inj (Option.some.inj hresult)
    exact ⟨h.target, awaitPacket_busy worker⟩
  | drains draining ready =>
    refine @of_drainLoop env worker (Serving targetId) (fun result ↦ result.2.Serving targetId)
      (fun round reached next hdraining hserving hround ↦ ?_)
      (fun round reached result hdraining hserving hround ↦ ?_) _ draining h hresult.symm
    · have houtcome := drainRound_outcome env round hdraining
      rw [hround] at houtcome
      cases houtcome with
      | stale pop => exact ⟨hserving.target, hserving.busy⟩
      | played pop => exact ⟨hserving.target, ReceiverServiceState.noConfusion⟩
    · have houtcome := drainRound_outcome env round hdraining
      rw [hround] at houtcome
      cases houtcome with
      | drained empty => exact underrun_serving hserving
      | resynced pop due late empty => exact ⟨hserving.target, hserving.busy⟩
      | waiting early => exact ⟨hserving.target, awaitPacket_busy _⟩
      | writeFailed pop =>
        refine setError_serving ?_ _
        exact hserving.target

/-- **A tick keeps the target**, and does not make the worker idle. -/
theorem onTick_serving (hinvariant : worker.Invariant) (h : worker.Serving targetId)
    (hstep : worker.onTick env = some next) : next.Serving targetId := by
  obtain ⟨exit, final, hdrain, rfl⟩ := onTick_eq_some hstep
  have hfinal := drainReadyPackets_serving hinvariant h hdrain
  have hchecked : (final.checkTransportTimeout env).Serving targetId := by
    rw [checkTransportTimeout_eq]
    split
    · exact handleDisconnect_serving hfinal.target _ _
    · exact hfinal
  exact ⟨hchecked.target, hchecked.busy⟩

/-- **A worker keeps its target** unless it is told another, and never goes idle. -/
theorem step_serving {input : HandlerEnv × WorkerInput} (hinvariant : worker.Invariant)
    (h : worker.Serving targetId) (hstep : worker.step secsF64 input = some next) :
    next.Serving (input.2.retarget targetId) := by
  obtain ⟨env, input⟩ := input
  cases input with
  | transport event =>
    obtain rfl := Option.some.inj hstep
    cases event with
    | connected connection => exact handleConnect_serving h.target connection
    | audioPacket packet => exact handlePacket_serving h packet
    | keepAlive => exact ⟨h.target, h.busy⟩
    | disconnected reason reconnectSuggested => exact handleDisconnect_serving h.target _ _
    | error message => exact setError_serving h.target message
  | setPlaybackTarget targetId =>
    obtain rfl := Option.some.inj hstep
    exact handlePlaybackTargetChange_serving h.busy targetId
  | tick => exact onTick_serving hinvariant h hstep

end ReceiverWorker

/-! ### Calls -/

namespace ReceiverRuntime

/-- The snapshot of a runtime that is not started. -/
def idleStatus (secsF64 : SecsF64) (config : ReceiverConfig) (backendName : String) :
    ReceiverStatus :=
  { ReceiverStatus.fromConfig secsF64 config with playbackBackend := some backendName }

/-- `with_playback_engine`. -/
def withPlaybackEngine (secsF64 : SecsF64) (config : ReceiverConfig) (backendName : String) :
    ReceiverRuntime where
  config := config
  backendName := backendName
  status := idleStatus secsF64 config backendName
  commandTx := false
  worker := none
  call := none
  answers := []

/-- The thread behind the sender, if it still listens. -/
def listener (runtime : ReceiverRuntime) : Option ReceiverThread :=
  runtime.worker.filter ReceiverThread.listens

/-- A call returns. -/
def returns (answer : Except ReceiverCallError Unit) (runtime : ReceiverRuntime) : ReceiverRuntime :=
  { runtime with call := none, answers := runtime.answers ++ [answer] }

/-- `set_playback_target`, up to the snapshot. -/
def setPlaybackTarget (targetId : Option String) (runtime : ReceiverRuntime) : ReceiverRuntime :=
  let runtime := { runtime with config := { runtime.config with playbackTargetId := targetId } }
  if runtime.commandTx then
    match runtime.listener with
    | some thread =>
      { runtime with
        worker := some (thread.send (.handle (.setPlaybackTarget targetId)))
        call := some (.setPlaybackTarget targetId) }
    | none => runtime.returns (.error .channelClosed)
  else { runtime with call := some (.setPlaybackTarget targetId) }

/-- The rest of `set_playback_target`. -/
def publishTarget (targetId : Option String) (runtime : ReceiverRuntime) : ReceiverRuntime :=
  returns (.ok ()) { runtime with status := { runtime.status with
    playbackTargetId := targetId
    worker := { runtime.status.worker with
      lastError :=
        if runtime.status.worker.state = .idle then none else runtime.status.worker.lastError } } }

/-- `set_latency_preset`. -/
def setLatencyPreset (secsF64 : SecsF64) (latencyPreset : ReceiverLatencyPreset)
    (runtime : ReceiverRuntime) : ReceiverRuntime :=
  if runtime.commandTx then
    runtime.returns (.error (.invalidConfig
      "changing the receiver latency preset while receiver mode is active is not supported yet"))
  else
    let config := { runtime.config with latencyPreset }
    returns (.ok ()) { runtime with
      config
      status := idleStatus secsF64 config runtime.backendName }

/-- `start`. -/
def start (runtime : ReceiverRuntime) : ReceiverRuntime :=
  if runtime.config.enabled = false then
    runtime.returns (.error (.disabled "receiver mode is disabled in the current configuration"))
  else if runtime.commandTx then runtime.returns (.ok ())
  else
    returns (.ok ()) { runtime with
      status := { runtime.status with
        worker := { runtime.status.worker with state := .listening, lastError := none } }
      worker := some { config := runtime.config }
      commandTx := true }

/-- `stop`, up to the join. -/
def stop (runtime : ReceiverRuntime) : ReceiverRuntime :=
  if runtime.commandTx then
    match runtime.listener with
    | some thread =>
      { runtime with
        commandTx := false
        worker := some (thread.send .shutdown)
        call := some .stop }
    | none => returns (.error .channelClosed) { runtime with commandTx := false }
  else { runtime with call := some .stop }

/-- The rest of `stop`. It waits for the thread. -/
def join (secsF64 : SecsF64) (runtime : ReceiverRuntime) : Option ReceiverRuntime :=
  let stopped := returns (.ok ()) { runtime with
    worker := none
    status := idleStatus secsF64 runtime.config runtime.backendName }
  match runtime.worker with
  | none => some stopped
  | some thread =>
    match thread.phase with
    | .spawned | .running _ => none
    | .ended => some stopped
    | .panicked => some (returns (.error .threadJoin) { runtime with worker := none })

/-- `submit_transport_event`. -/
def submit (event : ReceiverTransportEvent) (runtime : ReceiverRuntime) : ReceiverRuntime :=
  if runtime.commandTx then
    match runtime.listener with
    | some thread =>
      returns (.ok ()) { runtime with worker := some (thread.send (.handle (.transport event))) }
    | none => runtime.returns (.error .channelClosed)
  else runtime.returns (.error .notStarted)

/-! ### The thread -/

/-- The thread has a worker to go on with, and publishes. -/
def publish (thread : ReceiverThread) (worker : ReceiverWorker) (runtime : ReceiverRuntime) :
    ReceiverRuntime :=
  { runtime with
    worker := some { thread with phase := .running worker }
    status := { runtime.status with worker := worker.snapshot } }

/-- The worker takes an input up. -/
def serve (secsF64 : SecsF64) (thread : ReceiverThread) (worker : ReceiverWorker)
    (input : HandlerEnv × ReceiverWorker.WorkerInput) (runtime : ReceiverRuntime) : ReceiverRuntime :=
  match worker.step secsF64 input with
  | some next => runtime.publish { thread with served := thread.served ++ [input] } next
  | none => { runtime with worker := some { thread with phase := .panicked, channel := [] } }

/-- The thread leaves its loop. -/
def leave (env : HandlerEnv) (thread : ReceiverThread) (worker : ReceiverWorker)
    (runtime : ReceiverRuntime) : ReceiverRuntime :=
  { runtime with
    worker := some { thread with phase := .ended, channel := [] }
    status := { runtime.status with worker := (worker.shutdown env).snapshot } }

/-- A step of the thread. -/
def stepThread (secsF64 : SecsF64) (thread : ReceiverThread) (runtime : ReceiverRuntime) :
    RuntimeInput → Option ReceiverRuntime
  | .spawn =>
    match thread.phase with
    | .spawned => some (runtime.publish thread (thread.firstWorker secsF64))
    | _ => none
  | .deliver env =>
    match thread.phase, thread.channel with
    | .running worker, .handle command :: channel =>
      some (runtime.serve secsF64 { thread with channel } worker (env, command.toInput))
    | .running worker, .shutdown :: channel => some (runtime.leave env { thread with channel } worker)
    | _, _ => none
  | .timeout env =>
    match thread.phase, thread.channel with
    | .running worker, [] => some (runtime.serve secsF64 thread worker (env, .tick))
    | _, _ => none
  | .disconnected env =>
    match thread.phase, thread.channel with
    | .running worker, [] =>
      if runtime.commandTx then none else some (runtime.leave env thread worker)
    | _, _ => none
  | _ => none

/-- One step. A call waits for the call before it. -/
def step (secsF64 : SecsF64) (runtime : ReceiverRuntime) (input : RuntimeInput) :
    Option ReceiverRuntime :=
  match input, runtime.call with
  | .setPlaybackTarget targetId, none => some (runtime.setPlaybackTarget targetId)
  | .setLatencyPreset latencyPreset, none => some (runtime.setLatencyPreset secsF64 latencyPreset)
  | .start, none => some runtime.start
  | .stop, none => some runtime.stop
  | .submit event, none => some (runtime.submit event)
  | .publishTarget, some (.setPlaybackTarget targetId) => some (runtime.publishTarget targetId)
  | .join, some .stop => runtime.join secsF64
  | input, _ => runtime.worker.bind fun thread ↦ runtime.stepThread secsF64 thread input

end ReceiverRuntime

end SynchroSonic
