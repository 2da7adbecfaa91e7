import SynchroSonic.Receiver.WorkerInvariant
import SynchroSonic.Transport.SessionEvents

/-!
# The transport and the worker, together

The listener thread runs one session after the other and hands its events to the worker through a
command channel; the worker has no way to answer. `ReceiverSystem` is the two of them with the channel
in between, and the user, who may change the playback target.

While the transport is in its streaming loop and the channel is empty, the worker either has the
connection of that session or none at all, and it has none only if it gave the session up by itself
(`Departure`). The transport does not learn of a departure: it goes on decoding, and the worker's
guard discards what arrives.
-/

namespace SynchroSonic

/-! ### Departures -/

/-- Why a worker gives up a session that the transport still serves. -/
inductive Departure
  | startFailed
  | misalignedPacket
  | sinkFailed
  | timedOut
  deriving DecidableEq, Repr

namespace ReceiverWorker

/-- The condition of `check_transport_timeout`. -/
def transportTimedOut (env : HandlerEnv) (worker : ReceiverWorker) : Bool :=
  match worker.lastTransportActivity with
  | none => false
  | some lastActivity =>
    worker.connection.isSome &&
      decide (worker.bufferProfile.reconnectGracePeriod ≤ env.timeoutNow - lastActivity)

/-- The departure an input causes in front of which the worker is in this state. -/
def departure (worker : ReceiverWorker) : HandlerEnv × WorkerInput → Option Departure
  | (env, .transport (.connected connection)) =>
    match env.startStream (worker.startRequest connection.stream) with
    | .ok _ => none
    | .error _ => some .startFailed
  | (_, .transport (.audioPacket packet)) =>
    match worker.connection with
    | none => none
    | some connection =>
      match packet.frameCount connection.stream with
      | .ok _ => none
      | .error _ => some .misalignedPacket
  | (env, .tick) =>
    match worker.drainReadyPackets env with
    | some (.writeFailed, _) => some .sinkFailed
    | some (_, drained) => if drained.transportTimedOut env then some .timedOut else none
    | none => none
  | _ => none

/-- An input that neither opens nor closes a session. -/
def WorkerInput.isQuiet : WorkerInput → Bool
  | .transport event => event.isStreamed
  | .setPlaybackTarget _ | .tick => true

/-- The connection an input asks for. -/
def requestedConnection (worker : ReceiverWorker) :
    HandlerEnv × WorkerInput → Option ReceiverConnectionInfo
  | (_, .transport (.connected connection)) => some connection
  | (_, .transport (.disconnected _ _)) => none
  | (_, .transport (.error _)) => none
  | _ => worker.connection

variable {secsF64 : SecsF64} {env : HandlerEnv} {worker : ReceiverWorker}

theorem checkTransportTimeout_eq (env : HandlerEnv) (worker : ReceiverWorker) :
    worker.checkTransportTimeout env =
      if worker.transportTimedOut env then
        worker.handleDisconnect env "receiver transport timed out" true
      else worker := by
  rcases hactivity : worker.lastTransportActivity with - | lastActivity
  · simp only [checkTransportTimeout, transportTimedOut, hactivity, Bool.false_eq_true, if_false]
  · simp only [checkTransportTimeout, transportTimedOut, hactivity, Bool.and_eq_true,
      decide_eq_true_eq]

/-- Draining keeps the connection, unless a write fails. -/
theorem drainReadyPackets_connection {exit : DrainExit} {final : ReceiverWorker}
    (hinvariant : worker.Invariant) (hdrain : worker.drainReadyPackets env = some (exit, final)) :
    (exit = .writeFailed ∧ final.connection = none) ∨
      (exit ≠ .writeFailed ∧ final.connection = worker.connection) := by
  rcases drainReadyPackets_cases env hinvariant with
    ⟨exit', state, sync, hcase, hearly, -, -⟩ | ⟨hdraining, hcase⟩
  · obtain ⟨rfl, rfl⟩ := Prod.mk.inj (Option.some.inj (hcase.symm.trans hdrain))
    exact Or.inr ⟨(by rintro rfl; exact nomatch hearly), rfl⟩
  · refine @of_drainLoop env worker (fun reached ↦ reached.connection = worker.connection)
      (fun result ↦ (result.1 = .writeFailed ∧ result.2.connection = none) ∨
        (result.1 ≠ .writeFailed ∧ result.2.connection = worker.connection))
      (fun round reached next hdraining hsame hround ↦ ?_)
      (fun round reached result hdraining hsame hround ↦ ?_) _ hdraining rfl
      (hcase.symm.trans hdrain)
    · have houtcome := drainRound_outcome env round hdraining
      rw [hround] at houtcome
      cases houtcome with
      | stale pop => exact hsame
      | played pop => exact hsame
    · have houtcome := drainRound_outcome env round hdraining
      rw [hround] at houtcome
      cases houtcome with
      | drained empty =>
        obtain ⟨_, _, _, _, _, _, heq, -⟩ := underrun_eq reached
        rw [heq]
        exact Or.inr ⟨by simp, hsame⟩
      | resynced pop due late empty => exact Or.inr ⟨by simp, hsame⟩
      | waiting early => exact Or.inr ⟨by simp, hsame⟩
      | writeFailed pop => exact Or.inl ⟨rfl, (setError_disconnected _ _ _).connection⟩

theorem onTick_connection {next : ReceiverWorker} (hinvariant : worker.Invariant)
    (hstep : worker.onTick env = some next) :
    next.connection =
      if worker.departure (env, .tick) = none then worker.connection else none := by
  obtain ⟨exit, final, hdrain, rfl⟩ := onTick_eq_some hstep
  change (final.checkTransportTimeout env).connection = _
  rw [checkTransportTimeout_eq]
  rcases drainReadyPackets_connection hinvariant hdrain with ⟨rfl, hfinal⟩ | ⟨hne, hfinal⟩
  · have htimeout : final.transportTimedOut env = false := by
      unfold transportTimedOut
      split <;> simp [hfinal]
    simp only [departure, hdrain, htimeout, hfinal, Bool.false_eq_true, if_false, reduceCtorEq]
  · have hdeparture : worker.departure (env, .tick) =
        if final.transportTimedOut env then some .timedOut else none := by
      simp only [departure, hdrain]
    rw [hdeparture]
    split
    · exact (handleDisconnect_disconnected _ _ _ _).connection
    · exact hfinal

theorem handlePacket_connection (env : HandlerEnv) (packet : ReceiverAudioPacket)
    (worker : ReceiverWorker) :
    (worker.handlePacket env packet).connection =
      if worker.departure (env, .transport (.audioPacket packet)) = none then worker.connection
      else none := by
  rcases hconnection : worker.connection with - | connection
  · simp [handlePacket, hconnection]
  rcases hcount : packet.frameCount connection.stream with message | frameCount
  · simp only [handlePacket, departure, hconnection, hcount, reduceCtorEq, if_false]
    exact (setError_disconnected _ _ _).connection
  · obtain ⟨outcome, buffer, hpush⟩ :=
      ReceiverPacketBuffer.push_of_frameCount hcount worker.buffer
    have hpush' : (worker.openSyncWindow (env.now 0) packet).buffer.push packet connection.stream =
        .ok (outcome, buffer) := hpush
    simp only [handlePacket, departure, hconnection, hcount, hpush', if_true]
    obtain ⟨_, _, _, heq, -⟩ := settleStates_eq (countPacket (env.now 0) packet frameCount outcome
      buffer (worker.openSyncWindow (env.now 0) packet))
    rw [heq]
    exact hconnection

theorem handleConnect_connection (secsF64 : SecsF64) (env : HandlerEnv)
    (connection : ReceiverConnectionInfo) (worker : ReceiverWorker) :
    (worker.handleConnect secsF64 env connection).connection =
      if worker.departure (env, .transport (.connected connection)) = none then some connection
      else none := by
  obtain ⟨lastError, hstop⟩ := stopPlaybackSink_eq env worker
  rcases hstart : env.startStream ⟨connection.stream, worker.playbackTargetId,
    worker.bufferProfile.playbackLatencyMs⟩ with error | sink
  · simp only [handleConnect, hstop, departure, startRequest, resetSyncTimeline, hstart,
      reduceCtorEq, if_false]
    exact (setError_disconnected _ _ _).connection
  · simp only [handleConnect, hstop, departure, startRequest, resetSyncTimeline, hstart, if_true]

/-- **A step gives the connection that was asked for, or it is a departure.** -/
theorem step_connection {input : HandlerEnv × WorkerInput} {next : ReceiverWorker}
    (hinvariant : worker.Invariant) (hstep : worker.step secsF64 input = some next) :
    next.connection =
      if worker.departure input = none then worker.requestedConnection input else none := by
  obtain ⟨env, input⟩ := input
  cases input with
  | transport event =>
    obtain rfl := Option.some.inj hstep
    cases event with
    | connected connection => exact handleConnect_connection secsF64 env connection worker
    | audioPacket packet => exact handlePacket_connection env packet worker
    | keepAlive => rfl
    | disconnected reason reconnectSuggested =>
      exact (handleDisconnect_disconnected _ _ _ _).connection
    | error message => exact (setError_disconnected _ _ _).connection
  | setPlaybackTarget targetId =>
    obtain rfl := Option.some.inj hstep
    exact handlePlaybackTargetChange_connection env targetId worker
  | tick => exact onTick_connection hinvariant hstep

end ReceiverWorker

/-! ### The system -/

/-- What travels through the command channel. `Shutdown` is left out: it ends the worker. -/
inductive ReceiverCommand
  | transport (event : ReceiverTransportEvent)
  | setPlaybackTarget (targetId : Option String)
  deriving DecidableEq, Repr

/-- A command, as the worker meets it. -/
def ReceiverCommand.toInput : ReceiverCommand → ReceiverWorker.WorkerInput
  | .transport event => .transport event
  | .setPlaybackTarget targetId => .setPlaybackTarget targetId

/-- A command that neither opens nor closes a session. -/
def ReceiverCommand.isQuiet (command : ReceiverCommand) : Bool := command.toInput.isQuiet

/-- The listener thread, the command channel and the worker. -/
structure ReceiverSystem where
  /-- The session whose streaming loop the listener thread is in. -/
  handler : Option ReceiverSession
  /-- The commands on their way, oldest first. -/
  channel : List ReceiverCommand
  worker : ReceiverWorker
  /-- The first departure since the worker was last asked to connect. -/
  departed : Option Departure

/-- One move of the system. -/
inductive SystemInput
  /-- A peer connects, and its handshake runs. -/
  | accept (args : SessionArgs) (setup : SessionSetup) (reader : Reader) (writer : Writer)
  /-- One round of the streaming loop. -/
  | round (stopRequested : Bool)
  /-- The user picks another playback target. -/
  | setPlaybackTarget (targetId : Option String)
  /-- The worker takes the next command. -/
  | deliver (env : HandlerEnv)
  /-- The worker waited long enough. -/
  | tick (env : HandlerEnv)

namespace ReceiverSystem

/-- The system when receiver mode has started and nobody is connected. -/
def new (secsF64 : SecsF64) (playbackTargetId : Option String)
    (latencyPreset : ReceiverLatencyPreset) : ReceiverSystem where
  handler := none
  channel := []
  worker := .new secsF64 playbackTargetId latencyPreset
  departed := none

/-- The worker takes an input. -/
def stepWorker (secsF64 : SecsF64) (input : HandlerEnv × ReceiverWorker.WorkerInput) (system : ReceiverSystem) :
    Option ReceiverSystem :=
  (system.worker.step secsF64 input).map fun worker ↦ { system with
    worker
    departed :=
      match input.2 with
      | .transport (.connected _) => system.worker.departure input
      | _ => system.departed.or (system.worker.departure input) }

/-- Put the events `after` has emitted beyond those of `before` into the channel. -/
def submit (before after : ReceiverSession) (channel : List ReceiverCommand) :
    List ReceiverCommand :=
  channel ++ (after.emitted.drop before.emitted.length).map .transport

/-- One move. The callback of a session puts its event into the channel of a running worker, which
always succeeds. -/
def step (secsF64 : SecsF64) (format : WireFormat) (system : ReceiverSystem) :
    SystemInput → Option ReceiverSystem
  | .accept args setup reader writer =>
    match system.handler with
    | some _ => none
    | none =>
      match handshake format args { setup with onConnected := .ok () } { reader, writer } with
      | (.error _, _) => some system
      | (.ok (), session) => some { system with
          handler := some session
          channel := submit { reader, writer } session system.channel }
  | .round stopRequested =>
    match system.handler with
    | none => none
    | some session =>
      match streamingRound format ⟨stopRequested, .ok ()⟩ session with
      | .again next => some { system with
          handler := some next
          channel := submit session next system.channel }
      | .done (_, final) => some { system with
          handler := none
          channel := submit session final system.channel }
  | .setPlaybackTarget targetId =>
    some { system with channel := system.channel ++ [.setPlaybackTarget targetId] }
  | .deliver env =>
    match system.channel with
    | [] => none
    | command :: channel => stepWorker secsF64 (env, command.toInput) { system with channel }
  | .tick env => stepWorker secsF64 (env, .tick) system

/-! ### The connection of the session being served -/

/-- Where the connection of the session in its streaming loop is: still announced in the channel, with
the worker, or given up by the worker. -/
inductive Tracks (connection : ReceiverConnectionInfo) (system : ReceiverSystem) : Prop
  /-- `Connected` is on its way. -/
  | announced (before after : List ReceiverCommand)
      (channel : system.channel = before ++ .transport (.connected connection) :: after)
      (quiet : ∀ command ∈ after, command.isQuiet = true)
  /-- The worker has the connection. -/
  | live (quiet : ∀ command ∈ system.channel, command.isQuiet = true)
      (connected : system.worker.connection = some connection) (stayed : system.departed = none)
  /-- The worker has given the session up. -/
  | lost (quiet : ∀ command ∈ system.channel, command.isQuiet = true)
      (disconnected : system.worker.connection = none) (departed : system.departed.isSome = true)

/-- **The invariant of the system.** -/
structure Invariant (system : ReceiverSystem) : Prop where
  worker : system.worker.Invariant
  session : ∀ session, system.handler = some session → ∃ connection streamed,
    session.emitted = .connected connection :: streamed ∧ Tracks connection system

variable {secsF64 : SecsF64} {format : WireFormat} {connection : ReceiverConnectionInfo}
  {system next : ReceiverSystem}

/-- More quiet commands change nothing. -/
theorem Tracks.append (h : Tracks connection system) {commands : List ReceiverCommand}
    (hquiet : ∀ command ∈ commands, command.isQuiet = true) (handler : Option ReceiverSession) :
    Tracks connection { system with handler, channel := system.channel ++ commands } := by
  have happend {channel : List ReceiverCommand}
      (hchannel : ∀ command ∈ channel, command.isQuiet = true) :
      ∀ command ∈ channel ++ commands, command.isQuiet = true := fun command hmem ↦
    (List.mem_append.1 hmem).elim (hchannel command) (hquiet command)
  cases h with
  | announced before after channel quiet =>
    exact .announced before (after ++ commands) (by simp [channel]) (happend quiet)
  | live quiet connected stayed => exact .live (happend quiet) connected stayed
  | lost quiet disconnected departed => exact .lost (happend quiet) disconnected departed

/-! ### The worker's side -/

theorem stepWorker_eq_some {input : HandlerEnv × ReceiverWorker.WorkerInput}
    (h : stepWorker secsF64 input system = some next) :
    ∃ worker departed, system.worker.step secsF64 input = some worker ∧
      next = { system with worker, departed } ∧
      departed =
        match input.2 with
        | .transport (.connected _) => system.worker.departure input
        | _ => system.departed.or (system.worker.departure input) := by
  obtain ⟨worker, hstep, rfl⟩ := Option.map_eq_some_iff.1 h
  exact ⟨worker, _, hstep, rfl, rfl⟩

/-- A quiet input leaves the connection alone, or the worker departs. -/
theorem stepWorker_quiet {env : HandlerEnv} {input : ReceiverWorker.WorkerInput}
    (hworker : system.worker.Invariant) (hquiet : input.isQuiet = true)
    (h : stepWorker secsF64 (env, input) system = some next) :
    next.handler = system.handler ∧ next.channel = system.channel ∧
      next.departed = system.departed.or (system.worker.departure (env, input)) ∧
      next.worker.connection =
        if system.worker.departure (env, input) = none then system.worker.connection else none := by
  obtain ⟨worker, departed, hstep, rfl, hdeparted⟩ := stepWorker_eq_some h
  have hconnection := ReceiverWorker.step_connection hworker hstep
  cases input with
  | transport event =>
    cases event with
    | audioPacket packet => exact ⟨rfl, rfl, hdeparted, hconnection⟩
    | keepAlive => exact ⟨rfl, rfl, hdeparted, hconnection⟩
    | connected connection => exact nomatch hquiet
    | disconnected reason reconnectSuggested => exact nomatch hquiet
    | error message => exact nomatch hquiet
  | setPlaybackTarget targetId => exact ⟨rfl, rfl, hdeparted, hconnection⟩
  | tick => exact ⟨rfl, rfl, hdeparted, hconnection⟩

/-- The connection is where it was after a quiet input, or the worker has given the session up. -/
theorem Tracks.quiet {env : HandlerEnv} {input : ReceiverWorker.WorkerInput}
    (h : Tracks connection system) (hworker : system.worker.Invariant)
    (hquiet : input.isQuiet = true)
    (hstep : stepWorker secsF64 (env, input) system = some next) : Tracks connection next := by
  obtain ⟨-, hchannel, hdeparted, hconnection⟩ := stepWorker_quiet hworker hquiet hstep
  cases h with
  | announced before after channel quiet =>
    exact .announced before after (hchannel.trans channel) quiet
  | live quiet connected stayed =>
    rw [← hchannel] at quiet
    rw [stayed, Option.none_or] at hdeparted
    rcases hdeparture : system.worker.departure (env, input) with - | departure
    · rw [if_pos hdeparture] at hconnection
      exact .live quiet (hconnection.trans connected) (hdeparted.trans hdeparture)
    · rw [if_neg (by simp [hdeparture])] at hconnection
      exact .lost quiet hconnection (by simp [hdeparted, hdeparture])
  | lost quiet disconnected departed =>
    rw [← hchannel] at quiet
    rw [disconnected, ite_self] at hconnection
    exact .lost quiet hconnection (by rw [hdeparted, Option.isSome_or, departed, Bool.true_or])

/-- The worker takes the command at the head of the channel. -/
theorem Tracks.deliver {env : HandlerEnv} {command : ReceiverCommand}
    {channel : List ReceiverCommand} (h : Tracks connection system)
    (hworker : system.worker.Invariant) (hchannel : system.channel = command :: channel)
    (hstep : stepWorker secsF64 (env, command.toInput) { system with channel } = some next) :
    Tracks connection next := by
  cases h with
  | announced before after hsplit quiet =>
    obtain ⟨worker, departed, hworker', rfl, hdeparted⟩ := stepWorker_eq_some hstep
    rw [hchannel] at hsplit
    rcases List.cons_eq_append_iff.1 hsplit with ⟨rfl, hafter⟩ | ⟨before', rfl, hrest⟩
    · obtain ⟨rfl, rfl⟩ := List.cons.inj hafter
      have hconnection := ReceiverWorker.step_connection hworker hworker'
      rcases hdeparture : system.worker.departure (env, .transport (.connected connection)) with
        - | departure
      · exact .live quiet (hconnection.trans (if_pos hdeparture)) (hdeparted.trans hdeparture)
      · refine .lost quiet (hconnection.trans (if_neg (by simp [ReceiverCommand.toInput, hdeparture])))
          ?_
        change departed.isSome = true
        rw [hdeparted]
        simp [ReceiverCommand.toInput, hdeparture]
    · exact .announced before' after hrest quiet
  | live quiet connected stayed =>
    rw [hchannel, List.forall_mem_cons] at quiet
    have hrest : Tracks connection { system with channel } := .live quiet.2 connected stayed
    exact hrest.quiet hworker quiet.1 hstep
  | lost quiet disconnected departed =>
    rw [hchannel, List.forall_mem_cons] at quiet
    have hrest : Tracks connection { system with channel } := .lost quiet.2 disconnected departed
    exact hrest.quiet hworker quiet.1 hstep

theorem stepWorker_invariant {input : HandlerEnv × ReceiverWorker.WorkerInput}
    (hworker : system.worker.Invariant) (h : stepWorker secsF64 input system = some next) :
    next.worker.Invariant ∧ next.handler = system.handler := by
  obtain ⟨worker, departed, hstep, rfl, -⟩ := stepWorker_eq_some h
  obtain ⟨worker', hstep', hworker'⟩ := ReceiverWorker.step_invariant secsF64 input hworker
  obtain rfl := Option.some.inj (hstep'.symm.trans hstep)
  exact ⟨hworker', rfl⟩

/-! ### Every move keeps the invariant -/

theorem new_invariant (secsF64 : SecsF64) (playbackTargetId : Option String)
    (latencyPreset : ReceiverLatencyPreset) :
    (new secsF64 playbackTargetId latencyPreset).Invariant :=
  ⟨ReceiverWorker.Invariant.new secsF64 playbackTargetId latencyPreset, fun _ h ↦ nomatch h⟩

theorem accept_invariant {args : SessionArgs} {setup : SessionSetup} {reader : Reader}
    {writer : Writer} (hinvariant : system.Invariant)
    (h : system.step secsF64 format (.accept args setup reader writer) = some next) :
    next.Invariant := by
  simp only [step] at h
  split at h
  · exact nomatch h
  split at h
  · obtain rfl := Option.some.inj h
    exact hinvariant
  next session hshake =>
    obtain rfl := Option.some.inj h
    refine ⟨hinvariant.worker, ?_⟩
    rintro _ ⟨⟩
    rcases handshake_emitted format args { setup with onConnected := .ok () } rfl hshake with
      ⟨error, herror, -⟩ | ⟨connection, -, hemitted⟩
    · exact nomatch herror
    · exact ⟨connection, [], hemitted, .announced system.channel [] (by simp [submit, hemitted])
        (by simp)⟩

theorem round_invariant {stopRequested : Bool} (hinvariant : system.Invariant)
    (h : system.step secsF64 format (.round stopRequested) = some next) : next.Invariant := by
  simp only [step] at h
  split at h
  · exact nomatch h
  next session hsession =>
  split at h
  next session' hround =>
    obtain rfl := Option.some.inj h
    refine ⟨hinvariant.worker, ?_⟩
    rintro _ ⟨⟩
    obtain ⟨connection, streamed, hemitted, htracks⟩ := hinvariant.session session hsession
    obtain ⟨-, streamed', hstreamed, hemitted'⟩ := streamingRound_again hround
    refine ⟨connection, streamed ++ streamed', by rw [hemitted', hemitted, List.cons_append], ?_⟩
    rw [submit, hemitted', List.drop_left]
    refine htracks.append ?_ (some session')
    intro command hmem
    obtain ⟨event, hevent, rfl⟩ := List.mem_map.1 hmem
    exact hstreamed event hevent
  · obtain rfl := Option.some.inj h
    exact ⟨hinvariant.worker, fun _ h ↦ nomatch h⟩

theorem step_invariant {input : SystemInput} (hinvariant : system.Invariant)
    (h : system.step secsF64 format input = some next) : next.Invariant := by
  cases input with
  | accept args setup reader writer => exact accept_invariant hinvariant h
  | round stopRequested => exact round_invariant hinvariant h
  | setPlaybackTarget targetId =>
    obtain rfl := Option.some.inj h
    refine ⟨hinvariant.worker, fun session hsession ↦ ?_⟩
    obtain ⟨connection, streamed, hemitted, htracks⟩ := hinvariant.session session hsession
    exact ⟨connection, streamed, hemitted, htracks.append (List.forall_mem_singleton.2 rfl) _⟩
  | deliver env =>
    simp only [step] at h
    split at h
    · exact nomatch h
    next command channel hchannel =>
      obtain ⟨hworker, hhandler⟩ :=
        @stepWorker_invariant _ { system with channel } _ _ hinvariant.worker h
      refine ⟨hworker, fun session hsession ↦ ?_⟩
      obtain ⟨connection, streamed, hemitted, htracks⟩ :=
        hinvariant.session session (hhandler.symm.trans hsession)
      exact ⟨connection, streamed, hemitted, htracks.deliver hinvariant.worker hchannel h⟩
  | tick env =>
    obtain ⟨hworker, hhandler⟩ := stepWorker_invariant hinvariant.worker h
    refine ⟨hworker, fun session hsession ↦ ?_⟩
    obtain ⟨connection, streamed, hemitted, htracks⟩ :=
      hinvariant.session session (hhandler.symm.trans hsession)
    exact ⟨connection, streamed, hemitted, htracks.quiet hinvariant.worker rfl h⟩

/-- **The session is held, or the worker has given it up.** Take any run of the system from its start,
at a moment when the transport is in its streaming loop and nothing is left in the channel. Either the
worker has the connection of that session, or it has none: then it has departed from the session by
itself, and it discards every packet the transport still sends it. -/
theorem session_held_or_given_up (secsF64 : SecsF64) (format : WireFormat)
    (playbackTargetId : Option String) (latencyPreset : ReceiverLatencyPreset)
    (inputs : List SystemInput) (system : ReceiverSystem) (session : ReceiverSession)
    (hrun : Transition.run (step secsF64 format) (new secsF64 playbackTargetId latencyPreset) inputs =
      some system)
    (hsession : system.handler = some session) (hchannel : system.channel = []) :
    ∃ connection streamed, session.emitted = .connected connection :: streamed ∧
      ((system.worker.connection = some connection ∧ system.departed = none) ∨
        (system.worker.connection = none ∧ (∃ departure, system.departed = some departure) ∧
          ∀ env packet, system.worker.handlePacket env packet = system.worker)) := by
  have hinvariant : system.Invariant :=
    Transition.run_invariant (fun _ _ _ hinvariant hstep ↦ step_invariant hinvariant hstep)
      (new_invariant secsF64 playbackTargetId latencyPreset) hrun
  obtain ⟨connection, streamed, hemitted, htracks⟩ := hinvariant.session session hsession
  refine ⟨connection, streamed, hemitted, ?_⟩
  cases htracks with
  | announced before after channel quiet => simp [hchannel] at channel
  | live quiet connected stayed => exact Or.inl ⟨connected, stayed⟩
  | lost quiet disconnected departed =>
    refine Or.inr ⟨disconnected, Option.isSome_iff_exists.1 departed, fun env packet ↦ ?_⟩
    simp only [ReceiverWorker.handlePacket, disconnected]

/-! ### A session that outlives its connection -/

/-- A sender connects and is silent for two seconds; then it sends an audio packet. -/
def stalledSender : List SystemInput :=
  [.accept Sample.args Sample.setup (ReadScript.ofList (Sample.helloFrame ++
      encodeFrame ⟨.audio, SerdeJson.asciiBytes Sample.audioJson, [1, 2, 3, 4]⟩)) .empty,
    .deliver (ReceiverWorker.calmEnv 0), .tick (ReceiverWorker.calmEnv 2000000000), .round false,
    .deliver (ReceiverWorker.calmEnv 2000000000)]

/-- **The connection is lost and the session goes on.** After two silent seconds the worker has given
the session up, while the transport still streams. -/
theorem session_outlives_connection :
    ∃ system session,
      Transition.run (step (fun _ _ ↦ 1000000000) Sample.format)
          (new (fun _ _ ↦ 1000000000) none .balanced) stalledSender = some system ∧
        system.handler = some session ∧ system.channel = [] ∧
        session.emitted = [.connected (connectionFor Sample.args Sample.hello),
          .audioPacket ⟨0, 10, 20, [1, 2, 3, 4]⟩] ∧
        system.worker.connection = none ∧ system.departed = some .timedOut := by
  have hrun : (Transition.run (step (fun _ _ ↦ 1000000000) Sample.format)
      (new (fun _ _ ↦ 1000000000) none .balanced) stalledSender).map (fun system ↦
        (system.handler.map ReceiverSession.emitted, system.channel, system.worker.connection,
          system.departed)) =
      some (some [.connected (connectionFor Sample.args Sample.hello),
        .audioPacket ⟨0, 10, 20, [1, 2, 3, 4]⟩], [], none, some .timedOut) := by decide +kernel
  obtain ⟨system, hrun, hsystem⟩ := Option.map_eq_some_iff.1 hrun
  simp only [Prod.mk.injEq, Option.map_eq_some_iff] at hsystem
  obtain ⟨⟨session, hsession, hemitted⟩, hchannel, hconnection, hdeparted⟩ := hsystem
  exact ⟨system, session, hrun, hsession, hchannel, hemitted, hconnection, hdeparted⟩

/-- The moment right after the worker has processed `Connected`. -/
theorem session_held_or_given_up_connected :
    ∃ (system : ReceiverSystem) (session : ReceiverSession) (connection : ReceiverConnectionInfo)
      (streamed : List ReceiverTransportEvent),
      Transition.run (step (fun _ _ ↦ 1000000000) Sample.format)
          (new (fun _ _ ↦ 1000000000) none .balanced) (stalledSender.take 2) = some system ∧
        system.handler = some session ∧ session.emitted = .connected connection :: streamed ∧
        system.worker.connection = some connection := by
  have hrun : (Transition.run (step (fun _ _ ↦ 1000000000) Sample.format)
      (new (fun _ _ ↦ 1000000000) none .balanced) (stalledSender.take 2)).map (fun system ↦
        (system.handler.isSome, system.channel, system.worker.connection.isSome)) =
      some (true, [], true) := by decide +kernel
  obtain ⟨system, hrun, hsystem⟩ := Option.map_eq_some_iff.1 hrun
  simp only [Prod.mk.injEq] at hsystem
  obtain ⟨hhandler, hchannel, hconnection⟩ := hsystem
  obtain ⟨session, hsession⟩ := Option.isSome_iff_exists.1 hhandler
  obtain ⟨connection, streamed, hemitted, hheld | hlost⟩ :=
    session_held_or_given_up _ _ _ _ _ _ _ hrun hsession hchannel
  · exact ⟨system, session, connection, streamed, hrun, hsession, hemitted, hheld.1⟩
  · simp [hlost.1] at hconnection

end ReceiverSystem

end SynchroSonic
