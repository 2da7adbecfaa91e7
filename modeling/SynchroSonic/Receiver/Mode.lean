import SynchroSonic.Receiver.RuntimeInvariant
import SynchroSonic.Transport.ReceiverServer

/-!
# Receiver mode

The application starts the runtime and then the listener, whose callback puts every event into the
runtime, and stops them in the opposite order. Three threads take part: the application's, the listener's
and the worker's. The runtime is behind a mutex, so a callback waits while a call of the runtime is in
progress; the worker never takes that mutex.

This module shows what a step of each thread looks like to the others: a setting and a worker's step to
the mode (`step_setting`, `step_thread`), the listener's to its session (`stepListener_moves`), and the
thread's to a `ReceiverSystem`, whose callback never fails by assumption (`follows_stepThread`).
-/

namespace SynchroSonic

namespace ReceiverRuntime

/-- What `submit_transport_event` will answer. -/
def callbackAnswer (runtime : ReceiverRuntime) : Except ReceiverError Unit :=
  if runtime.commandTx then
    match runtime.listener with
    | some _ => .ok ()
    | none => .error .channelClosed
  else .error .notStarted

end ReceiverRuntime

/-- A setting the user changes. -/
def RuntimeInput.isSetting : RuntimeInput → Bool
  | .setPlaybackTarget _ | .publishTarget | .setLatencyPreset _ => true
  | .start | .stop | .join | .submit _ | .spawn | .deliver _ | .timeout _ | .disconnected _ => false

/-- Where the application is in `start_receiver_mode` or `stop_receiver_mode`. -/
inductive ModeCall
  /-- The runtime is started, the listener is next. -/
  | startTransport
  /-- `stop` of the listener waits for its thread. -/
  | joinTransport
  /-- The runtime is to be stopped. -/
  | stopRuntime
  /-- `stop` of the runtime waits for its thread. -/
  | joinRuntime
  deriving DecidableEq, Repr

/-- The application's receiver side. -/
structure ReceiverMode where
  runtime : ReceiverRuntime
  server : LanReceiverTransportServer
  call : Option ModeCall := none

/-- A step of one of the three threads. -/
inductive ModeInput
  /-- The user changes a setting. -/
  | setting (input : RuntimeInput)
  /-- `start_receiver_mode`. -/
  | start
  | startTransport (setup : ListenerSetup)
  /-- `stop_receiver_mode`. -/
  | stop
  | joinTransport
  | stopRuntime
  | joinRuntime
  | listener (input : ListenerInput)
  | worker (input : RuntimeInput)

/-- A step of one of the two threads, or of a stop that is in progress. -/
def ModeInput.goesOn : ModeInput → Bool
  | .joinTransport | .stopRuntime | .joinRuntime | .listener _ | .worker _ => true
  | .setting _ | .start | .startTransport _ | .stop => false

namespace ReceiverMode

/-- The application before receiver mode is started for the first time. -/
def new (secsF64 : SecsF64) (config : ReceiverConfig) (backendName : String) (bindAddr : SocketAddr)
    (heartbeatIntervalMs : UInt16) : ReceiverMode where
  runtime := .withPlaybackEngine secsF64 config backendName
  server := .new bindAddr config.advertisedName config.latencyPreset heartbeatIntervalMs

/-- The callback is given events. -/
def submitAll (events : List ReceiverTransportEvent) (runtime : ReceiverRuntime) : ReceiverRuntime :=
  events.foldl (fun runtime event ↦ runtime.submit event) runtime

/-- A step of the listener thread. If it has an event to hand over it waits for the runtime's mutex. -/
def stepListener (format : WireFormat) (mode : ReceiverMode) (input : ListenerInput) :
    Option ReceiverMode :=
  let answer := if mode.runtime.call = none then mode.runtime.callbackAnswer else .ok ()
  match mode.server.stepListener format answer input with
  | none => none
  | some (server, events) =>
    if mode.runtime.call ≠ none ∧ events ≠ [] then none
    else some { mode with server, runtime := submitAll events mode.runtime }

/-- One step. The application does one thing after the other. -/
def step (secsF64 : SecsF64) (format : WireFormat) (mode : ReceiverMode) :
    ModeInput → Option ReceiverMode
  | .setting input =>
    if mode.call = none ∧ input.isSetting then
      (mode.runtime.step secsF64 input).map fun runtime ↦ { mode with runtime }
    else none
  | .start =>
    if mode.call = none ∧ mode.runtime.call = none then
      let runtime := mode.runtime.start
      some { mode with
        runtime
        -- a runtime that refuses to start ends the call
        call := if mode.runtime.config.enabled then some .startTransport else none }
    else none
  | .startTransport setup =>
    if mode.call = some .startTransport then
      match mode.server.start setup with
      | (.ok (), server) => some { mode with server, call := none }
      | (.error _, server) => some { mode with server, call := some .stopRuntime }
    else none
  | .stop =>
    if mode.call = none ∧ mode.runtime.call = none then
      match mode.server.stop with
      | (.ok (), server) => some { mode with server, call := some .joinTransport }
      -- an error of the listener is reported at the end
      | (.error _, server) => some { mode with server, call := some .stopRuntime }
    else none
  | .joinTransport =>
    if mode.call = some .joinTransport then
      mode.server.join.map fun server ↦ { mode with server, call := some .stopRuntime }
    else none
  | .stopRuntime =>
    if mode.call = some .stopRuntime ∧ mode.runtime.call = none then
      some { mode with runtime := mode.runtime.stop, call := some .joinRuntime }
    else none
  | .joinRuntime =>
    if mode.call = some .joinRuntime then
      match mode.runtime.call with
      | none => some { mode with call := none }
      | some _ => (mode.runtime.step secsF64 .join).map fun runtime ↦ { mode with runtime, call := none }
    else none
  | .listener input => mode.stepListener format input
  | .worker input =>
    if input.isThread then
      (mode.runtime.step secsF64 input).map fun runtime ↦ { mode with runtime }
    else none

end ReceiverMode

/-! ### The runtime, as the other two threads see it -/

namespace ReceiverRuntime

variable {secsF64 : SecsF64} {runtime next : ReceiverRuntime}

/-- A runtime that was started takes every event. -/
theorem Sound.callbackAnswer (h : runtime.Sound secsF64) (hcommandTx : runtime.commandTx = true) :
    runtime.callbackAnswer = .ok () := by
  obtain ⟨-, thread, -, -, hlistener⟩ := h.listener hcommandTx
  rw [ReceiverRuntime.callbackAnswer, if_pos hcommandTx, hlistener]

/-- The join ends the call. -/
theorem join_call (hjoin : runtime.join secsF64 = some next) : next.call = none := by
  simp only [join] at hjoin
  split at hjoin
  · obtain rfl := Option.some.inj hjoin
    rfl
  · split at hjoin
    · cases hjoin
    · cases hjoin
    · obtain rfl := Option.some.inj hjoin
      rfl
    · obtain rfl := Option.some.inj hjoin
      rfl

/-- A setting keeps the sender and begins no stop; the thread hears of it if it is a target. -/
theorem step_setting {input : RuntimeInput} (h : runtime.Sound secsF64)
    (hsetting : input.isSetting = true) (hcall : runtime.call ≠ some .stop)
    (hstep : runtime.step secsF64 input = some next) :
    next.commandTx = runtime.commandTx ∧ next.call ≠ some .stop ∧
      (next.worker = runtime.worker ∨ ∃ thread targetId, runtime.worker = some thread ∧
        thread.listens = true ∧
        next.worker = some (thread.send (.handle (.setPlaybackTarget targetId)))) := by
  rcases hcall' : runtime.call with - | call
  · cases input with
    | setPlaybackTarget targetId =>
      simp only [step, hcall', Option.some.injEq] at hstep
      rw [setPlaybackTarget] at hstep
      dsimp only at hstep
      split at hstep
      next hsender =>
        obtain ⟨-, thread, hworker, hlistens, hlistener⟩ := h.listener hsender
        rw [show ReceiverRuntime.listener { runtime with config := { runtime.config with
          playbackTargetId := targetId } } = some thread from hlistener] at hstep
        subst hstep
        exact ⟨rfl, by rintro ⟨⟩, Or.inr ⟨thread, targetId, hworker, hlistens, rfl⟩⟩
      · subst hstep
        exact ⟨rfl, by rintro ⟨⟩, Or.inl rfl⟩
    | setLatencyPreset latencyPreset =>
      simp only [step, hcall', Option.some.injEq] at hstep
      rw [setLatencyPreset] at hstep
      split at hstep
      · subst hstep
        exact ⟨rfl, by rintro ⟨⟩, Or.inl rfl⟩
      · subst hstep
        exact ⟨rfl, by rintro ⟨⟩, Or.inl rfl⟩
    | publishTarget =>
      obtain ⟨thread, -, hnone⟩ := Option.bind_eq_some_iff.1
        (show (runtime.worker.bind fun thread ↦ runtime.stepThread secsF64 thread .publishTarget) =
          some next by simpa only [step, hcall'] using hstep)
      cases hnone
    | _ => cases hsetting
  · cases call with
    | stop => exact absurd hcall' hcall
    | setPlaybackTarget targetId =>
      cases input with
      | publishTarget =>
        simp only [step, hcall', Option.some.injEq] at hstep
        subst hstep
        exact ⟨rfl, by rintro ⟨⟩, Or.inl rfl⟩
      | setPlaybackTarget targetId =>
        obtain ⟨thread, -, hnone⟩ := Option.bind_eq_some_iff.1
          (show (runtime.worker.bind fun thread ↦
            runtime.stepThread secsF64 thread (.setPlaybackTarget targetId)) = some next by
              simpa only [step, hcall'] using hstep)
        cases hnone
      | setLatencyPreset latencyPreset =>
        obtain ⟨thread, -, hnone⟩ := Option.bind_eq_some_iff.1
          (show (runtime.worker.bind fun thread ↦
            runtime.stepThread secsF64 thread (.setLatencyPreset latencyPreset)) = some next by
              simpa only [step, hcall'] using hstep)
        cases hnone
      | _ => cases hsetting

/-- The thread keeps the sender, the call in progress and the configuration. -/
theorem step_thread {input : RuntimeInput} (hthread : input.isThread = true)
    (hstep : runtime.step secsF64 input = some next) :
    next.commandTx = runtime.commandTx ∧ next.call = runtime.call ∧
      ∃ thread moved, runtime.worker = some thread ∧ next.worker = some moved ∧
        runtime.stepThread secsF64 thread input = some next := by
  have hbind : (runtime.worker.bind fun thread ↦ runtime.stepThread secsF64 thread input) =
      some next := by
    cases input with
    | spawn => exact hstep
    | deliver env => exact hstep
    | timeout env => exact hstep
    | disconnected env => exact hstep
    | _ => cases hthread
  obtain ⟨thread, hworker, hmoved⟩ := Option.bind_eq_some_iff.1 hbind
  have hserve (thread : ReceiverThread) (worker : ReceiverWorker)
      (input : HandlerEnv × ReceiverWorker.WorkerInput) :
      (runtime.serve secsF64 thread worker input).commandTx = runtime.commandTx ∧
        (runtime.serve secsF64 thread worker input).call = runtime.call ∧
        (runtime.serve secsF64 thread worker input).worker.isSome = true := by
    rw [serve]
    split
    · exact ⟨rfl, rfl, rfl⟩
    · exact ⟨rfl, rfl, rfl⟩
  have hkept : next.commandTx = runtime.commandTx ∧ next.call = runtime.call ∧
      next.worker.isSome = true := by
    have hmoved' := hmoved
    simp only [stepThread] at hmoved'
    split at hmoved'
    · split at hmoved'
      · obtain rfl := Option.some.inj hmoved'
        exact ⟨rfl, rfl, rfl⟩
      · cases hmoved'
    · split at hmoved'
      · obtain rfl := Option.some.inj hmoved'
        exact hserve _ _ _
      · obtain rfl := Option.some.inj hmoved'
        exact ⟨rfl, rfl, rfl⟩
      · cases hmoved'
    · split at hmoved'
      · obtain rfl := Option.some.inj hmoved'
        exact hserve _ _ _
      · cases hmoved'
    · split at hmoved'
      · split at hmoved'
        · cases hmoved'
        · obtain rfl := Option.some.inj hmoved'
          exact ⟨rfl, rfl, rfl⟩
      · cases hmoved'
    · cases hmoved'
  obtain ⟨moved, hnext⟩ := Option.isSome_iff_exists.1 hkept.2.2
  exact ⟨hkept.1, hkept.2.1, thread, moved, hworker, hnext, hmoved⟩

end ReceiverRuntime

/-- Without a thread nothing steps. -/
theorem LanReceiverTransportServer.stepListener_eq_none {server : LanReceiverTransportServer}
    {format : WireFormat} {answer : Except ReceiverError Unit} {input : ListenerInput}
    (h : server.worker = none) : server.stepListener format answer input = none := by
  unfold stepListener
  rw [h]
  cases input <;> rfl

/-- A thread is given events. -/
def ReceiverThread.sendAll (events : List ReceiverTransportEvent) (thread : ReceiverThread) :
    ReceiverThread :=
  { thread with
    channel := thread.channel ++ events.map fun event ↦ .handle (.transport event)
    accepted := thread.accepted ++ events.map .transport }

namespace ReceiverMode

variable {secsF64 : SecsF64} {format : WireFormat} {mode next : ReceiverMode}

/-- The callback puts its events into the channel of a thread that listens. -/
theorem submitAll_sound {events : List ReceiverTransportEvent} {runtime : ReceiverRuntime}
    (h : runtime.Sound secsF64) (hcommandTx : runtime.commandTx = true)
    (hcall : runtime.call = none ∨ events = []) {thread : ReceiverThread}
    (hthread : runtime.worker = some thread) :
    (submitAll events runtime).Sound secsF64 ∧ (submitAll events runtime).commandTx = true ∧
      (submitAll events runtime).call = runtime.call ∧
      (submitAll events runtime).config = runtime.config ∧
      (submitAll events runtime).backendName = runtime.backendName ∧
      (submitAll events runtime).worker = some (thread.sendAll events) := by
  induction events generalizing runtime thread with
  | nil =>
    refine ⟨h, hcommandTx, rfl, rfl, rfl, hthread.trans ?_⟩
    rw [ReceiverThread.sendAll, List.map_nil, List.append_nil, List.map_nil, List.append_nil]
  | cons event events ih =>
    have hnone := hcall.resolve_right (List.cons_ne_nil _ _)
    obtain ⟨-, thread', hthread', -, hlistener⟩ := h.listener hcommandTx
    obtain rfl := Option.some.inj (hthread.symm.trans hthread')
    have hsubmit : runtime.submit event = ReceiverRuntime.returns (.ok ())
        { runtime with worker := some (thread.send (.handle (.transport event))) } := by
      rw [ReceiverRuntime.submit, if_pos hcommandTx, hlistener]
    have hsound := ReceiverRuntime.sound_submit h hnone event
    rw [hsubmit] at hsound
    obtain ⟨hsound', hcommandTx', hcall', hconfig, hbackend, hworker⟩ :=
      ih hsound hcommandTx (Or.inl rfl) rfl
    rw [submitAll, List.foldl_cons, hsubmit]
    refine ⟨hsound', hcommandTx', hcall'.trans hnone.symm, hconfig, hbackend, hworker.trans ?_⟩
    simp only [ReceiverThread.sendAll, ReceiverThread.send, List.map_cons, List.append_assoc,
      List.singleton_append]

/-! ### The listener -/

/-- What a listener thread has left in the status. -/
def Shows (server : LanReceiverTransportServer) : Prop :=
  match server.worker with
  | none | some .ended =>
    server.snapshot.active = false ∧ server.snapshot.session.sessionId = none ∧
      server.snapshot.session.connectedPeer = none
  | some (.serving session) | some (.reading session) =>
    server.snapshot.active = true ∧ server.snapshot.session = session.snapshot
  | some .checking | some .accepting =>
    server.snapshot.active = true ∧ server.snapshot.session.sessionId = none ∧
      server.snapshot.session.connectedPeer = none

/-- **The invariant of the listener**; `stopping` says that a stop waits for its thread. -/
structure Listens (stopping : Bool) (server : LanReceiverTransportServer) : Prop where
  sender : server.stopTx = true → stopping = false ∧ server.stopSent = false ∧
    ∃ phase, server.worker = some phase ∧ phase ≠ .ended
  noSender : server.stopTx = false → server.worker.isSome = true → stopping = true
  shows : Shows server

/-- A session that leaves its loop without an error has taken itself off the status. -/
def Forgets (step : LoopStep ReceiverSession SessionEnd) : Prop :=
  ∀ final, step = .done (.ok (), final) →
    final.snapshot.sessionId = none ∧ final.snapshot.connectedPeer = none

/-- To leave the loop is to forget the session. -/
theorem forgets_leave (session : ReceiverSession) : Forgets session.leave := by
  rintro final ⟨⟩
  exact ⟨rfl, rfl⟩

/-- A session that fails need not. -/
theorem forgets_fail (error : TransportError) (session : ReceiverSession) :
    Forgets (session.fail error) := by
  rintro final ⟨⟩

/-- One that goes on does not leave. -/
theorem forgets_again (session : ReceiverSession) : Forgets (.again session) := by
  rintro final ⟨⟩

/-- Whatever frame ends the session without an error. -/
theorem forgets_handleFrame (format : WireFormat) (input : RoundInput) (frame : Frame)
    (session : ReceiverSession) : Forgets (handleFrame format input frame session) := by
  have hunexpected : Forgets (handleUnexpected format frame session) := by
    rw [handleUnexpected]
    split <;> exact forgets_fail _ _
  rw [handleFrame]
  split
  · rw [handleAudio]
    split
    · exact forgets_fail _ _
    dsimp only
    split
    · exact forgets_fail _ _
    · exact forgets_again _
  · rw [handleHeartbeat]
    split
    · exact forgets_fail _ _
    split
    · exact forgets_fail _ _
    split
    · exact forgets_fail _ _
    · exact forgets_again _
  · rw [handleStop]
    split
    · exact forgets_fail _ _
    split
    · exact forgets_fail _ _
    · exact forgets_leave _
  · rw [handleError]
    split
    · exact forgets_fail _ _
    split
    · exact forgets_fail _ _
    · exact forgets_leave _
  · exact hunexpected
  · exact hunexpected
  · exact hunexpected

/-- Whatever round does. -/
theorem forgets_streamingRound (format : WireFormat) (input : RoundInput) (session : ReceiverSession) :
    Forgets (streamingRound format input session) := by
  rw [streamingRound]
  split
  · exact forgets_leave _
  split
  · exact forgets_handleFrame _ _ _ _
  split
  · split
    · rw [handleDisconnected]
      split
      · exact forgets_fail _ _
      · exact forgets_leave _
    split
    · exact forgets_again _
    · exact forgets_fail _ _
  · exact forgets_fail _ _

/-- The session the listener thread serves. -/
def served (server : LanReceiverTransportServer) : Option ReceiverSession :=
  server.worker.bind ListenerPhase.session?

/-- **What a step of the listener does**, seen from the session: nothing, or a handshake that succeeds,
or a round of the streaming loop. -/
inductive ListenerMove (format : WireFormat) (server next : LanReceiverTransportServer) :
    List ReceiverTransportEvent → Prop
  | silent (same : served next = served server) : ListenerMove format server next []
  | opened {args : SessionArgs} {setup : SessionSetup} {reader : Reader} {writer : Writer}
      {session : ReceiverSession} (free : served server = none)
      (shaken : handshake format args { setup with onConnected := .ok () } { reader, writer } =
        (.ok (), session))
      (opens : served next = some session) : ListenerMove format server next session.emitted
  | went {stopRequested : Bool} {session after : ReceiverSession} (serves : served server = some session)
      (round : streamingRound format ⟨stopRequested, .ok ()⟩ session = .again after)
      (goesOn : served next = some after) :
      ListenerMove format server next (after.emitted.drop session.emitted.length)
  | left {stopRequested : Bool} {session final : ReceiverSession} {result : Except TransportError Unit}
      (serves : served server = some session)
      (round : streamingRound format ⟨stopRequested, .ok ()⟩ session = .done (result, final))
      (closes : served next = none) :
      ListenerMove format server next (final.emitted.drop session.emitted.length)

variable {server after : LanReceiverTransportServer} {events : List ReceiverTransportEvent}
  {stopping : Bool}

/-- A round of the listener is one of the session it serves. -/
theorem round_moves {input : RoundInput} {session : ReceiverSession} (hactive : server.snapshot.active = true)
    (hserves : served server = some session) (hanswer : input.onEvent = .ok ()) {stopSent : Bool}
    (h : { server with stopSent }.round format input session = (after, events)) :
    ListenerMove format server after events ∧ Shows after ∧ after.stopTx = server.stopTx ∧
      after.stopSent = stopSent ∧ ∃ phase, after.worker = some phase ∧ phase ≠ .ended := by
  obtain ⟨stopRequested, answer⟩ := input
  obtain rfl : answer = .ok () := hanswer
  have hforgets := forgets_streamingRound format ⟨stopRequested, .ok ()⟩ session
  rw [LanReceiverTransportServer.round] at h
  split at h
  next next hround =>
    obtain ⟨rfl, rfl⟩ := Prod.mk.inj h
    exact ⟨.went hserves hround rfl, ⟨hactive, rfl⟩, rfl, rfl, _, rfl, by rintro ⟨⟩⟩
  next result final hround =>
    obtain ⟨rfl, rfl⟩ := Prod.mk.inj h
    refine ⟨.left hserves hround rfl, ?_, rfl, rfl, _, rfl, by rintro ⟨⟩⟩
    rcases result with error | ⟨⟩
    · exact ⟨hactive, rfl, rfl⟩
    · exact ⟨hactive, hforgets final hround⟩

/-- **Every step of the listener keeps its invariant**, and is one of the moves. -/
theorem stepListener_moves {input : ListenerInput} (h : Listens stopping server)
    (hstep : server.stepListener format (.ok ()) input = some (after, events)) :
    ListenerMove format server after events ∧ Listens stopping after ∧
      server.worker.isSome = true ∧ after.worker.isSome = true ∧ after.stopTx = server.stopTx := by
  have hshows := h.shows
  have hkept (after : LanReceiverTransportServer) (hworker : server.worker.isSome = true)
      (hshows : Shows after) (hstopTx : after.stopTx = server.stopTx)
      (hstopSent : after.stopSent = server.stopSent)
      (hphase : ∃ phase, after.worker = some phase ∧ phase ≠ .ended) :
      Listens stopping after ∧ after.worker.isSome = true := by
    refine ⟨⟨fun hsender ↦ ?_, fun hsender _ ↦ h.noSender (hstopTx.symm.trans hsender) hworker, hshows⟩, ?_⟩
    · obtain ⟨hstop, hsent, -⟩ := h.sender (hstopTx.symm.trans hsender)
      exact ⟨hstop, hstopSent.trans hsent, hphase⟩
    · obtain ⟨phase, hphase, -⟩ := hphase
      rw [hphase]
      rfl
  -- a thread that is asked to stop has lost its sender
  have hsender (hrequested : server.stopRequested = true) : server.stopTx = false := by
    by_contra hstopTx
    have hstopTx := Bool.eq_true_of_not_eq_false hstopTx
    rw [LanReceiverTransportServer.stopRequested, (h.sender hstopTx).2.1, hstopTx] at hrequested
    exact Bool.false_ne_true hrequested
  have hstopping {after : LanReceiverTransportServer} (hworker : server.worker.isSome = true)
      (hrequested : server.stopRequested = true) (hshows : Shows after)
      (hstopTx : after.stopTx = server.stopTx) : Listens stopping after :=
    ⟨fun hstop ↦ absurd (hstop.symm.trans (hstopTx.trans (hsender hrequested))) Bool.noConfusion,
      fun _ _ ↦ h.noSender (hsender hrequested) hworker, hshows⟩
  unfold LanReceiverTransportServer.stepListener at hstep
  split at hstep
  next hworker =>
    have hsome : server.worker.isSome = true := by rw [hworker]; rfl
    rw [Shows, hworker] at hshows
    split at hstep
    next hrequested =>
      obtain ⟨rfl, rfl⟩ := Prod.mk.inj (Option.some.inj hstep)
      exact ⟨.silent (by rw [served, served, hworker]; rfl),
        hstopping hsome hrequested ⟨rfl, rfl, rfl⟩ rfl, hsome, rfl, rfl⟩
    · obtain ⟨rfl, rfl⟩ := Prod.mk.inj (Option.some.inj hstep)
      obtain ⟨hnext, hsome'⟩ := hkept { server with worker := some .accepting } hsome hshows
        rfl rfl ⟨_, rfl, by rintro ⟨⟩⟩
      exact ⟨.silent (by rw [served, served, hworker]; rfl), hnext, hsome, hsome', rfl⟩
  next peerAddr setup reader writer hworker =>
    have hsome : server.worker.isSome = true := by rw [hworker]; rfl
    rw [Shows, hworker] at hshows
    split at hstep
    next error session hshake =>
      obtain ⟨rfl, rfl⟩ := Prod.mk.inj (Option.some.inj hstep)
      obtain ⟨hnext, hsome'⟩ := hkept (server.closeSession (.error error)
        server.snapshot.session) hsome ⟨hshows.1, rfl, rfl⟩ rfl rfl ⟨_, rfl, by rintro ⟨⟩⟩
      rcases handshake_emitted format _ _ rfl hshake with ⟨-, -, hnone⟩ | ⟨-, hok, -⟩
      · rw [hnone]
        exact ⟨.silent (by rw [served, served, hworker]; rfl), hnext, hsome, hsome', rfl⟩
      · cases hok
    next session hshake =>
      obtain ⟨rfl, rfl⟩ := Prod.mk.inj (Option.some.inj hstep)
      obtain ⟨hnext, hsome'⟩ := hkept { server with
        worker := some (.serving session)
        snapshot := { server.snapshot with session := session.snapshot } } hsome ⟨hshows.1, rfl⟩ rfl
          rfl ⟨_, rfl, by rintro ⟨⟩⟩
      exact ⟨.opened (by rw [served, hworker]; rfl) hshake rfl, hnext, hsome, hsome', rfl⟩
  next hworker =>
    have hsome : server.worker.isSome = true := by rw [hworker]; rfl
    rw [Shows, hworker] at hshows
    obtain ⟨rfl, rfl⟩ := Prod.mk.inj (Option.some.inj hstep)
    obtain ⟨hnext, hsome'⟩ := hkept { server with worker := some .checking } hsome hshows
      rfl rfl ⟨_, rfl, by rintro ⟨⟩⟩
    exact ⟨.silent (by rw [served, served, hworker]; rfl), hnext, hsome, hsome', rfl⟩
  next source localAddr hworker =>
    have hsome : server.worker.isSome = true := by rw [hworker]; rfl
    rw [Shows, hworker] at hshows
    obtain ⟨rfl, rfl⟩ := Prod.mk.inj (Option.some.inj hstep)
    obtain ⟨hnext, hsome'⟩ := hkept { server with
      worker := some .checking
      snapshot := { server.snapshot with
        session := { server.snapshot.session with
          lastError := some (TransportError.io ("accepting connection on " ++
            (localAddr.map SocketAddr.display).getD "receiver-listener") source).display } } } hsome
        hshows rfl rfl ⟨_, rfl, by rintro ⟨⟩⟩
    exact ⟨.silent (by rw [served, served, hworker]; rfl), hnext, hsome, hsome', rfl⟩
  next session hworker =>
    have hsome : server.worker.isSome = true := by rw [hworker]; rfl
    rw [Shows, hworker] at hshows
    have hserves : served server = some session := by rw [served, hworker]; rfl
    split at hstep
    next hrequested =>
      obtain ⟨hmove, hshows', hstopTx, -, phase, hphase, -⟩ := round_moves hshows.1 hserves rfl
        (Option.some.inj hstep)
      exact ⟨hmove, hstopping hsome hrequested hshows' hstopTx, hsome, by rw [hphase]; rfl, hstopTx⟩
    · obtain ⟨rfl, rfl⟩ := Prod.mk.inj (Option.some.inj hstep)
      obtain ⟨hnext, hsome'⟩ := hkept { server with worker := some (.reading session) } hsome
        hshows rfl rfl ⟨_, rfl, by rintro ⟨⟩⟩
      exact ⟨.silent (by rw [served, served, hworker]; rfl), hnext, hsome, hsome', rfl⟩
  next session hworker =>
    have hsome : server.worker.isSome = true := by rw [hworker]; rfl
    rw [Shows, hworker] at hshows
    have hserves : served server = some session := by rw [served, hworker]; rfl
    obtain ⟨hmove, hshows', hstopTx, hstopSent, hphase⟩ := @round_moves format server after events
      ⟨false, .ok ()⟩ session hshows.1 hserves rfl server.stopSent (Option.some.inj hstep)
    obtain ⟨hnext, hsome'⟩ := hkept after hsome hshows' hstopTx hstopSent hphase
    exact ⟨hmove, hnext, hsome, hsome', hstopTx⟩
  · cases hstep

end ReceiverMode

/-! ### The thread follows the system -/

namespace ReceiverThread

variable {secsF64 : SecsF64} {format : WireFormat} {stopping : Bool} {session : Option ReceiverSession}
  {thread : ReceiverThread}

/-- The worker the thread has, or is going to make. -/
def current (secsF64 : SecsF64) (thread : ReceiverThread) : ReceiverWorker :=
  match thread.phase with
  | .running worker => worker
  | .spawned | .ended | .panicked => thread.firstWorker secsF64

/-- The listener's session, the channel and the worker have come about as in a run of `ReceiverSystem`. -/
structure Follows (secsF64 : SecsF64) (format : WireFormat) (stopping : Bool)
    (session : Option ReceiverSession) (thread : ReceiverThread) (inputs : List SystemInput)
    (system : ReceiverSystem) : Prop where
  run : Transition.run (ReceiverSystem.step secsF64 format)
    (.new secsF64 thread.config.playbackTargetId thread.config.latencyPreset) inputs = some system
  handler : system.handler = session
  channel : thread.channel = system.channel.map .handle ++ (if stopping then [.shutdown] else [])
  worker : system.worker = thread.current secsF64

variable {inputs : List SystemInput} {system next : ReceiverSystem}

/-- A session opens, goes on or ends while nobody stops the thread. -/
theorem Follows.sendAll {session' : Option ReceiverSession} {events : List ReceiverTransportEvent}
    {input : SystemInput} (h : thread.Follows secsF64 format false session inputs system)
    (hstep : system.step secsF64 format input = some next) (hhandler : next.handler = session')
    (hchannel : next.channel = system.channel ++ events.map .transport)
    (hworker : next.worker = system.worker) :
    (thread.sendAll events).Follows secsF64 format false session' (inputs ++ [input]) next := by
  refine ⟨Transition.run_append_singleton.2 ⟨system, h.run, hstep⟩, hhandler, ?_,
    hworker.trans h.worker⟩
  rw [ReceiverThread.sendAll, h.channel, hchannel, List.map_append, List.map_map]
  simp only [Bool.false_eq_true, if_false, List.append_nil]
  rfl

/-- A move of the listener is taken after by the system, with the events in its channel. -/
theorem Follows.listener {server after : LanReceiverTransportServer}
    {events : List ReceiverTransportEvent}
    (h : thread.Follows secsF64 format false (ReceiverMode.served server) inputs system)
    (hmove : ReceiverMode.ListenerMove format server after events) :
    ∃ inputs system, (thread.sendAll events).Follows secsF64 format false (ReceiverMode.served after)
      inputs system := by
  cases hmove with
  | silent same =>
    refine ⟨inputs, system, h.run, h.handler.trans same.symm, ?_, h.worker⟩
    rw [ReceiverThread.sendAll, List.map_nil, List.append_nil]
    exact h.channel
  | @opened args setup reader writer session free shaken opens =>
    have hfree := h.handler.trans free
    have hstep : system.step secsF64 format (.accept args setup reader writer) = some { system with
        handler := some session
        channel := ReceiverSystem.submit { reader, writer } session system.channel } := by
      simp only [ReceiverSystem.step, hfree, shaken]
    exact ⟨_, _, h.sendAll hstep opens.symm rfl rfl⟩
  | @went stopRequested session after' serves round goesOn =>
    have hserves := h.handler.trans serves
    have hstep : system.step secsF64 format (.round stopRequested) = some { system with
        handler := some after'
        channel := ReceiverSystem.submit session after' system.channel } := by
      simp only [ReceiverSystem.step, hserves, round]
    exact ⟨_, _, h.sendAll hstep goesOn.symm rfl rfl⟩
  | @left stopRequested session final result serves round closes =>
    have hserves := h.handler.trans serves
    have hstep : system.step secsF64 format (.round stopRequested) = some { system with
        handler := none
        channel := ReceiverSystem.submit session final system.channel } := by
      simp only [ReceiverSystem.step, hserves, round]
    exact ⟨_, _, h.sendAll hstep closes.symm rfl rfl⟩

/-- The target is changed. -/
theorem Follows.setPlaybackTarget (h : thread.Follows secsF64 format false session inputs system)
    (targetId : Option String) :
    (thread.send (.handle (.setPlaybackTarget targetId))).Follows secsF64 format false session
      (inputs ++ [.setPlaybackTarget targetId])
      { system with channel := system.channel ++ [.setPlaybackTarget targetId] } := by
  refine ⟨Transition.run_append_singleton.2 ⟨system, h.run, rfl⟩, h.handler, ?_, h.worker⟩
  rw [ReceiverThread.send, h.channel, List.map_append]
  simp only [Bool.false_eq_true, if_false, List.append_nil]
  rfl

/-- The shutdown is not part of what the system knows. -/
theorem Follows.sendShutdown (h : thread.Follows secsF64 format false session inputs system) :
    (thread.send .shutdown).Follows secsF64 format true session inputs system := by
  refine ⟨h.run, h.handler, ?_, h.worker⟩
  rw [ReceiverThread.send, h.channel]
  simp only [Bool.false_eq_true, if_false, List.append_nil, if_true]

/-- The worker takes an input up. -/
theorem Follows.serve {worker reached : ReceiverWorker} {channel : List RuntimeCommand}
    {rest : List ReceiverCommand} {input : SystemInput}
    {taken : HandlerEnv × ReceiverWorker.WorkerInput}
    (h : thread.Follows secsF64 format stopping session inputs system)
    (hphase : thread.phase = .running worker) (hserved : worker.step secsF64 taken = some reached)
    (hinput : system.step secsF64 format input =
      ReceiverSystem.stepWorker secsF64 taken { system with channel := rest })
    (hchannel : channel = rest.map .handle ++ (if stopping then [.shutdown] else [])) :
    ∃ inputs system, ReceiverThread.Follows secsF64 format stopping session
      { thread with phase := .running reached, channel, served := thread.served ++ [taken] } inputs
        system := by
  have hworker : system.worker = worker := h.worker.trans (by rw [current, hphase])
  obtain ⟨served, hsystem, hhandler, hrest, hreached⟩ : ∃ served : ReceiverSystem,
      ReceiverSystem.stepWorker secsF64 taken { system with channel := rest } = some served ∧
        served.handler = system.handler ∧ served.channel = rest ∧ served.worker = reached := by
    simp only [ReceiverSystem.stepWorker, hworker, hserved, Option.map_some, Option.some.injEq,
      exists_eq_left', and_self]
  exact ⟨inputs ++ [input], served,
    Transition.run_append_singleton.2 ⟨system, h.run, hinput.trans hsystem⟩, hhandler.trans h.handler,
    by rw [hrest, hchannel], hreached⟩

end ReceiverThread

/-- A runtime whose thread, while it listens, follows the system. -/
def ReceiverRuntime.Follows (secsF64 : SecsF64) (format : WireFormat) (session : Option ReceiverSession)
    (runtime : ReceiverRuntime) : Prop :=
  ∀ thread, runtime.worker = some thread → thread.listens = true → ∃ inputs system,
    thread.Follows secsF64 format (decide (runtime.call = some .stop)) session inputs system

namespace ReceiverRuntime

variable {secsF64 : SecsF64} {format : WireFormat} {session : Option ReceiverSession}
  {runtime next : ReceiverRuntime}

/-- What the thread takes up the system's worker takes up. -/
theorem follows_serve (h : runtime.Sound secsF64) {thread : ReceiverThread}
    {worker : ReceiverWorker} {channel : List RuntimeCommand} {rest : List ReceiverCommand}
    {input : SystemInput} {taken : HandlerEnv × ReceiverWorker.WorkerInput}
    {inputs : List SystemInput} {system : ReceiverSystem}
    (hthread : runtime.worker = some thread)
    (hfollows : thread.Follows secsF64 format (decide (runtime.call = some .stop)) session inputs system)
    (hphase : thread.phase = .running worker)
    (hinput : system.step secsF64 format input =
      ReceiverSystem.stepWorker secsF64 taken { system with channel := rest })
    (hchannel : channel = rest.map .handle ++
      (if decide (runtime.call = some .stop) then [.shutdown] else [])) :
    (runtime.serve secsF64 { thread with channel } worker taken).Follows secsF64 format session := by
  have hpublished := (h.thread thread hthread).published
  simp only [ReceiverThread.Published, hphase] at hpublished
  obtain ⟨reached, hserved, -⟩ := ReceiverWorker.step_invariant secsF64 taken hpublished.1.invariant
  simp only [serve, hserved]
  intro moved hmoved _
  obtain rfl := Option.some.inj hmoved
  exact hfollows.serve hphase hserved hinput hchannel

/-- **Every step of the thread is one of the system**, or the thread ends. -/
theorem follows_stepThread (h : runtime.Sound secsF64) (hfollows : runtime.Follows secsF64 format session)
    {thread : ReceiverThread} (hthread : runtime.worker = some thread) {input : RuntimeInput}
    (hstep : runtime.stepThread secsF64 thread input = some next) :
    next.Follows secsF64 format session := by
  have hfollowed := hfollows thread hthread
  rw [ReceiverThread.listens] at hfollowed
  simp only [stepThread] at hstep
  split at hstep
  · split at hstep
    next hphase =>
      obtain rfl := Option.some.inj hstep
      rw [hphase] at hfollowed
      obtain ⟨inputs, system, hrun, hhandler, hchannel, hworker⟩ := hfollowed rfl
      intro moved hmoved _
      obtain rfl := Option.some.inj hmoved
      refine ⟨inputs, system, hrun, hhandler, hchannel, hworker.trans ?_⟩
      rw [ReceiverThread.current, hphase]
      rfl
    · cases hstep
  next env =>
    split at hstep
    next worker command channel hphase hchannel =>
      obtain rfl := Option.some.inj hstep
      rw [hphase] at hfollowed
      obtain ⟨inputs, system, hsystem⟩ := hfollowed rfl
      have hwaiting := hchannel.symm.trans hsystem.channel
      rcases hrest : system.channel with - | ⟨first, rest⟩
      · rw [hrest, List.map_nil, List.nil_append] at hwaiting
        split at hwaiting
        · exact RuntimeCommand.noConfusion (List.cons.inj hwaiting).1
        · exact absurd hwaiting (List.cons_ne_nil _ _)
      · rw [hrest] at hwaiting
        obtain ⟨hfirst, hchannel'⟩ := List.cons.inj hwaiting
        obtain rfl := RuntimeCommand.handle.inj hfirst
        refine @follows_serve _ _ _ _ h _ _ channel rest (.deliver env) _ _ _ hthread hsystem hphase ?_
          hchannel'
        simp only [ReceiverSystem.step, hrest]
    next worker channel hphase hchannel =>
      obtain rfl := Option.some.inj hstep
      intro moved hmoved hlistens
      obtain rfl := Option.some.inj hmoved
      cases hlistens
    · cases hstep
  next env =>
    split at hstep
    next worker hphase hchannel =>
      obtain rfl := Option.some.inj hstep
      rw [hphase] at hfollowed
      obtain ⟨inputs, system, hsystem⟩ := hfollowed rfl
      exact @follows_serve _ _ _ _ h _ _ thread.channel system.channel (.tick env) _ _ _ hthread hsystem
        hphase rfl hsystem.channel
    · cases hstep
  next env =>
    split at hstep
    · split at hstep
      · cases hstep
      · obtain rfl := Option.some.inj hstep
        intro moved hmoved hlistens
        obtain rfl := Option.some.inj hmoved
        cases hlistens
    · cases hstep
  · cases hstep

end ReceiverRuntime

end SynchroSonic
