import SynchroSonic.Transport.Receiver

/-!
# What a round of a session can do

One inversion lemma for the streaming loop, `streamingRound_outcome`, from which everything about
whole sessions is derived. A round first takes something from the stream — a frame, or what a failed
read used up — and then a handler answers to it. What a handler can do is `HandlerEffect`: it touches
neither the stream nor the record of received frames, and whether the callback learns what happened
is decided by a condition on the state in front of it.

Since every further round takes something from the stream, the loop ends (`streamingLoop_isSome`).
-/

namespace SynchroSonic

/-! ### Events -/

namespace ReceiverTransportEvent

/-- An event of a running stream. -/
def isStreamed : ReceiverTransportEvent → Bool
  | .audioPacket _ | .keepAlive => true
  | _ => false

/-- An event that tells the runtime the session is over. -/
def isEnd : ReceiverTransportEvent → Bool
  | .disconnected _ _ | .error _ => true
  | _ => false

end ReceiverTransportEvent

namespace TransportError

/-- The stream had nothing to offer in time. -/
def isTimeout : TransportError → Bool
  | .io _ source => source.isTimeout
  | _ => false

/-- The stream is gone. -/
def isDisconnect : TransportError → Bool
  | .io _ source => source.isDisconnect
  | _ => false

/-- A timeout is not the end of the connection. -/
theorem isDisconnect_of_isTimeout {error : TransportError} (h : error.isTimeout = true) :
    error.isDisconnect = false := by
  cases error with
  | io context source => exact IoError.isDisconnect_of_isTimeout h
  | _ => rfl

end TransportError

/-- A decoded frame gets through its handler: the callback takes the event, the metadata decodes,
a heartbeat can be acknowledged, and the kind has a place in a running stream. -/
def frameReports (format : WireFormat) (input : RoundInput) (frame : Frame) (writer : Writer) :
    Bool :=
  input.onEvent.isOk &&
    match frame.kind with
    | .audio => (decodeMetadata format.audio frame).isOk
    | .heartbeat =>
      match decodeMetadata format.heartbeat frame with
      | .error _ => false
      | .ok heartbeat => (writeMessage format.heartbeat .heartbeatAck heartbeat [] writer).1.isOk
    | .stop => (decodeMetadata format.stop frame).isOk
    | .error => (decodeMetadata format.error frame).isOk
    | .hello | .accept | .heartbeatAck => false

/-- No stop is requested, and what the round reads reaches the callback: a frame that gets through
its handler, a timeout, or any other failure to read. -/
def roundReports (format : WireFormat) (input : RoundInput) (session : ReceiverSession) : Bool :=
  !input.stopRequested &&
    match (readFrame session.reader).1 with
    | .ok frame => frameReports format input frame session.writer
    | .error error => error.isTimeout || input.onEvent.isOk

/-- `final` is `session` after handing `events` to the callback: the stream and the record of
received frames are as they were. -/
structure ReceiverSession.Carried (session final : ReceiverSession)
    (events : List ReceiverTransportEvent) : Prop where
  reader : final.reader = session.reader
  received : final.received = session.received
  emitted : final.emitted = session.emitted ++ events

/-- A round without an event carries the session over as it was. -/
theorem ReceiverSession.Carried.unheard {session final : ReceiverSession}
    (reader : final.reader = session.reader) (received : final.received = session.received)
    (emitted : final.emitted = session.emitted) : session.Carried final [] :=
  ⟨reader, received, by simpa using emitted⟩

/-- What a handler does, by whether it `reports`. -/
inductive HandlerEffect (session : ReceiverSession) (reports : Bool) :
    LoopStep ReceiverSession SessionEnd → Prop
  /-- The loop goes on. -/
  | again {next : ReceiverSession} (event : ReceiverTransportEvent)
      (isStreamed : event.isStreamed = true) (carried : session.Carried next [event])
      (told : reports = true) : HandlerEffect session reports (.again next)
  /-- The loop ends and the callback was told. -/
  | announced {result : Except TransportError Unit} {final : ReceiverSession}
      (last : ReceiverTransportEvent) (isEnd : last.isEnd = true)
      (carried : session.Carried final [last]) (told : reports = true) :
      HandlerEffect session reports (.done (result, final))
  /-- The loop ends and the callback was not told. -/
  | silent {result : Except TransportError Unit} {final : ReceiverSession}
      (streamed : List ReceiverTransportEvent)
      (isStreamed : ∀ event ∈ streamed, event.isStreamed = true)
      (carried : session.Carried final streamed) (untold : reports = false) :
      HandlerEffect session reports (.done (result, final))

/-- A handler that leaves before the callback hears anything. -/
theorem HandlerEffect.unheard {session final : ReceiverSession} {reports : Bool}
    {result : Except TransportError Unit} (carried : session.Carried final [])
    (untold : reports = false) : HandlerEffect session reports (.done (result, final)) :=
  .silent [] (by simp) carried untold

/-! ### The branches of a round -/

section Branches

variable (format : WireFormat) {input : RoundInput} {session : ReceiverSession} {rest : Reader}

/-- A round that reads a frame handles it. -/
theorem streamingRound_of_frame (hstop : input.stopRequested = false) {frame : Frame}
    (hread : readFrame session.reader = (.ok frame, rest)) :
    streamingRound format input session =
      handleFrame format input frame
        { session with reader := rest, received := session.received ++ [frame] } := by
  simp only [streamingRound, hstop, hread, Bool.false_eq_true, if_false]

/-- A round that reads none handles the error. -/
theorem streamingRound_of_error (hstop : input.stopRequested = false) {error : TransportError}
    (hread : readFrame session.reader = (.error error, rest)) :
    streamingRound format input session =
      if error.isDisconnect then handleDisconnected input { session with reader := rest }
      else if error.isTimeout then .again { session with reader := rest }
      else handleReadFailure format input error { session with reader := rest } := by
  cases error with
  | io context source =>
    simp only [streamingRound, hstop, hread, Bool.false_eq_true, if_false]
    rfl
  | _ =>
    simp only [streamingRound, hstop, hread, Bool.false_eq_true, if_false,
      TransportError.isDisconnect, TransportError.isTimeout]

end Branches

/-! ### The handlers -/

theorem isOk_error {ε α : Type} (error : ε) : (Except.error error : Except ε α).isOk = false := rfl

theorem isOk_ok {ε α : Type} (a : α) : (Except.ok a : Except ε α).isOk = true := rfl

section Handlers

variable {format : WireFormat} {input : RoundInput} {frame : Frame} {session : ReceiverSession}

/-- An audio frame is reported as a packet, or ends the session by what is wrong with it. -/
theorem handleAudio_effect (hkind : frame.kind = .audio) :
    HandlerEffect session (frameReports format input frame session.writer)
      (handleAudio format input frame session) := by
  rcases hdecode : decodeMetadata format.audio frame with error | metadata
  · simp only [handleAudio, hdecode]
    exact .unheard (.unheard rfl rfl rfl) (by simp [frameReports, hkind, hdecode, isOk_error])
  rcases hanswer : input.onEvent with error | ⟨⟩
  · simp only [handleAudio, hdecode, hanswer, ReceiverSession.emit]
    exact .unheard (.unheard rfl rfl rfl) (by simp [frameReports, hanswer, isOk_error])
  · simp only [handleAudio, hdecode, hanswer, ReceiverSession.emit]
    exact .again _ rfl ⟨rfl, rfl, rfl⟩ (by simp [frameReports, hkind, hdecode, hanswer, isOk_ok])

/-- A heartbeat is reported and acknowledged, and ends the session where it is not. -/
theorem handleHeartbeat_effect (hkind : frame.kind = .heartbeat) :
    HandlerEffect session (frameReports format input frame session.writer)
      (handleHeartbeat format input frame session) := by
  rcases hdecode : decodeMetadata format.heartbeat frame with error | heartbeat
  · simp only [handleHeartbeat, hdecode]
    exact .unheard (.unheard rfl rfl rfl) (by simp [frameReports, hkind, hdecode])
  rcases hanswer : input.onEvent with error | ⟨⟩
  · simp only [handleHeartbeat, hdecode, hanswer, ReceiverSession.emit]
    exact .unheard (.unheard rfl rfl rfl) (by simp [frameReports, hanswer, isOk_error])
  -- the event is out before the acknowledgement is written
  rcases hwrite : writeMessage format.heartbeat .heartbeatAck heartbeat [] session.writer with
    ⟨error | size, writer⟩
  · simp only [handleHeartbeat, hdecode, hanswer, ReceiverSession.emit, ReceiverSession.send, hwrite]
    exact .silent [.keepAlive] (by simp [ReceiverTransportEvent.isStreamed]) ⟨rfl, rfl, rfl⟩
      (by simp [frameReports, hkind, hdecode, hwrite, isOk_error])
  · simp only [handleHeartbeat, hdecode, hanswer, ReceiverSession.emit, ReceiverSession.send, hwrite]
    exact .again .keepAlive rfl ⟨rfl, rfl, rfl⟩
      (by simp [frameReports, hkind, hdecode, hanswer, hwrite, isOk_ok])

/-- A stop is reported as the end of the session. -/
theorem handleStop_effect (hkind : frame.kind = .stop) :
    HandlerEffect session (frameReports format input frame session.writer)
      (handleStop format input frame session) := by
  rcases hdecode : decodeMetadata format.stop frame with error | stop
  · simp only [handleStop, hdecode]
    exact .unheard (.unheard rfl rfl rfl) (by simp [frameReports, hkind, hdecode, isOk_error])
  rcases hanswer : input.onEvent with error | ⟨⟩
  · simp only [handleStop, hdecode, hanswer, ReceiverSession.emit]
    exact .unheard (.unheard rfl rfl rfl) (by simp [frameReports, hanswer, isOk_error])
  · simp only [handleStop, hdecode, hanswer, ReceiverSession.emit]
    exact .announced _ rfl ⟨rfl, rfl, rfl⟩
      (by simp [frameReports, hkind, hdecode, hanswer, isOk_ok])

/-- An error frame is reported as an error. -/
theorem handleError_effect (hkind : frame.kind = .error) :
    HandlerEffect session (frameReports format input frame session.writer)
      (handleError format input frame session) := by
  rcases hdecode : decodeMetadata format.error frame with error | error
  · simp only [handleError, hdecode]
    exact .unheard (.unheard rfl rfl rfl) (by simp [frameReports, hkind, hdecode, isOk_error])
  rcases hanswer : input.onEvent with refusal | ⟨⟩
  · simp only [handleError, hdecode, hanswer, ReceiverSession.emit]
    exact .unheard (.unheard rfl rfl rfl) (by simp [frameReports, hanswer, isOk_error])
  · simp only [handleError, hdecode, hanswer, ReceiverSession.emit]
    exact .announced _ rfl ⟨rfl, rfl, rfl⟩
      (by simp [frameReports, hkind, hdecode, hanswer, isOk_ok])

/-- Any other frame ends the session without a report. -/
theorem handleUnexpected_effect
    (hkind : frame.kind = .hello ∨ frame.kind = .accept ∨ frame.kind = .heartbeatAck) :
    HandlerEffect session (frameReports format input frame session.writer)
      (handleUnexpected format frame session) := by
  have hreports : frameReports format input frame session.writer = false := by
    rcases hkind with hkind | hkind | hkind <;> simp [frameReports, hkind]
  simp only [handleUnexpected, ReceiverSession.sendProtocolError, ReceiverSession.send]
  split
  next hsend =>
    obtain ⟨-, rfl⟩ := Prod.mk.inj hsend
    exact .unheard (.unheard rfl rfl rfl) hreports
  next hsend =>
    obtain ⟨-, rfl⟩ := Prod.mk.inj hsend
    exact .unheard (.unheard rfl rfl rfl) hreports

/-- All kinds together: what a frame does, by whether it is reported. -/
theorem handleFrame_effect (session : ReceiverSession) :
    HandlerEffect session (frameReports format input frame session.writer)
      (handleFrame format input frame session) := by
  unfold handleFrame
  split
  next hkind => exact handleAudio_effect hkind
  next hkind => exact handleHeartbeat_effect hkind
  next hkind => exact handleStop_effect hkind
  next hkind => exact handleError_effect hkind
  next hkind => exact handleUnexpected_effect (Or.inl hkind)
  next hkind => exact handleUnexpected_effect (Or.inr (Or.inl hkind))
  next hkind => exact handleUnexpected_effect (Or.inr (Or.inr hkind))

/-- The end of the connection is reported before the session ends. -/
theorem handleDisconnected_effect (input : RoundInput) (session : ReceiverSession) :
    ∃ result final, handleDisconnected input session = .done (result, final) ∧
      HandlerEffect session input.onEvent.isOk (.done (result, final)) := by
  rcases hanswer : input.onEvent with error | ⟨⟩
  · simp only [handleDisconnected, hanswer, ReceiverSession.emit]
    exact ⟨_, _, rfl, .unheard (.unheard rfl rfl rfl) rfl⟩
  · simp only [handleDisconnected, hanswer, ReceiverSession.emit]
    exact ⟨_, _, rfl, .announced _ rfl ⟨rfl, rfl, rfl⟩ rfl⟩

/-- So is any other read that fails. -/
theorem handleReadFailure_effect (format : WireFormat) (input : RoundInput)
    (error : TransportError) (session : ReceiverSession) :
    ∃ result final, handleReadFailure format input error session = .done (result, final) ∧
      HandlerEffect session input.onEvent.isOk (.done (result, final)) := by
  rcases hanswer : input.onEvent with refusal | ⟨⟩
  · simp only [handleReadFailure, hanswer, ReceiverSession.emit]
    exact ⟨_, _, rfl, .unheard (.unheard rfl rfl rfl) rfl⟩
  · simp only [handleReadFailure, hanswer, ReceiverSession.emit]
    exact ⟨_, _, rfl, .announced _ rfl ⟨rfl, rfl, rfl⟩ rfl⟩

end Handlers

/-! ### Rounds -/

/-- What a round does: which part of the loop body it goes through, and what comes of it. -/
inductive RoundOutcome (format : WireFormat) (input : RoundInput) (session : ReceiverSession) :
    LoopStep ReceiverSession SessionEnd → Prop
  /-- A stop was requested. The peer is told, the callback is not. -/
  | stopped {final : ReceiverSession} (stop : input.stopRequested = true)
      (carried : session.Carried final []) :
      RoundOutcome format input session (.done (.ok (), final))
  /-- A frame was decoded and handled. -/
  | frame {frame : Frame} {rest : Reader} {step : LoopStep ReceiverSession SessionEnd}
      (running : input.stopRequested = false)
      (read : readFrame session.reader = (.ok frame, rest))
      (effect : HandlerEffect
        { session with reader := rest, received := session.received ++ [frame] }
        (frameReports format input frame session.writer) step) :
      RoundOutcome format input session step
  /-- The read timed out. -/
  | timeout {error : TransportError} {rest : Reader} (running : input.stopRequested = false)
      (read : readFrame session.reader = (.error error, rest)) (timeout : error.isTimeout = true) :
      RoundOutcome format input session (.again { session with reader := rest })
  /-- The read failed in any other way. -/
  | failure {error : TransportError} {rest : Reader} {result : Except TransportError Unit}
      {final : ReceiverSession} (running : input.stopRequested = false)
      (read : readFrame session.reader = (.error error, rest)) (timeout : error.isTimeout = false)
      (effect : HandlerEffect { session with reader := rest } input.onEvent.isOk
        (.done (result, final))) :
      RoundOutcome format input session (.done (result, final))

/-- **What a round does.** -/
theorem streamingRound_outcome (format : WireFormat) (input : RoundInput)
    (session : ReceiverSession) :
    RoundOutcome format input session (streamingRound format input session) := by
  rcases hstop : input.stopRequested with - | -
  case true =>
    simp only [streamingRound, hstop, if_true]
    exact .stopped hstop (.unheard rfl rfl rfl)
  rcases hread : readFrame session.reader with ⟨error | frame, rest⟩
  · rw [streamingRound_of_error format hstop hread]
    split
    next hdisconnect =>
      have htimeout : error.isTimeout = false := by
        by_contra h
        simp [TransportError.isDisconnect_of_isTimeout (by simpa using h)] at hdisconnect
      obtain ⟨result, final, hdone, heffect⟩ :=
        handleDisconnected_effect input { session with reader := rest }
      rw [hdone]
      exact .failure hstop hread htimeout heffect
    split
    next htimeout => exact .timeout hstop hread htimeout
    next htimeout =>
      obtain ⟨result, final, hdone, heffect⟩ :=
        handleReadFailure_effect format input error { session with reader := rest }
      rw [hdone]
      exact .failure hstop hread (by simpa using htimeout) heffect
  · rw [streamingRound_of_frame format hstop hread]
    exact .frame hstop hread (handleFrame_effect
      { session with reader := rest, received := session.received ++ [frame] })

/-! ### Rounds and events -/

section Events

variable {format : WireFormat} {input : RoundInput} {session : ReceiverSession}

/-- A round that goes on has reported what it read. -/
theorem streamingRound_again {next : ReceiverSession}
    (h : streamingRound format input session = .again next) :
    roundReports format input session = true ∧
      ∃ streamed, (∀ event ∈ streamed, event.isStreamed = true) ∧
        next.emitted = session.emitted ++ streamed := by
  have houtcome := streamingRound_outcome format input session
  rw [h] at houtcome
  cases houtcome with
  | frame running read effect =>
    cases effect with
    | again event isStreamed carried told =>
      exact ⟨by simp [roundReports, running, read, told], [event], by simpa using isStreamed,
        carried.emitted⟩
  | timeout running read timeout =>
    exact ⟨by simp [roundReports, running, read, timeout], [], by simp, by simp⟩

/-- A round that ends the loop tells the callback exactly when it `roundReports`. -/
theorem streamingRound_done {result : Except TransportError Unit} {final : ReceiverSession}
    (h : streamingRound format input session = .done (result, final)) :
    (roundReports format input session = true ∧
      ∃ last, last.isEnd = true ∧ final.emitted = session.emitted ++ [last]) ∨
    (roundReports format input session = false ∧
      ∃ streamed, (∀ event ∈ streamed, event.isStreamed = true) ∧
        final.emitted = session.emitted ++ streamed) := by
  have houtcome := streamingRound_outcome format input session
  rw [h] at houtcome
  cases houtcome with
  | stopped stop carried =>
    exact Or.inr ⟨by simp [roundReports, stop], [], by simp, carried.emitted⟩
  | frame running read effect =>
    cases effect with
    | announced last isEnd carried told =>
      exact Or.inl ⟨by simp [roundReports, running, read, told], last, isEnd, carried.emitted⟩
    | silent streamed isStreamed carried untold =>
      exact Or.inr ⟨by simp [roundReports, running, read, untold], streamed, isStreamed,
        carried.emitted⟩
  | failure running read timeout effect =>
    cases effect with
    | announced last isEnd carried told =>
      exact Or.inl ⟨by simp [roundReports, running, read, told], last, isEnd, carried.emitted⟩
    | silent streamed isStreamed carried untold =>
      exact Or.inr ⟨by simp [roundReports, running, read, timeout, untold], streamed, isStreamed,
        carried.emitted⟩

end Events

/-! ### The loop ends -/

/-- A read that yields a frame or times out takes something from the stream. -/
theorem items_lt_of_readFrame_ok {reader rest : Reader} {frame : Frame}
    (h : readFrame reader = (.ok frame, rest)) : rest.items.length < reader.items.length := by
  obtain ⟨-, -, hitems⟩ := items_of_readFrame_ok h
  have hpos := encodeFrame_pos frame.toFrameBody
  rw [hitems, List.length_append, List.length_map]
  omega

/-- A timeout is an item of the stream, behind the bytes the read had already taken. -/
theorem items_of_readFrame_timeout {reader rest : Reader} {error : TransportError}
    (h : readFrame reader = (.error error, rest)) (htimeout : error.isTimeout = true) :
    ∃ (lost : List UInt8) (source : IoError),
      reader.items = lost.map .inl ++ .inr source :: rest.items := by
  obtain ⟨lost, hlost⟩ := failure_of_readFrame_error h
  cases hlost with
  | reported items => exact ⟨lost, _, items⟩
  | ended items empty => exact absurd htimeout (by simp [TransportError.isTimeout]; decide)
  | refused => exact absurd htimeout (by simp [TransportError.isTimeout])

/-- Every round that goes on reads something, which bounds the loop. -/
theorem streamingRound_items_lt {format : WireFormat} {input : RoundInput}
    {session next : ReceiverSession} (h : streamingRound format input session = .again next) :
    next.reader.items.length < session.reader.items.length := by
  have houtcome := streamingRound_outcome format input session
  rw [h] at houtcome
  cases houtcome with
  | frame running read effect =>
    cases effect with
    | again event isStreamed carried told =>
      rw [carried.reader]
      exact items_lt_of_readFrame_ok read
  | timeout running read timeout =>
    obtain ⟨lost, source, hitems⟩ := items_of_readFrame_timeout read timeout
    simp only [hitems, List.length_append, List.length_cons]
    omega

/-- The body of the loop counts its rounds. -/
theorem streamingBody_again {format : WireFormat} {inputs : ℕ → RoundInput}
    {state next : ℕ × ReceiverSession} (h : streamingBody format inputs state = .again next) :
    next.1 = state.1 + 1 ∧ streamingRound format (inputs state.1) state.2 = .again next.2 := by
  simp only [streamingBody] at h
  split at h
  next session hround =>
    obtain rfl := LoopStep.again.inj h
    exact ⟨rfl, hround⟩
  · exact nomatch h

/-- The last round is one of `streaming_round` too. -/
theorem streamingBody_done {format : WireFormat} {inputs : ℕ → RoundInput}
    {state : ℕ × ReceiverSession} {result : SessionEnd}
    (h : streamingBody format inputs state = .done result) :
    streamingRound format (inputs state.1) state.2 = .done result := by
  simp only [streamingBody] at h
  split at h
  · exact nomatch h
  next hround =>
    obtain rfl := LoopStep.done.inj h
    exact hround

/-- **The streaming loop ends.** -/
theorem streamingLoop_isSome (format : WireFormat) (inputs : ℕ → RoundInput)
    (session : ReceiverSession) : (streamingLoop format inputs session).isSome :=
  @Loop.run_isSome _ _ _ (fun _ ↦ True) (fun state ↦ state.2.reader.items.length)
    (fun _ _ _ h ↦ ⟨trivial, streamingRound_items_lt (streamingBody_again h).2⟩) _ _ trivial
    (Nat.lt_succ_self _)

end SynchroSonic
