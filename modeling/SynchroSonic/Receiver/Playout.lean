import SynchroSonic.Receiver.LiveSession
import SynchroSonic.Receiver.PacketLedger
import SynchroSonic.Transport.Cast

/-!
# From a sender's queue to the playback sink

An audio payload on its way passes the socket, the receiver's session, the command channel and the
worker's buffer. Each of them keeps the order, and each may lose some: a session that ends leaves bytes
unread, a departed worker discards what arrives, and the buffer drops what is too old or too much. So
what the sinks take is a subsequence of what the senders queued, whoever connects after whom
(`played_was_queued`).

* `ReceiverWorker.trail` — what the worker has played and what it still holds;
* `Reader.Follows` — the stream of a session that has been read up to some frame of its sender;
* `ReceiverSystem.Plays` — all that is under way, stage behind stage, was sent in this order.
-/

namespace SynchroSonic

open ReadScript

/-! ### The worker -/

namespace ReceiverWorker

variable {secsF64 : SecsF64} {env : HandlerEnv} {worker next : ReceiverWorker}

/-- What the sinks have taken so far and, behind it, what waits in the buffer. -/
def trail (worker : ReceiverWorker) : List (List UInt8) :=
  worker.accounts.written ++ worker.accounts.queued

/-- The trail is read off the accounts. -/
theorem trail_of_accounts (h : next.accounts = worker.accounts) : next.trail = worker.trail := by
  rw [trail, h, trail]

/-- Whoever empties the buffer and writes nothing forgets the buffer. -/
theorem trail_of_emptied (hbuffer : next.buffer.packets = []) (hwritten : next.written = worker.written) :
    next.trail.Sublist worker.trail := by
  simp only [trail, accounts, hbuffer, hwritten, List.map_nil, List.append_nil]
  exact List.sublist_append_left _ _

/-- An error forgets the buffer, and nothing that was played. -/
theorem trail_setError (env : HandlerEnv) (message : String) (worker : ReceiverWorker) :
    (worker.setError env message).trail.Sublist worker.trail := by
  obtain ⟨lastError, hstop⟩ := stopPlaybackSink_eq env worker
  refine trail_of_emptied ?_ ?_
  · rw [setError_buffer]
    rfl
  · simp only [setError, hstop, resetSyncTimeline]

/-- So does the end of a session. -/
theorem trail_handleDisconnect (env : HandlerEnv) (reason : String) (reconnectSuggested : Bool)
    (worker : ReceiverWorker) :
    (worker.handleDisconnect env reason reconnectSuggested).trail.Sublist worker.trail := by
  obtain ⟨lastError, hstop⟩ := stopPlaybackSink_eq env { worker with metrics := { worker.metrics with
    reconnectAttempts := worker.metrics.reconnectAttempts + if reconnectSuggested then 1 else 0 } }
  refine trail_of_emptied ?_ ?_
  · rw [handleDisconnect_buffer]
    rfl
  · simp only [handleDisconnect, hstop, resetSyncTimeline]

/-- And so does the start of the next one. -/
theorem trail_handleConnect (secsF64 : SecsF64) (env : HandlerEnv)
    (connection : ReceiverConnectionInfo) (worker : ReceiverWorker) :
    (worker.handleConnect secsF64 env connection).trail.Sublist worker.trail := by
  obtain ⟨lastError, hstop⟩ := stopPlaybackSink_eq env worker
  simp only [handleConnect, hstop]
  split
  · exact trail_of_emptied rfl rfl
  · exact (trail_setError _ _ _).trans (trail_of_emptied rfl rfl)

/-- A packet goes to the end of the buffer, and the oldest one may have to make room. -/
theorem trail_handlePacket (env : HandlerEnv) (packet : ReceiverAudioPacket) (worker : ReceiverWorker) :
    (worker.handlePacket env packet).trail.Sublist (worker.trail ++ [packet.payload]) := by
  rcases hconnection : worker.connection with - | connection
  · rw [handlePacket, hconnection]
    exact List.sublist_append_left _ _
  have herror (message : String) : ((worker.openSyncWindow (env.now 0) packet).setError env
      message).trail.Sublist (worker.trail ++ [packet.payload]) :=
    (trail_setError env message _).trans (List.sublist_append_left _ _)
  simp only [handlePacket, hconnection]
  split
  · exact herror _
  next frameCount hcount =>
  split
  · exact herror _
  next outcome buffer hpush =>
    obtain ⟨frameCount', -, heffect, -, -⟩ := ReceiverPacketBuffer.push_eq_ok hpush
    rw [trail_of_accounts (accounts_settleStates _)]
    simp only [trail, accounts, countPacket, refreshSyncBufferMetrics]
    rw [List.append_assoc]
    refine (List.Sublist.refl _).append ?_
    cases heffect with
    | accepted hpackets =>
      rw [hpackets, List.map_append]
      exact List.Sublist.refl _
    | droppedOldest hbefore hfull hpackets =>
      rw [hpackets, List.map_append, show worker.buffer.packets = _ from hbefore, List.map_cons]
      exact (List.sublist_cons_self _ _).append (List.Sublist.refl _)

/-! ### Draining -/

/-- A packet that leaves the buffer unplayed is forgotten. -/
theorem trail_withBuffer {packet : BufferedPacket} {buffer : ReceiverPacketBuffer}
    (hpop : worker.buffer.pop = some (packet, buffer)) (hbuffer : next.buffer = buffer)
    (hwritten : next.written = worker.written) : next.trail.Sublist worker.trail := by
  obtain ⟨hpackets, -, -⟩ := ReceiverPacketBuffer.pop_eq_some hpop
  simp only [trail, accounts, hbuffer, hwritten, hpackets, List.map_cons]
  exact (List.Sublist.refl _).append (List.sublist_cons_self _ _)

/-- A packet that is played goes from the buffer to the sink. -/
theorem trail_countPlayed {packet : BufferedPacket} {buffer : ReceiverPacketBuffer}
    (hpop : worker.buffer.pop = some (packet, buffer)) (deadline now : Instant) (scheduleErrorMs : ℤ)
    (sink : PlaybackSink) :
    (((worker.schedule deadline scheduleErrorMs).withBuffer buffer).countPlayed packet
      scheduleErrorMs ⟨sink, packet.packet.payload, now, deadline⟩).trail = worker.trail := by
  obtain ⟨hpackets, -, -⟩ := ReceiverPacketBuffer.pop_eq_some hpop
  simp only [trail, accounts, countPlayed, refreshSyncBufferMetrics, measureFill, withBuffer,
    schedule, hpackets, List.map_append, List.map_cons, List.map_nil, List.append_assoc]
  rfl

/-- A round plays the oldest packet or drops it. -/
theorem trail_drainRound_again {round : ℕ} (hdraining : worker.Draining)
    (hround : drainRound env round worker = .again next) : next.trail.Sublist worker.trail := by
  have houtcome := drainRound_outcome env round hdraining
  rw [hround] at houtcome
  cases houtcome with
  | stale pop => exact trail_withBuffer pop rfl rfl
  | played pop =>
    rw [trail_countPlayed pop]

/-- The last round does, or forgets the buffer with the session. -/
theorem trail_drainRound_done {round : ℕ} {exit : DrainExit} (hdraining : worker.Draining)
    (hround : drainRound env round worker = .done (exit, next)) : next.trail.Sublist worker.trail := by
  have houtcome := drainRound_outcome env round hdraining
  rw [hround] at houtcome
  cases houtcome with
  | drained empty => rw [trail_of_accounts (accounts_underrun worker)]
  | resynced pop => exact trail_withBuffer pop rfl rfl
  | waiting early => exact List.Sublist.refl _
  | writeFailed pop => exact (trail_setError _ _ _).trans (trail_withBuffer pop rfl rfl)

/-- The loop plays in the order of the buffer. -/
theorem trail_drainReadyPackets {exit : DrainExit} (hinvariant : worker.Invariant)
    (hdrain : worker.drainReadyPackets env = some (exit, next)) : next.trail.Sublist worker.trail := by
  rcases drainReadyPackets_cases env hinvariant with
    ⟨exit', state, sync, hcase, -, -, -⟩ | ⟨hdraining, hcase⟩
  · obtain ⟨-, rfl⟩ := Prod.mk.inj (Option.some.inj (hcase.symm.trans hdrain))
    exact List.Sublist.refl _
  · exact @of_drainLoop env worker (fun reached ↦ reached.trail.Sublist worker.trail)
      (fun result ↦ result.2.trail.Sublist worker.trail)
      (fun _ _ _ hdraining h hround ↦ (trail_drainRound_again hdraining hround).trans h)
      (fun _ _ _ hdraining h hround ↦ (trail_drainRound_done hdraining hround).trans h) _ hdraining
      (List.Sublist.refl _) (hcase.symm.trans hdrain)

/-- A tick adds nothing to the trail, and changes no order in it. -/
theorem trail_onTick (hinvariant : worker.Invariant) (hstep : worker.onTick env = some next) :
    next.trail.Sublist worker.trail := by
  obtain ⟨exit, final, hdrain, rfl⟩ := onTick_eq_some hstep
  refine List.Sublist.trans ?_ (trail_drainReadyPackets hinvariant hdrain)
  show (final.checkTransportTimeout env).trail.Sublist final.trail
  rw [checkTransportTimeout_eq]
  split
  · exact trail_handleDisconnect _ _ _ _
  · exact List.Sublist.refl _

/-- **The worker keeps the order.** A step appends the packet it was given, and loses some. -/
theorem trail_step {input : HandlerEnv × WorkerInput} (hinvariant : worker.Invariant)
    (hstep : worker.step secsF64 input = some next) :
    next.trail.Sublist
      (worker.trail ++ (audioPacketOf input).map ReceiverAudioPacket.payload) := by
  obtain ⟨env, input⟩ := input
  have hnothing (h : next.trail.Sublist worker.trail) :
      next.trail.Sublist (worker.trail ++ ([] : List ReceiverAudioPacket).map
        ReceiverAudioPacket.payload) := h.trans (List.sublist_append_left _ _)
  cases input with
  | transport event =>
    obtain rfl := Option.some.inj hstep
    cases event with
    | connected connection => exact hnothing (trail_handleConnect secsF64 env connection worker)
    | audioPacket packet => exact trail_handlePacket env packet worker
    | keepAlive => exact hnothing (List.Sublist.refl _)
    | disconnected reason reconnectSuggested =>
      exact hnothing (trail_handleDisconnect env reason reconnectSuggested worker)
    | error message => exact hnothing (trail_setError env message worker)
  | setPlaybackTarget targetId =>
    obtain rfl := Option.some.inj hstep
    refine hnothing ?_
    show (worker.handlePlaybackTargetChange env targetId).trail.Sublist worker.trail
    rw [trail_of_accounts (accounts_handlePlaybackTargetChange env targetId worker)]
  | tick => exact hnothing (trail_onTick hinvariant hstep)

end ReceiverWorker

/-! ### The session -/

/-- The payload of an audio frame. -/
def FrameBody.audioPayload? (body : FrameBody) : Option (List UInt8) :=
  if body.kind = .audio then some body.payload else none

/-- The payload an event carries to the worker. -/
def ReceiverTransportEvent.payload? : ReceiverTransportEvent → Option (List UInt8)
  | .audioPacket packet => some packet.payload
  | _ => none

/-- The payload a command carries to the worker. -/
def ReceiverCommand.payload? : ReceiverCommand → Option (List UInt8)
  | .transport event => event.payload?
  | .setPlaybackTarget _ => none

/-- The session a round leaves behind. -/
def sessionOf : LoopStep ReceiverSession SessionEnd → ReceiverSession
  | .again next => next
  | .done (_, final) => final

/-- What a session hands to the runtime, and nothing of it is audio but these payloads. -/
def Hands (before after : ReceiverSession) (payloads : List (List UInt8)) : Prop :=
  ∃ events, after.emitted = before.emitted ++ events ∧
    (events.filterMap ReceiverTransportEvent.payload?).Sublist payloads

section Hands

variable {format : WireFormat} {input : RoundInput} {frame : Frame} {session after : ReceiverSession}
  {payloads : List (List UInt8)}

/-- Nothing is handed over. -/
theorem Hands.nothing (h : after.emitted = session.emitted) : Hands session after payloads :=
  ⟨[], h.trans (List.append_nil _).symm, List.nil_sublist _⟩

/-- An event without audio is handed over. -/
theorem Hands.word {event : ReceiverTransportEvent} (hevent : event.payload? = none)
    (h : after.emitted = session.emitted ++ [event]) : Hands session after payloads :=
  ⟨[event], h, by rw [List.filterMap_cons_none hevent]; exact List.nil_sublist _⟩

/-- An audio frame hands over its payload, or nothing. -/
theorem hands_handleAudio (hkind : frame.kind = .audio) :
    Hands session (sessionOf (handleAudio format input frame session))
      frame.toFrameBody.audioPayload?.toList := by
  have hpayload : frame.toFrameBody.audioPayload? = some frame.payload := if_pos hkind
  rw [handleAudio]
  rcases decodeMetadata format.audio frame with error | metadata
  · exact .nothing rfl
  rcases hanswer : input.onEvent with error | ⟨⟩
  · exact .nothing rfl
  · rw [hpayload]
    exact ⟨[_], rfl, List.Sublist.refl _⟩

/-- A heartbeat hands over no audio. -/
theorem hands_handleHeartbeat :
    Hands session (sessionOf (handleHeartbeat format input frame session)) payloads := by
  rw [handleHeartbeat]
  rcases decodeMetadata format.heartbeat frame with error | heartbeat
  · exact .nothing rfl
  rcases hanswer : input.onEvent with error | ⟨⟩
  · exact .nothing rfl
  · dsimp only [ReceiverSession.emit]
    split
    next error final hsend =>
      refine @Hands.word _ _ _ .keepAlive rfl ?_
      exact emitted_of_send hsend
    next size final hsend =>
      refine @Hands.word _ _ _ .keepAlive rfl ?_
      exact emitted_of_send hsend

/-- Nor does a stop. -/
theorem hands_handleStop :
    Hands session (sessionOf (handleStop format input frame session)) payloads := by
  rw [handleStop]
  rcases decodeMetadata format.stop frame with error | stop
  · exact .nothing rfl
  rcases hanswer : input.onEvent with error | ⟨⟩
  · exact .nothing rfl
  · exact @Hands.word _ _ _ (.disconnected stop.reason false) rfl rfl

/-- Nor an error. -/
theorem hands_handleError :
    Hands session (sessionOf (handleError format input frame session)) payloads := by
  rw [handleError]
  rcases decodeMetadata format.error frame with error | error
  · exact .nothing rfl
  rcases hanswer : input.onEvent with error' | ⟨⟩
  · exact .nothing rfl
  · exact @Hands.word _ _ _ (.error _) rfl rfl

/-- Nor a frame that should not come. -/
theorem hands_handleUnexpected :
    Hands session (sessionOf (handleUnexpected format frame session)) payloads := by
  rw [handleUnexpected]
  split
  next hsend => exact .nothing (emitted_of_send hsend)
  next hsend => exact .nothing (emitted_of_send hsend)

/-- **A frame** hands over its payload if it is an audio frame, and no audio otherwise. -/
theorem hands_handleFrame : Hands session (sessionOf (handleFrame format input frame session))
    frame.toFrameBody.audioPayload?.toList := by
  unfold handleFrame
  split
  next hkind => exact hands_handleAudio hkind
  · exact hands_handleHeartbeat
  · exact hands_handleStop
  · exact hands_handleError
  · exact hands_handleUnexpected
  · exact hands_handleUnexpected
  · exact hands_handleUnexpected

/-- Nor the end of the connection. -/
theorem hands_handleDisconnected :
    Hands session (sessionOf (handleDisconnected input session)) payloads := by
  rw [handleDisconnected]
  rcases input.onEvent with error | ⟨⟩
  · exact .nothing rfl
  · exact @Hands.word _ _ _ (.disconnected _ true) rfl rfl

/-- Nor a read that fails. -/
theorem hands_handleReadFailure (error : TransportError) :
    Hands session (sessionOf (handleReadFailure format input error session)) payloads := by
  rw [handleReadFailure]
  rcases input.onEvent with refusal | ⟨⟩
  · exact .nothing rfl
  · exact @Hands.word _ _ _ (.error _) rfl rfl

end Hands

/-! ### The stream -/

/-- The stream brings the encodings of these frames, in order and perhaps not all of them, and no
timeout comes inside a frame. -/
structure Reader.Follows (reader : Reader) (bodies : List FrameBody) : Prop where
  withinLimits : ∀ body ∈ bodies, body.WithinLimits
  clean : CleanTimeouts reader.items bodies
  starts : symbols reader.items <+: encodeFrames bodies

section Follows

variable {format : WireFormat} {reader rest : Reader} {bodies : List FrameBody}

/-- The frame that is read is the next one, and the stream goes on behind it. -/
theorem Reader.Follows.readFrame (h : reader.Follows bodies) {frame : Frame}
    (hread : SynchroSonic.readFrame reader = (.ok frame, rest)) :
    ∃ later, bodies = frame.toFrameBody :: later ∧ rest.Follows later := by
  obtain ⟨later, rfl, hstarts⟩ := next_of_readFrame h.withinLimits hread h.starts
  exact ⟨later, rfl, fun body hmem ↦ h.withinLimits body (List.mem_cons_of_mem _ hmem),
    h.clean.of_readFrame hread, hstarts⟩

/-- A timeout comes in front of a frame, and takes nothing. -/
theorem Reader.Follows.timeout (h : reader.Follows bodies) {error : TransportError}
    (hread : SynchroSonic.readFrame reader = (.error error, rest)) (htimeout : error.isTimeout = true) :
    rest.Follows bodies := by
  obtain ⟨hclean, hstarts⟩ := next_of_timeout h.withinLimits hread htimeout h.clean h.starts
  exact ⟨h.withinLimits, hclean, hstarts⟩

/-- **A round** hands over the next of the payloads, or loses it, and the stream goes on behind it. -/
theorem hands_streamingRound {session : ReceiverSession} (h : session.reader.Follows bodies)
    (input : RoundInput) :
    ∃ payloads later, Hands session (sessionOf (streamingRound format input session)) payloads ∧
      (payloads ++ later.filterMap FrameBody.audioPayload?).Sublist
        (bodies.filterMap FrameBody.audioPayload?) ∧
      ∀ next, streamingRound format input session = .again next → next.reader.Follows later := by
  rcases hstop : input.stopRequested with - | -
  case true =>
    refine ⟨[], [], .nothing ?_, List.nil_sublist _, fun next hagain ↦ ?_⟩
    · simp only [streamingRound, hstop, if_true]
      rfl
    · simp only [streamingRound, hstop, if_true] at hagain
      cases hagain
  rcases hread : readFrame session.reader with ⟨error | frame, rest⟩
  · rw [streamingRound_of_error format hstop hread]
    split
    · refine ⟨[], [], hands_handleDisconnected, List.nil_sublist _, fun next hagain ↦ ?_⟩
      obtain ⟨result, final, hdone, -⟩ :=
        handleDisconnected_effect input { session with reader := rest }
      cases hdone.symm.trans hagain
    split
    next htimeout =>
      refine ⟨[], bodies, .nothing rfl, List.Sublist.refl _, fun next hagain ↦ ?_⟩
      obtain rfl := LoopStep.again.inj hagain
      exact h.timeout hread htimeout
    · refine ⟨[], [], hands_handleReadFailure error, List.nil_sublist _, fun next hagain ↦ ?_⟩
      obtain ⟨result, final, hdone, -⟩ :=
        handleReadFailure_effect format input error { session with reader := rest }
      cases hdone.symm.trans hagain
  · rw [streamingRound_of_frame format hstop hread]
    obtain ⟨later, rfl, hrest⟩ := h.readFrame hread
    refine ⟨frame.toFrameBody.audioPayload?.toList, later, hands_handleFrame, ?_,
      fun next hagain ↦ ?_⟩
    · rcases hpayload : frame.toFrameBody.audioPayload? with - | payload
      · rw [List.filterMap_cons_none hpayload]
        exact List.Sublist.refl _
      · rw [List.filterMap_cons_some hpayload]
        exact List.Sublist.refl _
    · have heffect := @handleFrame_effect format input frame
        { session with reader := rest, received := session.received ++ [frame] }
      rw [hagain] at heffect
      cases heffect with
      | again event isStreamed carried told =>
        rw [carried.reader]
        exact hrest

end Follows

/-! ### The sender's end -/

namespace SpokenSession

variable {format : WireFormat} (spoken : SpokenSession format) {reader : Reader}

/-- The payloads its queue was given, oldest first. -/
def queued : List (List UInt8) := spoken.voiced.pushed.map FanoutAudioFrame.payload

/-- A connection brings what the session has written. -/
structure Reaches (reader : Reader) : Prop where
  delivers : reader.Delivers spoken.voiced.writer.socket.written
  clean : CleanTimeouts reader.items spoken.bodies

/-- A connection that reaches the receiver brings the frames of the session. -/
theorem Reaches.follows (h : spoken.Reaches reader) : reader.Follows spoken.bodies where
  withinLimits body hmem := by
    rcases List.mem_cons.1 hmem with rfl | hsaid
    · exact spoken.helloWithin
    · exact (VoicedSession.kind_of_bodies hsaid).1
  clean := h.clean
  starts := by
    have hcut := spoken.speaks.wrote.cut
    rw [spoken.fresh, List.nil_append] at hcut
    exact h.delivers.trans hcut

/-- The audio of a message is the payload of its frame. -/
theorem audioPayload?_of_frame? {message : SenderMessage} {body : FrameBody}
    (h : message.frame? format = some body) :
    body.audioPayload? = message.audio?.map FanoutAudioFrame.payload := by
  cases message with
  | audio frame =>
    obtain ⟨hkind, -, hpayload, -⟩ := SerdeJson.frame?_eq_some h
    rw [FrameBody.audioPayload?, if_pos hkind, hpayload]
    rfl
  | heartbeat nonce =>
    obtain ⟨hkind, -, -, -⟩ := SerdeJson.frame?_eq_some h
    rw [FrameBody.audioPayload?, if_neg (by rw [hkind]; exact FrameKind.noConfusion)]
    rfl
  | stop reason =>
    obtain ⟨hkind, -, -, -⟩ := SerdeJson.frame?_eq_some h
    rw [FrameBody.audioPayload?, if_neg (by rw [hkind]; exact FrameKind.noConfusion)]
    rfl

/-- **The audio on the socket** was queued, in this order. -/
theorem audio_sublist :
    ((spoken.voiced.bodies format).filterMap FrameBody.audioPayload?).Sublist spoken.queued := by
  have hsaid : ∀ said : List SenderMessage,
      ((said.filterMap (SenderMessage.frame? format)).filterMap FrameBody.audioPayload?).Sublist
        ((said.filterMap SenderMessage.audio?).map FanoutAudioFrame.payload) := by
    intro said
    induction said with
    | nil => exact List.Sublist.refl _
    | cons message said ih =>
      rcases hframe : message.frame? format with - | body
      · rw [List.filterMap_cons_none hframe]
        refine ih.trans (List.Sublist.map _ ?_)
        exact (List.sublist_cons_self _ _).filterMap _
      · rw [List.filterMap_cons_some hframe]
        have hpayload := audioPayload?_of_frame? hframe
        rcases haudio : message.audio? with - | frame
        · rw [haudio] at hpayload
          rw [List.filterMap_cons_none hpayload, List.filterMap_cons_none haudio]
          exact ih
        · rw [haudio] at hpayload
          rw [List.filterMap_cons_some hpayload, List.filterMap_cons_some haudio]
          exact ih.cons_cons _
  exact (hsaid _).trans (((List.sublist_append_left _ _).trans spoken.speaks.audio).map _)

end SpokenSession

/-! ### The receiver's end -/

/-- The connection a peer brings. -/
def SystemInput.reader? : SystemInput → Option Reader
  | .accept _ _ reader _ => some reader
  | _ => none

namespace ReceiverSystem

variable {secsF64 : SecsF64} {format : WireFormat} {sent more : List (List UInt8)}
  {system next : ReceiverSystem}

/-- The payloads that have left the sockets: played, buffered and in the channel. -/
def underWay (system : ReceiverSystem) : List (List UInt8) :=
  system.worker.trail ++ system.channel.filterMap ReceiverCommand.payload?

/-- The payloads under way and those the running session is still to read were sent in this order. -/
def Plays (sent : List (List UInt8)) (system : ReceiverSystem) : Prop :=
  match system.handler with
  | none => system.underWay.Sublist sent
  | some session => ∃ bodies, session.reader.Follows bodies ∧
      (system.underWay ++ bodies.filterMap FrameBody.audioPayload?).Sublist sent

/-- What is under way was sent in this order. -/
theorem Plays.underWay (h : system.Plays sent) : system.underWay.Sublist sent := by
  rw [Plays] at h
  split at h
  · exact h
  · obtain ⟨bodies, -, hsent⟩ := h
    exact (List.sublist_append_left _ _).trans hsent

/-- Whatever is under way may get lost. -/
theorem Plays.imp (h : system.Plays sent) (hhandler : next.handler = system.handler)
    (hunder : next.underWay.Sublist system.underWay) : next.Plays sent := by
  rw [Plays] at h ⊢
  rw [hhandler]
  split
  next hnone =>
    rw [hnone] at h
    exact hunder.trans h
  next session hsession =>
    rw [hsession] at h
    obtain ⟨bodies, hfollows, hsent⟩ := h
    exact ⟨bodies, hfollows, (hunder.append (List.Sublist.refl _)).trans hsent⟩

/-- More is sent by someone who is not connected. -/
theorem Plays.of_none (h : system.Plays sent) (hhandler : system.handler = none) :
    system.Plays (sent ++ more) := by
  rw [Plays, hhandler]
  exact h.underWay.trans (List.sublist_append_left _ _)

/-- A stretch of a session's events goes into the channel. -/
theorem underWay_submit {before after : ReceiverSession} {payloads : List (List UInt8)}
    (h : Hands before after payloads) (handler : Option ReceiverSession) :
    ({ system with handler, channel := submit before after system.channel } :
      ReceiverSystem).underWay.Sublist (system.underWay ++ payloads) := by
  obtain ⟨events, hemitted, hevents⟩ := h
  simp only [ReceiverSystem.underWay, submit, hemitted, List.drop_left, List.filterMap_append,
    List.filterMap_map, ← List.append_assoc]
  exact (List.Sublist.refl _).append hevents

/-! ### Every move keeps the order -/

/-- A session that is accepted is one more that may be played, behind those before it. -/
theorem plays_accept {args : SessionArgs} {setup : SessionSetup} {reader : Reader} {writer : Writer}
    (h : system.Plays sent) (spoken : SpokenSession format) (hreaches : spoken.Reaches reader)
    (hstep : system.step secsF64 format (.accept args setup reader writer) = some next) :
    next.Plays (sent ++ spoken.queued) := by
  simp only [step] at hstep
  split at hstep
  · cases hstep
  next hhandler =>
  split at hstep
  · obtain rfl := Option.some.inj hstep
    exact h.of_none hhandler
  next session hshake =>
    obtain rfl := Option.some.inj hstep
    obtain ⟨hello, hread⟩ := read_of_handshake hshake
    obtain ⟨later, heq, hlater⟩ := hreaches.follows.readFrame hread
    have hhands : Hands { reader, writer } session [] := by
      rcases handshake_emitted format args { setup with onConnected := .ok () } rfl hshake with
        ⟨error, herror, -⟩ | ⟨connection, -, hemitted⟩
      · cases herror
      · exact @Hands.word _ _ _ (.connected connection) rfl hemitted
    have hunder := @underWay_submit system _ _ _ hhands (some session)
    rw [List.append_nil] at hunder
    refine ⟨later, hlater, ?_⟩
    rw [← (List.cons.inj heq).2]
    exact (hunder.trans h.underWay).append spoken.audio_sublist

/-- A round of the session moves the payload of a frame into the channel. -/
theorem plays_round {stopRequested : Bool} (h : system.Plays sent)
    (hstep : system.step secsF64 format (.round stopRequested) = some next) : next.Plays sent := by
  simp only [step] at hstep
  split at hstep
  · cases hstep
  next session hsession =>
  rw [Plays, hsession] at h
  obtain ⟨bodies, hfollows, hsent⟩ := h
  obtain ⟨payloads, later, hhands, hlater, hagain⟩ :=
    @hands_streamingRound format _ _ hfollows ⟨stopRequested, .ok ()⟩
  rcases hround : streamingRound format ⟨stopRequested, .ok ()⟩ session with session' | ⟨result, final⟩
  · have hrest := hagain session' hround
    rw [hround] at hstep hhands
    obtain rfl := Option.some.inj hstep
    refine ⟨later, hrest, ?_⟩
    refine ((underWay_submit hhands _).append (List.Sublist.refl _)).trans ?_
    rw [List.append_assoc]
    exact ((List.Sublist.refl _).append hlater).trans hsent
  · rw [hround] at hstep hhands
    obtain rfl := Option.some.inj hstep
    refine (underWay_submit hhands none).trans ?_
    exact ((List.Sublist.refl _).append ((List.sublist_append_left _ _).trans hlater)).trans hsent

/-- The worker plays, drops and forgets; it reorders nothing. -/
theorem underWay_stepWorker {env : HandlerEnv} {input : ReceiverWorker.WorkerInput}
    (hworker : system.worker.Invariant)
    (hstep : stepWorker secsF64 (env, input) system = some next) :
    next.underWay.Sublist (system.worker.trail ++
      ((ReceiverWorker.audioPacketOf (env, input)).map ReceiverAudioPacket.payload ++
        system.channel.filterMap ReceiverCommand.payload?)) := by
  obtain ⟨worker, departed, hworker', rfl, -⟩ := stepWorker_eq_some hstep
  rw [← List.append_assoc]
  exact (ReceiverWorker.trail_step hworker hworker').append (List.Sublist.refl _)

/-- The worker takes a command out of the channel. -/
theorem plays_deliver {env : HandlerEnv} (h : system.Plays sent) (hworker : system.worker.Invariant)
    (hstep : system.step secsF64 format (.deliver env) = some next) : next.Plays sent := by
  simp only [step] at hstep
  split at hstep
  · cases hstep
  next command channel hchannel =>
    refine h.imp (@stepWorker_invariant _ { system with channel } _ _ hworker hstep).2 ?_
    refine (@underWay_stepWorker _ { system with channel } _ _ _ hworker hstep).trans ?_
    rw [ReceiverSystem.underWay, hchannel]
    refine (List.Sublist.refl _).append ?_
    cases command with
    | transport event =>
      cases event with
      | audioPacket packet => exact List.Sublist.refl _
      | _ => exact List.Sublist.refl _
    | setPlaybackTarget targetId => exact List.Sublist.refl _

/-- **Every move keeps the order** of what is under way. -/
theorem plays_step {input : SystemInput} (h : system.Plays sent) (hworker : system.worker.Invariant)
    (hquiet : input.reader? = none) (hstep : system.step secsF64 format input = some next) :
    next.Plays sent := by
  cases input with
  | accept args setup reader writer => cases hquiet
  | round stopRequested => exact plays_round h hstep
  | setPlaybackTarget targetId =>
    obtain rfl := Option.some.inj hstep
    refine h.imp rfl ?_
    simp only [ReceiverSystem.underWay, List.filterMap_append]
    rw [show [ReceiverCommand.setPlaybackTarget targetId].filterMap ReceiverCommand.payload? = []
      from rfl, List.append_nil]
  | deliver env => exact plays_deliver h hworker hstep
  | tick env =>
    refine h.imp (stepWorker_invariant hworker hstep).2 ?_
    exact underWay_stepWorker hworker hstep

/-- The list that belongs to one with a last element has one too. -/
theorem forall₂_concat_right {α β : Type} {R : α → β → Prop} {as : List α} {bs : List β} {b : β}
    (h : List.Forall₂ R as (bs ++ [b])) :
    ∃ before a, as = before ++ [a] ∧ List.Forall₂ R before bs ∧ R a b := by
  obtain ⟨a, rest, hab, hrest, hdrop⟩ :=
    List.forall₂_cons_right_iff.1 (List.forall₂_drop_append as bs [b] h)
  obtain rfl := List.forall₂_nil_right_iff.1 hrest
  exact ⟨as.take bs.length, a, by rw [← hdrop, List.take_append_drop],
    List.forall₂_take_append as bs [b] h, hab⟩

/-- **What is played was queued.** Take any run of the receiver, from its start on, and let each of the
connections it accepts bring what some sender's session has written. Then the payloads the sinks took
are payloads that these sessions were given to send, in this order and each at most once. -/
theorem played_was_queued (secsF64 : SecsF64) (format : WireFormat)
    (playbackTargetId : Option String) (latencyPreset : ReceiverLatencyPreset)
    {inputs : List SystemInput} {sessions : List (SpokenSession format)} {system : ReceiverSystem}
    (hreaches : List.Forall₂ SpokenSession.Reaches sessions (inputs.filterMap SystemInput.reader?))
    (hrun : Transition.run (step secsF64 format) (new secsF64 playbackTargetId latencyPreset) inputs =
      some system) :
    (system.worker.written.map SinkWrite.payload).Sublist (sessions.flatMap SpokenSession.queued) := by
  have hplays := @Transition.run_history _ _ (step secsF64 format)
    (fun inputs reached ↦ reached.Invariant ∧ ∀ sessions : List (SpokenSession format),
      List.Forall₂ SpokenSession.Reaches sessions (inputs.filterMap SystemInput.reader?) →
        reached.Plays (sessions.flatMap SpokenSession.queued))
    (fun before reached input next hreached hstep ↦ by
      refine ⟨step_invariant hreached.1 hstep, fun sessions hsessions ↦ ?_⟩
      rw [List.filterMap_append] at hsessions
      rcases hreader : input.reader? with - | reader
      · rw [List.filterMap_cons_none hreader, List.filterMap_nil, List.append_nil] at hsessions
        exact plays_step (hreached.2 sessions hsessions) hreached.1.worker hreader hstep
      · rw [List.filterMap_cons_some hreader, List.filterMap_nil] at hsessions
        obtain ⟨earlier, spoken, rfl, hearlier, hspoken⟩ := forall₂_concat_right hsessions
        cases input with
        | accept args setup reader' writer =>
          obtain rfl := Option.some.inj hreader
          rw [List.flatMap_append, List.flatMap_singleton]
          exact plays_accept (hreached.2 earlier hearlier) spoken hspoken hstep
        | _ => cases hreader)
    _ _ _ ⟨new_invariant secsF64 playbackTargetId latencyPreset, fun sessions hsessions ↦ by
      obtain rfl := List.forall₂_nil_right_iff.1 hsessions
      exact List.Sublist.refl _⟩ hrun
  exact (List.sublist_append_left _ _).trans
    ((List.sublist_append_left _ _).trans (hplays.2 sessions hreaches).underWay)

end ReceiverSystem

/-! ### From the capture to the sink -/

/-- **What is played was captured.** A sender and a receiver each take any run from their start on. Of the
sessions the sender opens for the receiver some reach it, one after the other in the order in which they
were opened, and their connections deliver in order what was written, with no timeout inside a frame.
Then the payloads the receiver's sinks took are payloads of the frames the sender captured, in this
order and each at most once, across every reconnect. -/
theorem played_was_captured {secsF64 : SecsF64} {format : WireFormat} {setup : SenderSetup}
    {now : Instant} {target : SenderTarget} {steps : List CastInput} {cast : Cast format}
    {playbackTargetId : Option String} {latencyPreset : ReceiverLatencyPreset}
    {inputs : List SystemInput} {system : ReceiverSystem} {deviceId : DeviceId}
    {sessions : List (SpokenSession format)}
    (hsender : Transition.run (Cast.step secsF64) (Cast.start format secsF64 setup now target) steps =
      some cast)
    (hreceiver : Transition.run (ReceiverSystem.step secsF64 format)
      (ReceiverSystem.new secsF64 playbackTargetId latencyPreset) inputs = some system)
    (hsessions : sessions.Sublist (cast.line deviceId).sessions)
    (hreaches : List.Forall₂ SpokenSession.Reaches sessions (inputs.filterMap SystemInput.reader?)) :
    (system.worker.written.map SinkWrite.payload).Sublist
      (cast.captured.map FanoutAudioFrame.payload) := by
  have hplayed := ReceiverSystem.played_was_queued secsF64 format playbackTargetId latencyPreset
    hreaches hreceiver
  refine (hplayed.trans (hsessions.flatMap _)).trans ?_
  rw [show SpokenSession.queued = fun spoken : SpokenSession format ↦
    spoken.voiced.pushed.map FanoutAudioFrame.payload from rfl, ← List.map_flatMap]
  exact (Cast.queued_was_captured (Cast.cast_inStep hsender) deviceId).map _

/-! ### A frame on its way -/

namespace Sample

/-- A mono capture at 100 Hz: seven frames are the 70 ms a balanced receiver buffers. -/
def slowSetup : SenderSetup :=
  { senderSetup with captureSettings := { sampleRateHz := 100, channels := 1 } }

/-- A packet of 480 such frames takes 4.8 seconds. -/
def slowSecsF64 : SecsF64 := fun _ _ ↦ 4800000000

def slowRequest : TargetConnectRequest := (SenderManager.new slowSecsF64 slowSetup).connectRequest

def slowHello : HelloMessage :=
  .new "sender-0-receiver-1-0" "sender" slowRequest.streamConfig .balanced 150 1000

def slowStreamJson : List String :=
  ["\"stream\":\x7b\"sample_rate_hz\":100,", "\"channels\":1,", "\"sample_format\":\"S16Le\",",
    "\"frames_per_packet\":480\x7d,"]

def slowHelloJson : List String :=
  ["\x7b\"protocol_version\":1,", "\"session_id\":\"sender-0-receiver-1-0\",",
    "\"sender_name\":\"sender\",", "\"supported_codecs\":[\"RawPcm\"],",
    "\"desired_codec\":\"RawPcm\","] ++ slowStreamJson ++
  ["\"quality\":\"Balanced\",", "\"target_latency_ms\":150,", "\"keepalive_interval_ms\":1000\x7d"]

def slowAcceptJson : List String :=
  ["\x7b\"protocol_version\":1,", "\"session_id\":\"sender-0-receiver-1-0\",",
    "\"receiver_name\":\"receiver\",", "\"codec\":\"RawPcm\","] ++ slowStreamJson ++
  ["\"keepalive_interval_ms\":1000,", "\"receiver_latency_ms\":150\x7d"]

def slowFormat : WireFormat :=
  { format with
    hello := .single slowHello slowHelloJson
    accept := .single (acceptFor args slowHello) slowAcceptJson }

def slowAccepted : ConnectEnv :=
  { accepted with
    reader := ReadScript.ofList (encodeFrame ⟨.accept, SerdeJson.asciiBytes slowAcceptJson, []⟩) }

def slowPayload : List UInt8 := [1, 2, 3, 4, 5, 6, 7, 8, 9, 10, 11, 12, 13, 14]

/-- The capture gives a frame. -/
def capturingEnv : ManagerEnv :=
  { managerEnv with
    nowUnixMs := 10
    tryRecvFrame := fun _ ↦ .ok (some (.fromPayload 0 10000000 slowSetup.captureSettings slowPayload)) }

/-- The frame is captured, and the writer thread sends it. -/
def castSteps : List CastInput :=
  [.manager .noCommand, .manager (.pendingTargets managerEnv),
    .manager (.connected ⟨0, senderTarget 1, 1, slowRequest⟩ slowAccepted),
    .manager (.connectResult capturingEnv), .manager .noConnectResult,
    .manager (.mirrorEvents managerEnv), .manager (.tick managerEnv), .manager (.capture capturingEnv),
    .thread receiverId .live .noControl, .thread receiverId .live (.frame true)]

def castBytes : List UInt8 :=
  encodeFrames [⟨.hello, SerdeJson.asciiBytes slowHelloJson, []⟩,
    ⟨.audio, SerdeJson.asciiBytes audioJson, slowPayload⟩]

/-- The receiver hears it and plays it 70 ms later. -/
def playedInputs : List SystemInput :=
  [.accept args setup (ReadScript.ofList castBytes) .empty, .deliver (ReceiverWorker.calmEnv 0),
    .round false, .deliver (ReceiverWorker.calmEnv 0), .tick (ReceiverWorker.calmEnv 70000000)]

end Sample

/-- One frame goes all the way. -/
theorem played_was_captured_frame :
    ∃ (cast : Cast Sample.slowFormat) (system : ReceiverSystem),
      Transition.run (Cast.step Sample.slowSecsF64) (Cast.start Sample.slowFormat Sample.slowSecsF64
        Sample.slowSetup 0 (Sample.senderTarget 1)) Sample.castSteps = some cast ∧
      Transition.run (ReceiverSystem.step Sample.slowSecsF64 Sample.slowFormat)
        (ReceiverSystem.new Sample.slowSecsF64 none .balanced) Sample.playedInputs = some system ∧
      system.worker.written.map SinkWrite.payload = [Sample.slowPayload] ∧
      (system.worker.written.map SinkWrite.payload).Sublist
        (cast.captured.map FanoutAudioFrame.payload) := by
  have hsender : (Transition.run (Cast.step Sample.slowSecsF64) (Cast.start Sample.slowFormat
      Sample.slowSecsF64 Sample.slowSetup 0 (Sample.senderTarget 1)) Sample.castSteps).map (fun cast ↦
        (cast.line Sample.receiverId).sessions.map fun spoken ↦
          (spoken.voiced.writer.socket.written)) = some [Sample.castBytes] := by decide +kernel
  have hreceiver : (Transition.run (ReceiverSystem.step Sample.slowSecsF64 Sample.slowFormat)
      (ReceiverSystem.new Sample.slowSecsF64 none .balanced) Sample.playedInputs).map (fun system ↦
        system.worker.written.map SinkWrite.payload) = some [Sample.slowPayload] := by decide +kernel
  obtain ⟨cast, hcast, hwritten⟩ := Option.map_eq_some_iff.1 hsender
  obtain ⟨system, hsystem, hplayed⟩ := Option.map_eq_some_iff.1 hreceiver
  obtain ⟨spoken, hspoken, hbytes⟩ := List.map_eq_singleton_iff.1 hwritten
  refine ⟨cast, system, hcast, hsystem, hplayed, ?_⟩
  refine @played_was_captured _ _ _ _ _ _ _ _ _ _ _ Sample.receiverId [spoken] hcast hsystem
    (by rw [hspoken]) (.cons ⟨?_, ?_⟩ .nil)
  · rw [Reader.Delivers, Reader.items, ReadScript.items_ofList, ReadScript.symbols_map_inl, hbytes]
  · rw [Reader.items, ReadScript.items_ofList]
    exact .of_bytes _ _

end SynchroSonic
