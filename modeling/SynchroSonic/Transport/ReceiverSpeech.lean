import SynchroSonic.Transport.SessionRounds
import SynchroSonic.Transport.Transcript

/-!
# What a receiver says

The socket of a receiver session carries at most one `Accept`, then the acknowledgement of every
heartbeat, with the heartbeat's own nonce, and at most one `Stop` or `Error`, which is the last.

A heartbeat is left without an acknowledgement only where the callback refuses its `KeepAlive`. That
round is the last one, the heartbeat the last one heard, and the session ends with that refusal
(`EndsByRefusal`). `RoundSays` is what one round of the streaming loop adds, and `speech_of_run` puts
the rounds together.
-/

namespace SynchroSonic

/-- What a receiver session says to the sender. -/
inductive ReceiverMessage
  | accept (message : AcceptMessage)
  | heartbeatAck (message : HeartbeatMessage)
  | stop (message : StopMessage)
  | error (message : ErrorMessage)
  deriving DecidableEq, Repr

namespace ReceiverMessage

/-- The frame that is written. -/
def frame? (format : WireFormat) : ReceiverMessage → Option FrameBody
  | .accept message => format.accept.frame? .accept message []
  | .heartbeatAck message => format.heartbeat.frame? .heartbeatAck message []
  | .stop message => format.stop.frame? .stop message []
  | .error message => format.error.frame? .error message []

/-- A message behind which nothing is said. -/
def isFarewell : ReceiverMessage → Bool
  | .stop _ | .error _ => true
  | _ => false

end ReceiverMessage

/-- The heartbeat a frame carries. -/
def Frame.heartbeat? (format : WireFormat) (frame : Frame) : Option HeartbeatMessage :=
  if frame.kind = .heartbeat then (decodeMetadata format.heartbeat frame).toOption else none

/-- The heartbeats among these frames. -/
def heartbeatsOf (format : WireFormat) (frames : List Frame) : List HeartbeatMessage :=
  frames.filterMap (Frame.heartbeat? format)

/-- The frames of these messages. -/
def receiverFrames (format : WireFormat) (said : List ReceiverMessage) : List FrameBody :=
  said.filterMap (ReceiverMessage.frame? format)

/-- Messages are framed one by one. -/
@[simp] theorem receiverFrames_append (format : WireFormat) (said more : List ReceiverMessage) :
    receiverFrames format (said ++ more) = receiverFrames format said ++ receiverFrames format more :=
  List.filterMap_append

theorem receiverFrames_singleton (format : WireFormat) (message : ReceiverMessage) :
    receiverFrames format [message] = (message.frame? format).toList := by
  rw [receiverFrames]
  rcases hframe : message.frame? format with - | frame
  · rw [List.filterMap_cons_none hframe]
    rfl
  · rw [List.filterMap_cons_some hframe]
    rfl

/-- A member of all but the last of two stretches. -/
theorem mem_dropLast_append {α : Type} {front back : List α} {a : α}
    (h : a ∈ (front ++ back).dropLast) : a ∈ front ∨ a ∈ back.dropLast := by
  rcases List.eq_nil_or_concat back with rfl | ⟨before, last, rfl⟩
  · rw [List.append_nil] at h
    exact Or.inl (List.mem_of_mem_dropLast h)
  · rw [List.concat_eq_append, ← List.append_assoc, List.dropLast_concat] at h
    rw [List.concat_eq_append, List.dropLast_concat]
    exact List.mem_append.1 h

/-- Every message but the last has a frame: behind one without, nothing is said. -/
def Unbroken (format : WireFormat) (said : List ReceiverMessage) : Prop :=
  ∀ message ∈ said.dropLast, (message.frame? format).isSome = true

theorem Unbroken.nothing {format : WireFormat} : Unbroken format [] :=
  fun _ hmem ↦ absurd hmem List.not_mem_nil

theorem Unbroken.one {format : WireFormat} {message : ReceiverMessage} :
    Unbroken format [message] :=
  fun _ hmem ↦ absurd hmem List.not_mem_nil

/-- Messages that all have a frame may be followed by more. -/
theorem Unbroken.append {format : WireFormat} {said more : List ReceiverMessage}
    (hmore : Unbroken format more)
    (hsaid : ∀ message ∈ said, (message.frame? format).isSome = true) : Unbroken format (said ++ more) :=
  fun message hmem ↦ (mem_dropLast_append hmem).elim (hsaid message) (hmore message)

/-- Nothing, or one farewell. -/
def Farewell (said : List ReceiverMessage) : Prop :=
  said = [] ∨ ∃ message, said = [message] ∧ message.isFarewell = true

/-- Behind a farewell there is nothing that could be cut off. -/
theorem Farewell.unbroken {format : WireFormat} {said : List ReceiverMessage}
    (h : Farewell said) : Unbroken format said := by
  rcases h with rfl | ⟨message, rfl, -⟩
  · exact .nothing
  · exact .one

/-- Every heartbeat is acknowledged but one that is refused: that one is the last to be heard, and it
is not acknowledged. -/
def Acknowledged (heard acked : List HeartbeatMessage) (Refused : HeartbeatMessage → Prop) : Prop :=
  (acked = heard ∧ ∀ heartbeat, ¬ Refused heartbeat) ∨
    ∃ heartbeat, Refused heartbeat ∧ heard = acked ++ [heartbeat]

/-- What is refused may be told in other words. -/
theorem Acknowledged.congr {heard acked : List HeartbeatMessage}
    {Refused Refused' : HeartbeatMessage → Prop}
    (hrefused : ∀ heartbeat, Refused heartbeat ↔ Refused' heartbeat)
    (h : Acknowledged heard acked Refused) : Acknowledged heard acked Refused' := by
  rcases h with ⟨hall, hnone⟩ | ⟨heartbeat, hlast, hheard⟩
  · exact Or.inl ⟨hall, fun heartbeat ↦ mt (hrefused heartbeat).2 (hnone heartbeat)⟩
  · exact Or.inr ⟨heartbeat, (hrefused heartbeat).1 hlast, hheard⟩

/-- What came before has been acknowledged. -/
theorem Acknowledged.append {heard acked : List HeartbeatMessage} {Refused : HeartbeatMessage → Prop}
    (before : List HeartbeatMessage) (h : Acknowledged heard acked Refused) :
    Acknowledged (before ++ heard) (before ++ acked) Refused := by
  rcases h with ⟨rfl, hnone⟩ | ⟨heartbeat, hlast, rfl⟩
  · exact Or.inl ⟨rfl, hnone⟩
  · exact Or.inr ⟨heartbeat, hlast, (List.append_assoc _ _ _).symm⟩

/-- A round reads this heartbeat, the callback refuses its `KeepAlive`, and what the round ends with is
that refusal. -/
structure RefusesKeepAlive (format : WireFormat) (input : RoundInput) (session : ReceiverSession)
    (result : Except TransportError Unit) (heartbeat : HeartbeatMessage) : Prop where
  running : input.stopRequested = false
  read : ∃ frame rest, readFrame session.reader = (.ok frame, rest) ∧
    frame.heartbeat? format = some heartbeat
  refusal : ∃ error, input.onEvent = .error error ∧
    result = .error (.receiverCallback error.display)

/-- What a round of the streaming loop says. -/
inductive RoundSays (format : WireFormat) (input : RoundInput) (session : ReceiverSession) :
    LoopStep ReceiverSession SessionEnd → Prop
  | again {next : ReceiverSession} {frames : List Frame}
      (received : next.received = session.received ++ frames)
      (wrote : Wrote session.writer next.writer
        (receiverFrames format ((heartbeatsOf format frames).map .heartbeatAck)) True)
      (encodes : ∀ heartbeat ∈ heartbeatsOf format frames,
        (ReceiverMessage.frame? format (.heartbeatAck heartbeat)).isSome = true) :
      RoundSays format input session (.again next)
  | done {result : Except TransportError Unit} {final : ReceiverSession} {frames : List Frame}
      {acked : List HeartbeatMessage} {farewell : List ReceiverMessage}
      (received : final.received = session.received ++ frames)
      (wrote : Wrote session.writer final.writer
        (receiverFrames format (acked.map .heartbeatAck ++ farewell)) False)
      (acknowledged : Acknowledged (heartbeatsOf format frames) acked
        (RefusesKeepAlive format input session result))
      (last : Farewell farewell)
      (unbroken : Unbroken format (acked.map .heartbeatAck ++ farewell)) :
      RoundSays format input session (.done (result, final))

section Rounds

variable {format : WireFormat} {input : RoundInput} {session : ReceiverSession} {frame : Frame}
  {rest : Reader}

/-- The session when a frame has been decoded. -/
def ReceiverSession.decoded (rest : Reader) (frame : Frame) (session : ReceiverSession) :
    ReceiverSession :=
  { session with reader := rest, received := session.received ++ [frame] }

/-- A frame that is no heartbeat carries none. -/
theorem heartbeat?_of_kind (hkind : frame.kind ≠ .heartbeat) : frame.heartbeat? format = none :=
  if_neg hkind

/-- A frame that carries no heartbeat adds none to those that are heard. -/
theorem heartbeatsOf_singleton (hnone : frame.heartbeat? format = none) :
    heartbeatsOf format [frame] = [] :=
  List.filterMap_cons_none hnone

/-- Nothing is refused in a round that reads no heartbeat. -/
theorem not_refusesKeepAlive {result : Except TransportError Unit}
    (hread : readFrame session.reader = (.ok frame, rest)) (hnone : frame.heartbeat? format = none)
    (heartbeat : HeartbeatMessage) : ¬ RefusesKeepAlive format input session result heartbeat := by
  rintro ⟨-, ⟨other, rest', hother, hsome⟩, -⟩
  rw [hread] at hother
  obtain rfl := Except.ok.inj (Prod.mk.inj hother).1
  rw [hnone] at hsome
  cases hsome

/-- A round ends with nothing said about a frame that is no heartbeat. -/
theorem RoundSays.quiet {result : Except TransportError Unit} {final : ReceiverSession}
    (hread : readFrame session.reader = (.ok frame, rest)) (hnone : frame.heartbeat? format = none)
    (hreceived : final.received = session.received ++ [frame])
    (hwriter : final.writer = session.writer) :
    RoundSays format input session (.done (result, final)) := by
  refine @RoundSays.done _ _ _ _ _ [frame] [] [] hreceived ?_
    (Or.inl ⟨(heartbeatsOf_singleton hnone).symm, not_refusesKeepAlive hread hnone⟩) (Or.inl rfl)
    .nothing
  rw [hwriter]
  exact .nothing session.writer

/-- A round goes on with nothing said about a frame that is no heartbeat. -/
theorem RoundSays.on {next : ReceiverSession} (hnone : frame.heartbeat? format = none)
    (hreceived : next.received = session.received ++ [frame])
    (hwriter : next.writer = session.writer) : RoundSays format input session (.again next) := by
  have hquiet := heartbeatsOf_singleton hnone
  refine @RoundSays.again _ _ _ _ [frame] hreceived ?_ fun heartbeat hmem ↦ ?_
  · rw [hwriter, hquiet]
    exact .nothing session.writer
  · rw [hquiet] at hmem
    exact absurd hmem List.not_mem_nil

/-- An audio frame is not answered. -/
theorem says_handleAudio (hread : readFrame session.reader = (.ok frame, rest))
    (hkind : frame.kind = .audio) :
    RoundSays format input session (handleAudio format input frame (session.decoded rest frame)) := by
  have hnone := @heartbeat?_of_kind format frame (by rw [hkind]; exact FrameKind.noConfusion)
  rw [handleAudio]
  rcases decodeMetadata format.audio frame with error | metadata
  · exact .quiet hread hnone rfl rfl
  rcases hanswer : input.onEvent with error | ⟨⟩
  · exact .quiet hread hnone rfl rfl
  · exact .on hnone rfl rfl

/-- **A heartbeat is answered with its own nonce**, unless the callback refuses it: then the round ends
with the refusal. -/
theorem says_handleHeartbeat (hstop : input.stopRequested = false)
    (hread : readFrame session.reader = (.ok frame, rest)) (hkind : frame.kind = .heartbeat) :
    RoundSays format input session
      (handleHeartbeat format input frame (session.decoded rest frame)) := by
  rw [handleHeartbeat]
  rcases hdecode : decodeMetadata format.heartbeat frame with error | heartbeat
  · refine .quiet hread ?_ rfl rfl
    rw [Frame.heartbeat?, if_pos hkind, hdecode]
    rfl
  have hsome : frame.heartbeat? format = some heartbeat := by
    rw [Frame.heartbeat?, if_pos hkind, hdecode]
    rfl
  have hheard : heartbeatsOf format [frame] = [heartbeat] := List.filterMap_cons_some hsome
  dsimp only
  -- the callback comes before the acknowledgement: a refused heartbeat is not acknowledged
  rcases hanswer : input.onEvent with error | ⟨⟩
  · refine @RoundSays.done _ _ _ _ _ [frame] [] [] rfl (.nothing session.writer) ?_ (Or.inl rfl)
      .nothing
    exact Or.inr ⟨heartbeat, ⟨hstop, ⟨frame, rest, hread, hsome⟩, error, hanswer, rfl⟩, hheard⟩
  have hnone {result : Except TransportError Unit} (heartbeat : HeartbeatMessage) :
      ¬ RefusesKeepAlive format input session result heartbeat := by
    rintro ⟨-, -, error, hrefusal, -⟩
    rw [hanswer] at hrefusal
    cases hrefusal
  obtain ⟨hwrote, hencodes⟩ :=
    wrote_writeMessage format.heartbeat .heartbeatAck heartbeat [] session.writer
  rw [show (format.heartbeat.frame? .heartbeatAck heartbeat []).toList = _ from
    (receiverFrames_singleton format (.heartbeatAck heartbeat)).symm] at hwrote
  rcases hwrite : writeMessage format.heartbeat .heartbeatAck heartbeat [] session.writer with
    ⟨error | size, writer⟩
  · rw [hwrite] at hwrote
    simp only [ReceiverSession.emit, ReceiverSession.send, ReceiverSession.decoded, hwrite]
    refine @RoundSays.done _ _ _ _ _ [frame] [heartbeat] [] rfl ?_ (Or.inl ⟨hheard.symm, hnone⟩)
      (Or.inl rfl) .one
    exact hwrote.imp False.elim
  · rw [hwrite] at hwrote
    simp only [ReceiverSession.emit, ReceiverSession.send, ReceiverSession.decoded, hwrite]
    refine @RoundSays.again _ _ _ _ [frame] rfl ?_ fun acked hmem ↦ ?_
    · rw [hheard]
      exact hwrote.imp fun _ ↦ rfl
    · rw [hheard] at hmem
      obtain rfl := List.mem_singleton.1 hmem
      exact hencodes (congrArg (fun answer ↦ answer.1.isOk) hwrite)

/-- A stop ends the session without an answer. -/
theorem says_handleStop (hread : readFrame session.reader = (.ok frame, rest))
    (hkind : frame.kind = .stop) :
    RoundSays format input session (handleStop format input frame (session.decoded rest frame)) := by
  have hnone := @heartbeat?_of_kind format frame (by rw [hkind]; exact FrameKind.noConfusion)
  rw [handleStop]
  rcases decodeMetadata format.stop frame with error | stop
  · exact .quiet hread hnone rfl rfl
  rcases hanswer : input.onEvent with error | ⟨⟩
  · exact .quiet hread hnone rfl rfl
  · exact .quiet hread hnone rfl rfl

/-- So does an error frame. -/
theorem says_handleError (hread : readFrame session.reader = (.ok frame, rest))
    (hkind : frame.kind = .error) :
    RoundSays format input session (handleError format input frame (session.decoded rest frame)) := by
  have hnone := @heartbeat?_of_kind format frame (by rw [hkind]; exact FrameKind.noConfusion)
  rw [handleError]
  rcases decodeMetadata format.error frame with error | error
  · exact .quiet hread hnone rfl rfl
  rcases hanswer : input.onEvent with error | ⟨⟩
  · exact .quiet hread hnone rfl rfl
  · exact .quiet hread hnone rfl rfl

/-- An error frame is the last thing a receiver says. -/
theorem wrote_sendProtocolError (format : WireFormat) (code message : String)
    (session : ReceiverSession) :
    Wrote session.writer (session.sendProtocolError format code message).2.writer
        (receiverFrames format [.error ⟨code, message⟩]) False ∧
      (session.sendProtocolError format code message).2.received = session.received := by
  obtain ⟨hwrote, -⟩ := wrote_writeMessage format.error .error ⟨code, message⟩ [] session.writer
  rw [receiverFrames_singleton]
  exact ⟨hwrote.imp False.elim, rfl⟩

/-- A frame that should not come is answered with an error. -/
theorem says_handleUnexpected (hread : readFrame session.reader = (.ok frame, rest))
    (hkind : frame.kind ≠ .heartbeat) :
    RoundSays format input session (handleUnexpected format frame (session.decoded rest frame)) := by
  rw [handleUnexpected]
  obtain ⟨hwrote, hreceived⟩ := wrote_sendProtocolError format "unexpected-frame"
    ("receiver does not accept " ++ frame.kind.debug ++ " during active streaming")
    (session.decoded rest frame)
  have hnone := @heartbeat?_of_kind format frame hkind
  have hquiet := heartbeatsOf_singleton hnone
  split
  next error final hsend =>
    rw [hsend] at hwrote hreceived
    exact @RoundSays.done _ _ _ _ _ [frame] [] [_] hreceived hwrote
      (Or.inl ⟨hquiet.symm, not_refusesKeepAlive hread hnone⟩) (Or.inr ⟨_, rfl, rfl⟩) .one
  next size final hsend =>
    rw [hsend] at hwrote hreceived
    exact @RoundSays.done _ _ _ _ _ [frame] [] [_] hreceived hwrote
      (Or.inl ⟨hquiet.symm, not_refusesKeepAlive hread hnone⟩) (Or.inr ⟨_, rfl, rfl⟩) .one

/-- What a round says that has read a frame, by the kind of the frame. -/
theorem says_handleFrame (hstop : input.stopRequested = false)
    (hread : readFrame session.reader = (.ok frame, rest)) :
    RoundSays format input session (handleFrame format input frame (session.decoded rest frame)) := by
  unfold handleFrame
  split
  next hkind => exact says_handleAudio hread hkind
  next hkind => exact says_handleHeartbeat hstop hread hkind
  next hkind => exact says_handleStop hread hkind
  next hkind => exact says_handleError hread hkind
  next hkind => exact says_handleUnexpected hread (by rw [hkind]; exact FrameKind.noConfusion)
  next hkind => exact says_handleUnexpected hread (by rw [hkind]; exact FrameKind.noConfusion)
  next hkind => exact says_handleUnexpected hread (by rw [hkind]; exact FrameKind.noConfusion)

/-- A round that has read no frame. -/
theorem RoundSays.unread {result : Except TransportError Unit} {final : ReceiverSession}
    {farewell : List ReceiverMessage} (hunread : input.stopRequested = true ∨
      ∃ error rest, readFrame session.reader = (.error error, rest))
    (hreceived : final.received = session.received)
    (hwrote : Wrote session.writer final.writer (receiverFrames format farewell) False)
    (hlast : Farewell farewell) : RoundSays format input session (.done (result, final)) := by
  refine @RoundSays.done _ _ _ _ _ [] [] farewell (hreceived.trans (List.append_nil _).symm) hwrote
    (Or.inl ⟨rfl, ?_⟩) hlast hlast.unbroken
  rintro heartbeat ⟨hrunning, ⟨frame, rest, hread, -⟩, -⟩
  rcases hunread with hstop | ⟨error, rest', herror⟩
  · rw [hrunning] at hstop
    exact Bool.false_ne_true hstop
  · rw [hread] at herror
    cases (Prod.mk.inj herror).1

/-- Nobody is left to answer behind the end of the connection. -/
theorem says_handleDisconnected {error : TransportError}
    (hread : readFrame session.reader = (.error error, rest)) :
    RoundSays format input session (handleDisconnected input { session with reader := rest }) := by
  have hunread : input.stopRequested = true ∨
      ∃ error rest, readFrame session.reader = (.error error, rest) := Or.inr ⟨error, rest, hread⟩
  rw [handleDisconnected]
  rcases input.onEvent with error | ⟨⟩
  · exact @RoundSays.unread _ _ _ _ _ [] hunread rfl (.nothing session.writer) (Or.inl rfl)
  · exact @RoundSays.unread _ _ _ _ _ [] hunread rfl (.nothing session.writer) (Or.inl rfl)

/-- A stream that makes no sense is answered with an error, a timeout not at all. -/
theorem says_handleReadFailure {error : TransportError}
    (hread : readFrame session.reader = (.error error, rest)) : RoundSays format input session
    (handleReadFailure format input error { session with reader := rest }) := by
  let emitted := (({ session with reader := rest } : ReceiverSession).emit input.onEvent
    (.error error.display)).toOption.getD { session with reader := rest }
  have hemitted : emitted.writer = session.writer ∧ emitted.received = session.received := by
    dsimp only [emitted]
    rcases input.onEvent with refusal | ⟨⟩
    · exact ⟨rfl, rfl⟩
    · exact ⟨rfl, rfl⟩
  obtain ⟨hwrote, hsent⟩ := wrote_sendProtocolError format "read-failure" error.display emitted
  rw [hemitted.1] at hwrote
  exact .unread (Or.inr ⟨error, rest, hread⟩) (hsent.trans hemitted.2) hwrote (Or.inr ⟨_, rfl, rfl⟩)

/-- **What a round says.** -/
theorem says_streamingRound (format : WireFormat) (input : RoundInput) (session : ReceiverSession) :
    RoundSays format input session (streamingRound format input session) := by
  rcases hstop : input.stopRequested with - | -
  case true =>
    simp only [streamingRound, hstop, if_true]
    obtain ⟨hwrote, -⟩ := wrote_writeMessage format.stop .stop ⟨"receiver transport stopped"⟩ []
      session.writer
    refine @RoundSays.unread _ _ _ _ _ [.stop ⟨"receiver transport stopped"⟩] (Or.inl hstop) rfl ?_
      (Or.inr ⟨_, rfl, rfl⟩)
    rw [receiverFrames_singleton]
    exact hwrote.imp False.elim
  rcases hread : readFrame session.reader with ⟨error | frame, rest⟩
  · rw [streamingRound_of_error format hstop hread]
    split
    · exact says_handleDisconnected hread
    split
    · exact @RoundSays.again _ _ _ _ [] (List.append_nil _).symm (.nothing session.writer)
        fun heartbeat hmem ↦ absurd hmem List.not_mem_nil
    · exact says_handleReadFailure hread
  · rw [streamingRound_of_frame format hstop hread]
    exact says_handleFrame hstop hread

end Rounds

/-! ### Whole sessions -/

/-- From this round and session on, the streaming loop ends in a round that refuses the heartbeat it
reads, and with that refusal. -/
def EndsByRefusal (format : WireFormat) (inputs : ℕ → RoundInput) (state : ℕ × ReceiverSession)
    (result : Except TransportError Unit) (final : ReceiverSession) (heartbeat : HeartbeatMessage) :
    Prop :=
  ∃ round reached, Loop.Visits (streamingBody format inputs) state (round, reached) ∧
    streamingBody format inputs (round, reached) = .done (result, final) ∧
    RefusesKeepAlive format (inputs round) reached result heartbeat

section Refusals

variable {format : WireFormat} {inputs : ℕ → RoundInput} {state next : ℕ × ReceiverSession}
  {result : Except TransportError Unit} {final : ReceiverSession} {heartbeat : HeartbeatMessage}

/-- The refusing round is the last, so it is not one that goes on. -/
theorem endsByRefusal_of_again (h : streamingBody format inputs state = .again next) :
    EndsByRefusal format inputs next result final heartbeat ↔
      EndsByRefusal format inputs state result final heartbeat := by
  refine ⟨fun ⟨round, reached, hvisits, hlast⟩ ↦
    ⟨round, reached, (Loop.visits_of_again h).2 (Or.inr hvisits), hlast⟩, ?_⟩
  rintro ⟨round, reached, hvisits, hdone, hrefuses⟩
  rcases (Loop.visits_of_again h).1 hvisits with rfl | hlater
  · rw [h] at hdone
    cases hdone
  · exact ⟨round, reached, hlater, hdone, hrefuses⟩

/-- Where the loop ends at once, the refusing round can only be this one. -/
theorem endsByRefusal_of_done (h : streamingBody format inputs state = .done (result, final)) :
    RefusesKeepAlive format (inputs state.1) state.2 result heartbeat ↔
      EndsByRefusal format inputs state result final heartbeat := by
  refine ⟨fun hrefuses ↦ ⟨state.1, state.2, Loop.Visits.refl state, h, hrefuses⟩, ?_⟩
  rintro ⟨round, reached, hvisits, -, hrefuses⟩
  obtain rfl := (Loop.visits_of_done h).1 hvisits
  exact hrefuses

end Refusals

/-- What a receiver session has said from this round on, and which heartbeats it has heard. -/
structure ReceiverSpeech (format : WireFormat) (inputs : ℕ → RoundInput) (round : ℕ)
    (session : ReceiverSession) (result : Except TransportError Unit) (final : ReceiverSession)
    (frames : List Frame) (acked : List HeartbeatMessage) (farewell : List ReceiverMessage) :
    Prop where
  received : final.received = session.received ++ frames
  wrote : Wrote session.writer final.writer
    (receiverFrames format (acked.map .heartbeatAck ++ farewell)) False
  acknowledged : Acknowledged (heartbeatsOf format frames) acked
    (EndsByRefusal format inputs (round, session) result final)
  last : Farewell farewell
  unbroken : Unbroken format (acked.map .heartbeatAck ++ farewell)

/-- **The streaming loop** acknowledges what it hears, but for a heartbeat that is refused in its last
round. -/
theorem speech_of_run {format : WireFormat} {inputs : ℕ → RoundInput} {fuel round : ℕ}
    {session final : ReceiverSession} {result : Except TransportError Unit}
    (hrun : Loop.run (streamingBody format inputs) fuel (round, session) = some (result, final)) :
    ∃ frames acked farewell,
      ReceiverSpeech format inputs round session result final frames acked farewell := by
  induction fuel generalizing round session with
  | zero => cases hrun
  | succ fuel ih =>
    have hsays := says_streamingRound format (inputs round) session
    rcases hbody : streamingBody format inputs (round, session) with ⟨round', next⟩ | ended
    · rw [Loop.run_succ_of_again hbody] at hrun
      rw [(streamingBody_again hbody).2] at hsays
      cases hsays with
      | @again _ frames received wrote encodes =>
        obtain ⟨later, acked, farewell, hlater⟩ := ih hrun
        refine ⟨frames ++ later, heartbeatsOf format frames ++ acked, farewell, ?_, ?_, ?_,
          hlater.last, ?_⟩
        · rw [hlater.received, received, List.append_assoc]
        · have htwo := wrote.trans hlater.wrote
          rwa [← receiverFrames_append, ← List.append_assoc, ← List.map_append] at htwo
        · rw [show heartbeatsOf format (frames ++ later) = _ from List.filterMap_append]
          exact (hlater.acknowledged.append _).congr fun _ ↦ endsByRefusal_of_again hbody
        · rw [List.map_append, List.append_assoc]
          refine hlater.unbroken.append fun message hmem ↦ ?_
          obtain ⟨heartbeat, hheard, rfl⟩ := List.mem_map.1 hmem
          exact encodes heartbeat hheard
    · rw [Loop.run_succ_of_done hbody] at hrun
      obtain rfl := Option.some.inj hrun
      rw [streamingBody_done hbody] at hsays
      cases hsays with
      | @done _ _ frames acked farewell received wrote acknowledged last unbroken =>
        exact ⟨frames, acked, farewell, received, wrote,
          acknowledged.congr fun _ ↦ endsByRefusal_of_done hbody, last, unbroken⟩

/-- What the handshake says: an `Accept`, or nothing, or an error about a first frame that is no
`Hello`. -/
inductive HandshakeSays (format : WireFormat) (args : SessionArgs) (reader : Reader)
    (writer : Writer) : Except TransportError Unit × ReceiverSession → Prop
  | accepted {session : ReceiverSession} {hello : HelloMessage} (received : session.received = [])
      (wrote : Wrote writer session.writer
        (receiverFrames format [.accept (acceptFor args hello)]) True)
      (encodes : (ReceiverMessage.frame? format (.accept (acceptFor args hello))).isSome = true) :
      HandshakeSays format args reader writer (.ok (), session)
  /-- The `Accept` went out, or not in full, and the session ends. -/
  | abandoned {session : ReceiverSession} {error : TransportError} {hello : HelloMessage}
      (received : session.received = [])
      (wrote : Wrote writer session.writer
        (receiverFrames format [.accept (acceptFor args hello)]) False) :
      HandshakeSays format args reader writer (.error error, session)
  | silent {session : ReceiverSession} {error : TransportError} (received : session.received = [])
      (wrote : Wrote writer session.writer [] False) :
      HandshakeSays format args reader writer (.error error, session)
  | unexpected {session : ReceiverSession} {error : TransportError} {frame : Frame} {rest : Reader}
      {message : ErrorMessage} (received : session.received = [])
      (wrote : Wrote writer session.writer (receiverFrames format [.error message]) False)
      (read : readFrame reader = (.ok frame, rest)) (kind : frame.kind ≠ .hello) :
      HandshakeSays format args reader writer (.error error, session)

/-- The handshake says one `Accept`, or gives up with an error at most. -/
theorem says_handshake (format : WireFormat) (args : SessionArgs) (setup : SessionSetup)
    (reader : Reader) (writer : Writer) :
    HandshakeSays format args reader writer (handshake format args setup { reader, writer }) := by
  unfold handshake
  split
  · exact .silent rfl (.nothing writer)
  split
  · exact .silent rfl (.nothing writer)
  split
  · exact .silent rfl (.nothing writer)
  next frame rest hread =>
  dsimp only
  split
  next hkind =>
    -- the refusal is written before the session fails, whether or not the write succeeds
    obtain ⟨hwrote, hreceived⟩ := wrote_sendProtocolError format "unexpected-frame"
      "first frame must be Hello" { reader := rest, writer }
    split
    next error session hsend =>
      rw [hsend] at hwrote hreceived
      exact .unexpected hreceived hwrote hread hkind
    next size session hsend =>
      rw [hsend] at hwrote hreceived
      exact .unexpected hreceived hwrote hread hkind
  split
  · exact .silent rfl (.nothing writer)
  next hello hdecode =>
  split
  · exact .silent rfl (.nothing writer)
  obtain ⟨hwrote, hencodes⟩ :=
    wrote_writeMessage format.accept .accept (acceptFor args hello) [] writer
  rw [show (format.accept.frame? .accept (acceptFor args hello) []).toList = _ from
    (receiverFrames_singleton format (.accept (acceptFor args hello))).symm] at hwrote
  rcases hwrite : writeMessage format.accept .accept (acceptFor args hello) [] writer with
    ⟨error | size, socket⟩
  · rw [hwrite] at hwrote
    simp only [ReceiverSession.send, hwrite]
    exact .abandoned rfl (hwrote.imp False.elim)
  · rw [hwrite] at hwrote
    simp only [ReceiverSession.send, hwrite]
    rcases setup.onConnected with error | ⟨⟩
    · exact .abandoned rfl (hwrote.imp False.elim)
    · exact .accepted rfl (hwrote.imp fun _ ↦ rfl)
        (hencodes (congrArg (fun answer ↦ answer.1.isOk) hwrite))

/-- The handshake succeeds, and the streaming loop behind it ends in a round that refuses this
heartbeat, and with that refusal. -/
def SessionEndsByRefusal (format : WireFormat) (args : SessionArgs) (setup : SessionSetup)
    (inputs : ℕ → RoundInput) (reader : Reader) (writer : Writer)
    (result : Except TransportError Unit) (final : ReceiverSession) (heartbeat : HeartbeatMessage) :
    Prop :=
  ∃ started, handshake format args setup { reader, writer } = (.ok (), started) ∧
    EndsByRefusal format inputs (0, started) result final heartbeat

/-- **What a receiver session has said when it ends**, and which heartbeats it has heard. -/
theorem receiver_speech {format : WireFormat} {args : SessionArgs} {setup : SessionSetup}
    {inputs : ℕ → RoundInput} {reader : Reader} {writer : Writer}
    {result : Except TransportError Unit} {final : ReceiverSession}
    (hrun : handleReceiverSession format args setup inputs reader writer = some (result, final)) :
    ∃ accepts acked farewell,
      Wrote writer final.writer
        (receiverFrames format (accepts ++ (acked.map .heartbeatAck ++ farewell))) False ∧
      Unbroken format (accepts ++ (acked.map .heartbeatAck ++ farewell)) ∧
      Acknowledged (heartbeatsOf format final.received) acked
        (SessionEndsByRefusal format args setup inputs reader writer result final) ∧
      Farewell farewell ∧
      ((∃ hello, accepts = [.accept (acceptFor args hello)]) ∨
        accepts = [] ∧ final.received = [] ∧ acked = [] ∧
          (farewell = [] ∨ ∃ frame rest, readFrame reader = (.ok frame, rest) ∧
            frame.kind ≠ .hello)) := by
  have hsays := says_handshake format args setup reader writer
  rw [handleReceiverSession] at hrun
  rcases hshake : handshake format args setup { reader, writer } with ⟨error | ⟨⟩, session⟩
  · rw [hshake] at hrun hsays
    -- a handshake that fails ends the session: nothing is decoded after it
    obtain ⟨rfl, rfl⟩ := Prod.mk.inj (Option.some.inj hrun)
    have hnothing (received : session.received = []) :
        Acknowledged (heartbeatsOf format session.received) []
          (SessionEndsByRefusal format args setup inputs reader writer (.error error) session) := by
      refine Or.inl ⟨by rw [received]; rfl, ?_⟩
      rintro heartbeat ⟨started, hstarted, -⟩
      rw [hshake] at hstarted
      cases (Prod.mk.inj hstarted).1
    cases hsays with
    | @abandoned _ _ hello received wrote =>
      exact ⟨[.accept (acceptFor args hello)], [], [], wrote, .one, hnothing received, Or.inl rfl,
        Or.inl ⟨hello, rfl⟩⟩
    | silent received wrote =>
      exact ⟨[], [], [], wrote, .nothing, hnothing received, Or.inl rfl,
        Or.inr ⟨rfl, received, rfl, Or.inl rfl⟩⟩
    | @unexpected _ _ frame rest message received wrote read kind =>
      exact ⟨[], [], [.error message], wrote, .one, hnothing received, Or.inr ⟨_, rfl, rfl⟩,
        Or.inr ⟨rfl, received, rfl, Or.inr ⟨frame, rest, read, kind⟩⟩⟩
  · rw [hshake] at hrun hsays
    cases hsays with
    | @accepted _ hello received wrote encodes =>
      obtain ⟨frames, acked, farewell, hspeech⟩ := speech_of_run hrun
      refine ⟨[.accept (acceptFor args hello)], acked, farewell, ?_, ?_, ?_, hspeech.last,
        Or.inl ⟨hello, rfl⟩⟩
      · rw [receiverFrames_append]
        exact wrote.trans hspeech.wrote
      · refine hspeech.unbroken.append fun message hmem ↦ ?_
        rw [List.mem_singleton.1 hmem]
        exact encodes
      · rw [hspeech.received, received, List.nil_append]
        refine hspeech.acknowledged.congr fun heartbeat ↦
          ⟨fun hends ↦ ⟨session, hshake, hends⟩, ?_⟩
        rintro ⟨started, hstarted, hends⟩
        obtain rfl := (Prod.mk.inj (hshake.symm.trans hstarted)).2
        exact hends

end SynchroSonic
