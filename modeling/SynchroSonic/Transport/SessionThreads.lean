import SynchroSonic.Machine.Loop
import SynchroSonic.Transport.TargetSession
import SynchroSonic.Transport.Transcript

/-!
# The threads of a session

Behind an open session stand two threads. `network_writer_loop` takes controls and audio frames and
writes them to the socket; `sender_reader_loop` reads what the receiver answers. `VoicedSession` is a
session together with its writer thread and the channels between them; either may take a step at any
time. The frames the thread takes out of the queue while the session is in the middle of a `push_frame`
wait in `hand`.

`said` and `pushed` only record what has happened: the messages the thread has turned to, and the frames
the queue was given.
-/

namespace SynchroSonic

/-- `NetworkControl`. -/
inductive NetworkControl
  | heartbeat (nonce : ℕ)
  | stop (reason : String)
  | shutdown
  deriving DecidableEq, Repr

/-! ### The writer thread -/

/-- What the writer thread says to the receiver. -/
inductive SenderMessage
  | audio (frame : FanoutAudioFrame)
  | heartbeat (nonce : ℕ)
  | stop (reason : String)
  deriving DecidableEq, Repr

namespace SenderMessage

def audioMessage (frame : FanoutAudioFrame) : AudioMessage :=
  ⟨.ofNat frame.sequence, .ofNat frame.capturedAtMs, .ofNat frame.capturedAtUnixMs⟩

/-- The call of `write_message`. -/
def write (format : WireFormat) (socket : Writer) :
    SenderMessage → Except TransportError ℕ × Writer
  | .audio frame => writeMessage format.audio .audio (audioMessage frame) frame.payload socket
  | .heartbeat nonce => writeMessage format.heartbeat .heartbeat ⟨.ofNat nonce⟩ [] socket
  | .stop reason => writeMessage format.stop .stop ⟨reason⟩ [] socket

/-- The frame that is written. -/
def frame? (format : WireFormat) : SenderMessage → Option FrameBody
  | .audio frame => format.audio.frame? .audio (audioMessage frame) frame.payload
  | .heartbeat nonce => format.heartbeat.frame? .heartbeat ⟨.ofNat nonce⟩ []
  | .stop reason => format.stop.frame? .stop ⟨reason⟩ []

/-- The report of a message that has been written. -/
def report (wireBytes : ℕ) : SenderMessage → NetworkEvent
  | .audio _ => .audioSent wireBytes
  | .heartbeat _ => .heartbeatSent wireBytes
  | .stop _ => .stopSent wireBytes

def isStop : SenderMessage → Bool
  | .stop _ => true
  | _ => false

/-- The audio frame of a message. -/
def audio? : SenderMessage → Option FanoutAudioFrame
  | .audio frame => some frame
  | _ => none

/-- The nonce of a heartbeat. -/
def nonce? : SenderMessage → Option ℕ
  | .heartbeat nonce => some nonce
  | _ => none

end SenderMessage

/-- Where the writer thread is in its loop. -/
inductive WriterPhase
  /-- It takes the controls there are. -/
  | controls
  /-- It waits for a frame. -/
  | frames
  | ended
  deriving DecidableEq, Repr

/-- The writer thread: its socket, and the reports it has sent. -/
structure NetworkWriter where
  phase : WriterPhase := .controls
  socket : Writer
  events : List NetworkEvent := []

namespace NetworkWriter

/-- Write a message and report it. The thread returns after a `Stop`, after a failure and when nobody
takes its reports. -/
def say (format : WireFormat) (heard : Bool) (message : SenderMessage) (writer : NetworkWriter) :
    NetworkWriter :=
  match message.write format writer.socket with
  | (.ok wireBytes, socket) =>
    { phase := if heard && !message.isStop then .controls else .ended
      socket
      events := if heard then writer.events ++ [message.report wireBytes] else writer.events }
  | (.error error, socket) =>
    { phase := .ended
      socket
      events := if heard then writer.events ++ [.error error.display] else writer.events }

end NetworkWriter

/-! ### A session and its writer thread -/

/-- An open session, its writer thread and the channels between them. -/
structure VoicedSession where
  session : ManagedTargetSession
  writer : NetworkWriter
  /-- The controls on their way, oldest first. -/
  controls : List NetworkControl := []
  /-- The session has been shut down. -/
  closed : Bool := false
  /-- Frames the thread has taken out of the queue and not written yet. -/
  hand : List FanoutAudioFrame := []
  /-- The messages the thread has turned to, oldest first. -/
  said : List SenderMessage := []
  /-- The frames given to the queue, oldest first. -/
  pushed : List FanoutAudioFrame := []

/-- A step of the session or of its writer thread. -/
inductive VoicedInput
  | tick (heartbeatInterval : Duration) (env : TickEnv)
  | pushFrame (env : QueueEnv) (frame : FanoutAudioFrame)
  /-- `shutdown_with_stop`. -/
  | stop (reason : String)
  /-- `shutdown_immediate`, or the session is dropped. -/
  | shutdown
  /-- The thread finds a control. -/
  | control (heard : Bool)
  | noControl
  /-- The thread receives a frame. -/
  | frame (heard : Bool)
  | noFrame
  /-- The queue is gone. -/
  | disconnected

/-- What the consumer takes out of the queue during a `push`. -/
def BufferedBranchQueue.takenInPush {T : Type} (env : QueueEnv) (queue : BufferedBranchQueue T) :
    List T :=
  if env.disconnected then []
  else if queue.items.length < queue.capacity then []
  else queue.items.take env.taken

namespace VoicedSession

/-- The thread takes controls. -/
def listens (voiced : VoicedSession) : Bool := voiced.writer.phase ≠ .ended

/-- The control a tick has sent: `heartbeat_nonce` has moved and the thread takes controls. -/
def heartbeatControl (voiced : VoicedSession) (session : ManagedTargetSession) :
    List NetworkControl :=
  if voiced.listens ∧ voiced.session.heartbeatNonce < session.heartbeatNonce then
    [.heartbeat session.heartbeatNonce]
  else []

/-- The thread says something. -/
def say (format : WireFormat) (heard : Bool) (message : SenderMessage) (voiced : VoicedSession) :
    VoicedSession :=
  { voiced with
    writer := voiced.writer.say format heard message
    said := voiced.said ++ [message] }

def setPhase (phase : WriterPhase) (voiced : VoicedSession) : VoicedSession :=
  { voiced with writer := { voiced.writer with phase } }

/-- The thread takes up a control. -/
def takeUp (format : WireFormat) (heard : Bool) (voiced : VoicedSession) :
    NetworkControl → VoicedSession
  | .heartbeat nonce => voiced.say format heard (.heartbeat nonce)
  | .stop reason => voiced.say format heard (.stop reason)
  | .shutdown => voiced.setPhase .ended

/-- What a tick of the session finds. -/
def tickEnv (voiced : VoicedSession) (env : TickEnv) : TickEnv :=
  { env with
    events := voiced.writer.events
    writerListens := voiced.listens
    consumed := 0 }

/-- One step. -/
def step (format : WireFormat) (voiced : VoicedSession) : VoicedInput → Option VoicedSession
  | .tick heartbeatInterval env =>
    if voiced.closed then none
    else
      let session := (voiced.session.tick heartbeatInterval (voiced.tickEnv env)).2
      some { voiced with
        session
        writer := { voiced.writer with events := [] }
        controls := voiced.controls ++ voiced.heartbeatControl session }
  | .pushFrame env frame =>
    if voiced.closed then none
    else some { voiced with
      session := (voiced.session.pushFrame env frame).2
      hand := voiced.hand ++ voiced.session.networkBranch.takenInPush env
      pushed := voiced.pushed ++ [frame] }
  | .stop reason =>
    if voiced.closed then none
    else some { voiced with
      closed := true
      controls := voiced.controls ++ [.stop reason] }
  | .shutdown =>
    if voiced.closed then none
    else some { voiced with
      closed := true
      controls := voiced.controls ++ [.shutdown] }
  | .control heard =>
    match voiced.controls with
    | control :: controls =>
      if voiced.writer.phase = .controls then
        some ({ voiced with controls }.takeUp format heard control)
      else none
    | [] => none
  | .noControl =>
    if voiced.writer.phase = .controls ∧ voiced.controls.isEmpty then some (voiced.setPhase .frames)
    else none
  | .frame heard =>
    if voiced.writer.phase = .frames then
      match voiced.hand, voiced.session.networkBranch.items with
      | frame :: hand, _ => some ({ voiced with hand }.say format heard (.audio frame))
      | [], frame :: _ =>
        some ({ voiced with session := voiced.session.consume 1 }.say format heard (.audio frame))
      | [], [] => none
    else none
  | .noFrame =>
    if voiced.writer.phase = .frames then some (voiced.setPhase .controls) else none
  | .disconnected =>
    if voiced.writer.phase = .frames then some (voiced.setPhase .ended) else none

end VoicedSession

/-! ### The reader thread -/

/-- The reader thread. -/
structure SenderReader where
  reader : Reader
  /-- The reports it has sent. -/
  inbound : List InboundControl := []
  /-- The frames it has read; only proofs look at that. -/
  received : List Frame := []

namespace SenderReader

/-- Send a last report. -/
def leave (event : InboundControl) (thread : SenderReader) : LoopStep SenderReader SenderReader :=
  .done { thread with inbound := thread.inbound ++ [event] }

/-- Send a report, and go on if somebody takes it. -/
def report (heard : Bool) (event : InboundControl) (thread : SenderReader) :
    LoopStep SenderReader SenderReader :=
  if heard then .again { thread with inbound := thread.inbound ++ [event] }
  else .done thread

/-- A frame whose metadata is a message: report it, or the failure to decode it. -/
def decoded {T : Type} (json : SerdeJson T) (heard : Bool) (frame : Frame)
    (event : T → InboundControl) (thread : SenderReader) : LoopStep SenderReader SenderReader :=
  match decodeMetadata json frame with
  | .error error => thread.leave (.error error.display frame.wireBytes)
  | .ok message => thread.report heard (event message)

/-- One round of `sender_reader_loop`. -/
def round (format : WireFormat) (heard : Bool) (thread : SenderReader) :
    LoopStep SenderReader SenderReader :=
  match readFrame thread.reader with
  | (.ok frame, reader) =>
    let thread := { thread with reader, received := thread.received ++ [frame] }
    match frame.kind with
    | .heartbeatAck => thread.decoded format.heartbeat heard frame fun message ↦
        .heartbeatAck message.nonce.toNat frame.wireBytes
    | .stop => thread.decoded format.stop heard frame fun message ↦
        .stop message.reason frame.wireBytes
    | .error => thread.decoded format.error heard frame fun message ↦
        .error (message.code ++ ": " ++ message.message) frame.wireBytes
    | .hello | .accept | .audio | .heartbeat =>
      thread.report heard
        (.error ("unexpected " ++ frame.kind.debug ++ " frame from receiver") frame.wireBytes)
  | (.error error, reader) =>
    let thread := { thread with reader }
    match error with
    | .io _ source =>
      if source.isDisconnect then thread.leave .disconnected
      else thread.leave (.error error.display 0)
    | _ => thread.leave (.error error.display 0)

/-- The loop's body, over the number of the round. -/
def body (format : WireFormat) (heard : ℕ → Bool) :
    ℕ × SenderReader → LoopStep (ℕ × SenderReader) SenderReader :=
  fun (index, thread) ↦
    match thread.round format (heard index) with
    | .again next => .again (index + 1, next)
    | .done final => .done final

end SenderReader

/-- `sender_reader_loop`. Every round that goes on has read a frame, so the length of the stream bounds
the number of rounds. -/
def senderReaderLoop (format : WireFormat) (heard : ℕ → Bool) (reader : Reader) :
    Option SenderReader :=
  Loop.run (SenderReader.body format heard) (reader.items.length + 1) (0, { reader })

end SynchroSonic
