import SynchroSonic.Machine.Loop
import SynchroSonic.Transport.Messages

/-!
# The receiver's side of a session

`handle_receiver_session`: the handshake, and the streaming loop that turns frames into transport
events. The surroundings of the function are explicit. The socket is a `Reader` and a `Writer`; what
`stop_rx.try_recv()` and the event callback answer in each round of the loop is a `RoundInput`; the
calls made before the loop have their answers in a `SessionSetup`.

One round of the loop is `streamingRound`. A round either goes on or leaves the function, and it
leaves it in two ways that differ in what they tidy up: `leave` is a `break`, `fail` an early return.

Three fields of `ReceiverSession` only record what the function did: the events the callback took,
the frames the loop decoded, and the sequence gaps it warned about.
-/

namespace SynchroSonic

/-- `ReceiverServerSnapshot`, as far as a session writes it. -/
structure ReceiverServerSnapshot where
  sessionId : Option String := none
  connectedPeer : Option SocketAddr := none
  lastError : Option String := none
  deriving DecidableEq, Repr

/-- The warning about missing sequence numbers. -/
structure SequenceGap where
  previousSequence : UInt64
  currentSequence : UInt64
  missingPackets : UInt64
  deriving DecidableEq, Repr

/-- The arguments of `handle_receiver_session` that stay the same during a session. -/
structure SessionArgs where
  peerAddr : SocketAddr
  receiverName : String
  latencyPreset : ReceiverLatencyPreset
  heartbeatIntervalMs : UInt16

/-- The answers to the calls made before the streaming loop: two socket options, and the callback
for `Connected`. -/
structure SessionSetup where
  setNodelay : Except IoError Unit
  setReadTimeout : Except IoError Unit
  onConnected : Except ReceiverError Unit

/-- The answers in one round of the loop: whether `stop_rx` asks for a stop, and what the callback
says to the event of the round, if there is one. -/
structure RoundInput where
  stopRequested : Bool
  onEvent : Except ReceiverError Unit

/-- A session in progress. -/
structure ReceiverSession where
  reader : Reader
  writer : Writer
  snapshot : ReceiverServerSnapshot := {}
  lastSequence : Option UInt64 := none
  /-- The events the callback took, oldest first. -/
  emitted : List ReceiverTransportEvent := []
  /-- The frames the streaming loop decoded, oldest first. -/
  received : List Frame := []
  /-- The sequence gaps warned about, oldest first. -/
  gaps : List SequenceGap := []

/-- How `handle_receiver_session` ends. -/
abbrev SessionEnd := Except TransportError Unit × ReceiverSession

namespace ReceiverSession

/-- Hand an event to the callback, which answers `answer`. -/
def emit (answer : Except ReceiverError Unit) (event : ReceiverTransportEvent)
    (session : ReceiverSession) : Except TransportError ReceiverSession :=
  match answer with
  | .ok () => .ok { session with emitted := session.emitted ++ [event] }
  | .error error => .error (.receiverCallback error.display)

/-- Write a message; the session carries the socket on, whatever the outcome. -/
def send {T : Type} (json : SerdeJson T) (kind : FrameKind) (message : T)
    (session : ReceiverSession) : Except TransportError ℕ × ReceiverSession :=
  match writeMessage json kind message [] session.writer with
  | (result, writer) => (result, { session with writer })

/-- `send_protocol_error`. -/
def sendProtocolError (format : WireFormat) (code message : String) (session : ReceiverSession) :
    Except TransportError ℕ × ReceiverSession :=
  session.send format.error .error ⟨code, message⟩

/-- Leave the streaming loop by `break`: the snapshot forgets the session. -/
def leave (session : ReceiverSession) : LoopStep ReceiverSession SessionEnd :=
  .done (.ok (), { session with
    snapshot := { session.snapshot with sessionId := none, connectedPeer := none } })

/-- Leave the function by an early return. -/
def fail (error : TransportError) (session : ReceiverSession) :
    LoopStep ReceiverSession SessionEnd :=
  .done (.error error, session)

end ReceiverSession

/-! ### The handshake -/

/-- `validate_hello`. -/
def validateHello (hello : HelloMessage) : Except TransportError Unit :=
  if hello.protocolVersion ≠ STREAM_PROTOCOL_VERSION then
    .error (.negotiation
      ("protocol version " ++ toString hello.protocolVersion ++ " is unsupported"))
  else if !hello.supportedCodecs.contains hello.desiredCodec then
    .error (.negotiation "sender requested a codec it did not advertise")
  else if hello.desiredCodec ≠ .rawPcm then
    .error (.negotiation "receiver currently only supports raw PCM")
  else .ok ()

/-- The `Accept` a validated `Hello` is answered with. -/
def acceptFor (args : SessionArgs) (hello : HelloMessage) : AcceptMessage where
  protocolVersion := hello.protocolVersion
  sessionId := hello.sessionId
  receiverName := args.receiverName
  codec := hello.desiredCodec
  stream := hello.stream
  keepaliveIntervalMs := min args.heartbeatIntervalMs (max hello.keepaliveIntervalMs 250)
  receiverLatencyMs := args.latencyPreset.profile.expectedOutputLatencyMs

/-- The connection a validated `Hello` announces to the runtime. -/
def connectionFor (args : SessionArgs) (hello : HelloMessage) : ReceiverConnectionInfo where
  sessionId := hello.sessionId
  remoteAddr := some args.peerAddr
  stream := hello.stream
  requestedLatencyMs := hello.targetLatencyMs

/-- `handle_receiver_session` up to the streaming loop. -/
def handshake (format : WireFormat) (args : SessionArgs) (setup : SessionSetup)
    (session : ReceiverSession) : Except TransportError Unit × ReceiverSession :=
  match setup.setNodelay with
  | .error source =>
    (.error (.io ("enabling TCP_NODELAY for sender " ++ args.peerAddr.display) source), session)
  | .ok () =>
  match setup.setReadTimeout with
  | .error source =>
    (.error (.io ("setting read timeout for sender " ++ args.peerAddr.display) source), session)
  | .ok () =>
  match readFrame session.reader with
  | (.error error, reader) => (.error error, { session with reader })
  | (.ok frame, reader) =>
  let session := { session with reader }
  if frame.kind ≠ .hello then
    match session.sendProtocolError format "unexpected-frame" "first frame must be Hello" with
    | (.error error, session) => (.error error, session)
    | (.ok _, session) =>
      (.error (.invalidProtocol "receiver expected Hello as the first frame"), session)
  else
  match decodeMetadata format.hello frame with
  | .error error => (.error error, session)
  | .ok hello =>
  match validateHello hello with
  | .error error => (.error error, session)
  | .ok () =>
  match session.send format.accept .accept (acceptFor args hello) with
  | (.error error, session) => (.error error, session)
  | (.ok _, session) =>
  match session.emit setup.onConnected (.connected (connectionFor args hello)) with
  | .error error => (.error error, session)
  | .ok session =>
    (.ok (), { session with
      snapshot := ⟨some hello.sessionId, some args.peerAddr, none⟩ })

/-! ### The streaming loop -/

/-- The gap check on sequence numbers, in 64-bit arithmetic that wraps. -/
def sequenceGap (previous : Option UInt64) (current : UInt64) : List SequenceGap :=
  match previous with
  | none => []
  | some previous =>
    if current > previous + 1 then [⟨previous, current, current - previous - 1⟩] else []

/-- An `Audio` frame: check the sequence number and hand the packet on. -/
def handleAudio (format : WireFormat) (input : RoundInput) (frame : Frame)
    (session : ReceiverSession) : LoopStep ReceiverSession SessionEnd :=
  match decodeMetadata format.audio frame with
  | .error error => session.fail error
  | .ok metadata =>
    let session := { session with
      gaps := session.gaps ++ sequenceGap session.lastSequence metadata.sequence
      lastSequence := some metadata.sequence }
    match session.emit input.onEvent (.audioPacket
        ⟨metadata.sequence, metadata.capturedAtMs, metadata.capturedAtUnixMs, frame.payload⟩) with
    | .error error => session.fail error
    | .ok session => .again session

/-- A `Heartbeat` frame: report it and acknowledge it. -/
def handleHeartbeat (format : WireFormat) (input : RoundInput) (frame : Frame)
    (session : ReceiverSession) : LoopStep ReceiverSession SessionEnd :=
  match decodeMetadata format.heartbeat frame with
  | .error error => session.fail error
  | .ok heartbeat =>
    match session.emit input.onEvent .keepAlive with
    | .error error => session.fail error
    | .ok session =>
      match session.send format.heartbeat .heartbeatAck heartbeat with
      | (.error error, session) => session.fail error
      | (.ok _, session) => .again session

/-- A `Stop` frame. -/
def handleStop (format : WireFormat) (input : RoundInput) (frame : Frame)
    (session : ReceiverSession) : LoopStep ReceiverSession SessionEnd :=
  match decodeMetadata format.stop frame with
  | .error error => session.fail error
  | .ok stop =>
    match session.emit input.onEvent (.disconnected stop.reason false) with
    | .error error => session.fail error
    | .ok session => session.leave

/-- An `Error` frame. -/
def handleError (format : WireFormat) (input : RoundInput) (frame : Frame)
    (session : ReceiverSession) : LoopStep ReceiverSession SessionEnd :=
  match decodeMetadata format.error frame with
  | .error error => session.fail error
  | .ok error =>
    match session.emit input.onEvent
        (.error ("sender reported " ++ error.code ++ ": " ++ error.message)) with
    | .error error => session.fail error
    | .ok session => session.leave

/-- A frame that has no place in a running stream. -/
def handleUnexpected (format : WireFormat) (frame : Frame) (session : ReceiverSession) :
    LoopStep ReceiverSession SessionEnd :=
  match session.sendProtocolError format "unexpected-frame"
      ("receiver does not accept " ++ frame.kind.debug ++ " during active streaming") with
  | (.error error, session) => session.fail error
  | (.ok _, session) =>
    session.fail (.invalidProtocol
      ("unexpected " ++ frame.kind.debug ++ " frame during active streaming"))

/-- The dispatch on the kind of a decoded frame. -/
def handleFrame (format : WireFormat) (input : RoundInput) (frame : Frame)
    (session : ReceiverSession) : LoopStep ReceiverSession SessionEnd :=
  match frame.kind with
  | .audio => handleAudio format input frame session
  | .heartbeat => handleHeartbeat format input frame session
  | .stop => handleStop format input frame session
  | .error => handleError format input frame session
  | .hello | .accept | .heartbeatAck => handleUnexpected format frame session

/-- The peer is gone. -/
def handleDisconnected (input : RoundInput) (session : ReceiverSession) :
    LoopStep ReceiverSession SessionEnd :=
  match session.emit input.onEvent (.disconnected "sender disconnected unexpectedly" true) with
  | .error error => session.fail error
  | .ok session => session.leave

/-- Any other failure to read a frame. Neither the callback's answer nor the outcome of the error
frame is looked at. -/
def handleReadFailure (format : WireFormat) (input : RoundInput) (error : TransportError)
    (session : ReceiverSession) : LoopStep ReceiverSession SessionEnd :=
  let session := (session.emit input.onEvent (.error error.display)).toOption.getD session
  ((session.sendProtocolError format "read-failure" error.display).2).fail error

/-- One round of the streaming loop. A read timeout goes round again, with whatever the read left of
the stream. -/
def streamingRound (format : WireFormat) (input : RoundInput) (session : ReceiverSession) :
    LoopStep ReceiverSession SessionEnd :=
  if input.stopRequested then
    (session.send format.stop .stop ⟨"receiver transport stopped"⟩).2.leave
  else
    match readFrame session.reader with
    | (.ok frame, reader) =>
      handleFrame format input frame
        { session with reader, received := session.received ++ [frame] }
    | (.error error, reader) =>
      match error with
      | .io _ source =>
        if source.isDisconnect then handleDisconnected input { session with reader }
        -- what a timeout inside a frame has read is gone
        else if source.isTimeout then .again { session with reader }
        else handleReadFailure format input error { session with reader }
      | _ => handleReadFailure format input error { session with reader }

/-- The streaming loop's body, over the number of the round and the session. -/
def streamingBody (format : WireFormat) (inputs : ℕ → RoundInput) :
    ℕ × ReceiverSession → LoopStep (ℕ × ReceiverSession) SessionEnd :=
  fun (round, session) ↦
    match streamingRound format (inputs round) session with
    | .again session => .again (round + 1, session)
    | .done result => .done result

/-- The streaming loop. Every round that goes on consumes something of the stream, so the length of
the stream bounds the number of rounds (`streamingLoop_isSome`). -/
def streamingLoop (format : WireFormat) (inputs : ℕ → RoundInput) (session : ReceiverSession) :
    Option SessionEnd :=
  Loop.run (streamingBody format inputs) (session.reader.items.length + 1) (0, session)

/-- `handle_receiver_session`. -/
def handleReceiverSession (format : WireFormat) (args : SessionArgs) (setup : SessionSetup)
    (inputs : ℕ → RoundInput) (reader : Reader) (writer : Writer) : Option SessionEnd :=
  match handshake format args setup { reader, writer } with
  | (.error error, session) => some (.error error, session)
  | (.ok (), session) => streamingLoop format inputs session

/-! ### A concrete session

One sender and one receiver, with the JSON text of each message they exchange. -/

namespace Sample

def hello : HelloMessage := HelloMessage.new "session-1" "sender" {} .balanced 50 1000

def args : SessionArgs := ⟨⟨.v4 0x7f000001, 51700⟩, "receiver", .balanced, 1000⟩

def setup : SessionSetup := ⟨.ok (), .ok (), .ok ()⟩

def streamJson : List String :=
  ["\"stream\":\x7b\"sample_rate_hz\":48000,", "\"channels\":2,", "\"sample_format\":\"S16Le\",",
    "\"frames_per_packet\":480\x7d,"]

def helloJson : List String :=
  ["\x7b\"protocol_version\":1,", "\"session_id\":\"session-1\",", "\"sender_name\":\"sender\",",
    "\"supported_codecs\":[\"RawPcm\"],", "\"desired_codec\":\"RawPcm\","] ++ streamJson ++
  ["\"quality\":\"Balanced\",", "\"target_latency_ms\":50,", "\"keepalive_interval_ms\":1000\x7d"]

def acceptJson : List String :=
  ["\x7b\"protocol_version\":1,", "\"session_id\":\"session-1\",", "\"receiver_name\":\"receiver\",",
    "\"codec\":\"RawPcm\","] ++ streamJson ++
  ["\"keepalive_interval_ms\":1000,", "\"receiver_latency_ms\":150\x7d"]

def audioJson : List String :=
  ["\x7b\"sequence\":0,", "\"captured_at_ms\":10,", "\"captured_at_unix_ms\":20\x7d"]

def heartbeatJson : List String := ["\x7b\"nonce\":1\x7d"]

def stopJson : List String := ["\x7b\"reason\":\"done\"\x7d"]

def errorJson : List String := ["\x7b\"code\":\"read-failure\",", "\"message\":\"gone\"\x7d"]

def format : WireFormat where
  hello := .single hello helloJson
  accept := .single (acceptFor args hello) acceptJson
  audio := .single ⟨0, 10, 20⟩ audioJson
  heartbeat := .single ⟨1⟩ heartbeatJson
  stop := .single ⟨"done"⟩ stopJson
  error := .single ⟨"read-failure", "gone"⟩ errorJson

/-- The sender's first frame. -/
def helloFrame : List UInt8 := encodeFrame ⟨.hello, SerdeJson.asciiBytes helloJson, []⟩

/-- Nothing asks for a stop and the callback takes everything. -/
def calm : ℕ → RoundInput := fun _ ↦ ⟨false, .ok ()⟩

end Sample

end SynchroSonic
