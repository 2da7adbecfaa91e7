import SynchroSonic.Core.Streaming
import SynchroSonic.Transport.Protocol

/-!
# Messages

The metadata of each kind of frame. How a message becomes JSON and back is the business of the
serialisation library, so it is a parameter: a `WireFormat` is a pair of partial maps for every
message type, and results that need more than that say what they need.
-/

namespace SynchroSonic

/-- `HelloMessage`. -/
structure HelloMessage where
  protocolVersion : UInt16
  sessionId : String
  senderName : String
  supportedCodecs : List StreamCodec
  desiredCodec : StreamCodec
  stream : ReceiverStreamConfig
  quality : QualityPreset
  targetLatencyMs : UInt16
  keepaliveIntervalMs : UInt16
  deriving DecidableEq, Repr

/-- `HelloMessage::new`. -/
def HelloMessage.new (sessionId senderName : String) (stream : ReceiverStreamConfig)
    (quality : QualityPreset) (targetLatencyMs keepaliveIntervalMs : UInt16) : HelloMessage where
  protocolVersion := STREAM_PROTOCOL_VERSION
  sessionId := sessionId
  senderName := senderName
  supportedCodecs := [.rawPcm]
  desiredCodec := .rawPcm
  stream := stream
  quality := quality
  targetLatencyMs := targetLatencyMs
  keepaliveIntervalMs := keepaliveIntervalMs

/-- `AcceptMessage`. -/
structure AcceptMessage where
  protocolVersion : UInt16
  sessionId : String
  receiverName : String
  codec : StreamCodec
  stream : ReceiverStreamConfig
  keepaliveIntervalMs : UInt16
  receiverLatencyMs : UInt16
  deriving DecidableEq, Repr

/-- `AudioMessage`. -/
structure AudioMessage where
  sequence : UInt64
  capturedAtMs : UInt64
  capturedAtUnixMs : UInt64
  deriving DecidableEq, Repr

/-- `HeartbeatMessage`. -/
structure HeartbeatMessage where
  nonce : UInt64
  deriving DecidableEq, Repr

/-- `StopMessage`. -/
structure StopMessage where
  reason : String
  deriving DecidableEq, Repr

/-- `ErrorMessage`. -/
structure ErrorMessage where
  code : String
  message : String
  deriving DecidableEq, Repr

/-- `serde_json::to_vec` and `serde_json::from_slice` at one type, with the text of their errors. -/
structure SerdeJson (T : Type) where
  toVec : T → Except String (List UInt8)
  fromSlice : List UInt8 → Except String T

/-- The JSON form of every message. -/
structure WireFormat where
  hello : SerdeJson HelloMessage
  accept : SerdeJson AcceptMessage
  audio : SerdeJson AudioMessage
  heartbeat : SerdeJson HeartbeatMessage
  stop : SerdeJson StopMessage
  error : SerdeJson ErrorMessage

namespace SerdeJson

variable {T : Type} [DecidableEq T]

/-- The bytes of an ASCII text, given piece by piece. -/
def asciiBytes (pieces : List String) : List UInt8 :=
  pieces.flatMap fun piece ↦ piece.toList.map fun c ↦ UInt8.ofNat c.toNat

/-- The JSON form of a single message, for runs on concrete input. -/
def single (message : T) (pieces : List String) : SerdeJson T where
  toVec message' :=
    if message' = message then .ok (asciiBytes pieces) else .error "not the message of this run"
  fromSlice bytes :=
    if bytes = asciiBytes pieces then .ok message else .error "expected value at line 1 column 1"

/-- The JSON forms of a few messages, for runs on concrete input. -/
def table (messages : List (T × List String)) : SerdeJson T where
  toVec message' :=
    match messages.find? fun (message, _) ↦ message = message' with
    | some (_, pieces) => .ok (asciiBytes pieces)
    | none => .error "not a message of this run"
  fromSlice bytes :=
    match messages.find? fun (_, pieces) ↦ asciiBytes pieces = bytes with
    | some (message, _) => .ok message
    | none => .error "expected value at line 1 column 1"

end SerdeJson

/-- `metadata` is what the encoder produced for some message, and it decodes to that message. -/
def SerdeJson.Carries {T : Type} (json : SerdeJson T) (metadata : List UInt8) : Prop :=
  ∃ message, json.toVec message = .ok metadata ∧ json.fromSlice metadata = .ok message

/-- `write_message`. -/
def writeMessage {T : Type} (json : SerdeJson T) (kind : FrameKind) (message : T)
    (payload : List UInt8) (writer : Writer) : Except TransportError ℕ × Writer :=
  match json.toVec message with
  | .error text => (.error (.invalidProtocol text), writer)
  | .ok metadata => writeFrame kind metadata payload writer

/-- `decode_metadata`. -/
def decodeMetadata {T : Type} (json : SerdeJson T) (frame : Frame) : Except TransportError T :=
  match json.fromSlice frame.metadata with
  | .error text => .error (.invalidProtocol text)
  | .ok message => .ok message

/-- What the encoder produces is decoded to the message it came from. -/
def SerdeJson.RoundTrips {T : Type} (json : SerdeJson T) : Prop :=
  ∀ message bytes, json.toVec message = .ok bytes → json.fromSlice bytes = .ok message

theorem SerdeJson.single_fromSlice {T : Type} [DecidableEq T] (message : T) (pieces : List String) :
    (SerdeJson.single message pieces).fromSlice (SerdeJson.asciiBytes pieces) = .ok message :=
  if_pos rfl

theorem SerdeJson.single_roundTrips {T : Type} [DecidableEq T] (message : T)
    (pieces : List String) : (SerdeJson.single message pieces).RoundTrips := by
  intro message' bytes hbytes
  simp only [SerdeJson.single] at hbytes ⊢
  split at hbytes
  next heq =>
    obtain rfl := Except.ok.inj hbytes
    rw [if_pos rfl, heq]
  · cases hbytes

/-- **What `write_message` writes** when it succeeds: the encoding of one frame. -/
theorem writeMessage_written {T : Type} {json : SerdeJson T} {kind : FrameKind} {message : T}
    {payload : List UInt8} {writer writer' : Writer} {size : ℕ}
    (h : writeMessage json kind message payload writer = (.ok size, writer')) :
    ∃ metadata, json.toVec message = .ok metadata ∧
      FrameBody.WithinLimits ⟨kind, metadata, payload⟩ ∧
      writer'.written = writer.written ++ encodeFrame ⟨kind, metadata, payload⟩ := by
  unfold writeMessage at h
  split at h
  · cases h
  next metadata htoVec =>
    obtain ⟨sent, hwritten, -, hall⟩ := @writeFrame_written ⟨kind, metadata, payload⟩ _ _ _ h
    obtain ⟨rfl, hlim⟩ := hall rfl
    exact ⟨metadata, htoVec, hlim, hwritten⟩

/-- A message whose encoding is short enough goes out whole on a sink that does not fail. -/
theorem writeMessage_of_toVec {T : Type} {json : SerdeJson T} {message : T}
    {metadata payload : List UInt8} {writer : Writer} (kind : FrameKind)
    (htoVec : json.toVec message = .ok metadata)
    (hlim : FrameBody.WithinLimits ⟨kind, metadata, payload⟩) (hrel : writer.Reliable) :
    ∃ (size : ℕ) (writer' : Writer),
      writeMessage json kind message payload writer = (.ok size, writer') ∧
      writer'.Reliable := by
  obtain ⟨writer', hwrite, -, hrel'⟩ := writeFrame_of_withinLimits hlim hrel
  exact ⟨_, writer', by simp only [writeMessage, htoVec]; exact hwrite, hrel'⟩

end SynchroSonic
