import SynchroSonic.Core.Error
import SynchroSonic.Machine.BigEndian
import SynchroSonic.Machine.ReadScript
import SynchroSonic.Machine.WriteScript

/-!
# The framed wire protocol

`writeFrame` and `readFrame`, over a sink and a source given as scripts. A frame is a thirteen-byte
header — magic, kind byte, two big-endian lengths — followed by metadata and payload.

`encodeFrame` is the image of `writeFrame` as a byte string. The two directions of the codec are
stated against it:

* **forward** (`readFrame_of_items`): a source whose next bytes are an encoding yields that frame
  and is left exactly behind it, whatever follows;
* **exactness** (`items_of_readFrame_ok`): a frame that was read is one whose encoding the source
  has just handed out.

A failing read is described by `items_of_readFrame_error`: the bytes consumed so far are lost and
are fewer than any frame's worth.
-/

namespace SynchroSonic

/-- A TCP stream, or any other source, as frames are read from it. -/
abbrev Reader := ReadScript UInt8 IoError

/-- A TCP stream, or any other sink, as frames are written to it. -/
abbrev Writer := WriteScript UInt8 IoError

namespace Reader

/-- `read_exact` of the standard library. -/
def readExact (n : ℕ) (reader : Reader) : Except IoError (List UInt8) × Reader :=
  ReadScript.readExact IoError.isInterrupted IoError.readExactEof n reader

/-- The source byte by byte, with the errors a caller gets to see. -/
def items (reader : Reader) : List (UInt8 ⊕ IoError) := ReadScript.items IoError.isInterrupted reader

theorem items_cons (item : ReadItem UInt8 IoError) (reader : Reader) :
    items (item :: reader) = ReadScript.itemsOf IoError.isInterrupted item ++ reader.items := rfl

end Reader

/-! ### Frames -/

/-- The magic `b"SSN1"`. -/
def FRAME_MAGIC : List UInt8 := [83, 83, 78, 49]

def FRAME_HEADER_LEN : ℕ := 13

def MAX_METADATA_BYTES : ℕ := 8 * 1024

def MAX_PAYLOAD_BYTES : ℕ := 256 * 1024

/-- `FrameKind`. -/
inductive FrameKind
  | hello
  | accept
  | audio
  | heartbeat
  | heartbeatAck
  | stop
  | error
  deriving DecidableEq, Repr

namespace FrameKind

/-- `kind as u8`. -/
def toU8 : FrameKind → UInt8
  | .hello => 1
  | .accept => 2
  | .audio => 3
  | .heartbeat => 4
  | .heartbeatAck => 5
  | .stop => 6
  | .error => 7

def fromU8 (value : UInt8) : Except TransportError FrameKind :=
  match value with
  | 1 => .ok .hello
  | 2 => .ok .accept
  | 3 => .ok .audio
  | 4 => .ok .heartbeat
  | 5 => .ok .heartbeatAck
  | 6 => .ok .stop
  | 7 => .ok .error
  | _ => .error (.invalidProtocol ("unknown frame kind byte " ++ toString value))

/-- The `Debug` text of a kind. -/
def debug : FrameKind → String
  | .hello => "Hello"
  | .accept => "Accept"
  | .audio => "Audio"
  | .heartbeat => "Heartbeat"
  | .heartbeatAck => "HeartbeatAck"
  | .stop => "Stop"
  | .error => "Error"

@[simp] theorem fromU8_toU8 (kind : FrameKind) : fromU8 kind.toU8 = .ok kind := by
  cases kind <;> rfl

theorem toU8_of_fromU8 {value : UInt8} {kind : FrameKind} (h : fromU8 value = .ok kind) :
    kind.toU8 = value := by
  unfold fromU8 at h
  split at h <;> first | (obtain rfl := Except.ok.inj h; rfl) | simp at h

end FrameKind

/-- What a frame carries: `write_frame`'s arguments. -/
structure FrameBody where
  kind : FrameKind
  metadata : List UInt8
  payload : List UInt8
  deriving DecidableEq, Repr

/-- A frame as it was read, with the number of bytes it took on the wire. -/
structure Frame extends FrameBody where
  wireBytes : ℕ
  deriving DecidableEq, Repr

/-- Both length limits are met. -/
def FrameBody.WithinLimits (body : FrameBody) : Prop :=
  body.metadata.length ≤ MAX_METADATA_BYTES ∧ body.payload.length ≤ MAX_PAYLOAD_BYTES

instance (body : FrameBody) : Decidable body.WithinLimits := inferInstanceAs (Decidable (_ ∧ _))

/-! ### Headers -/

/-- The header `write_frame` builds. -/
def encodeHeader (kind : FrameKind) (metadataLen payloadLen : ℕ) : List UInt8 :=
  FRAME_MAGIC ++ [kind.toU8] ++ BigEndian.toBe 4 metadataLen ++ BigEndian.toBe 4 payloadLen

/-- The checks `read_frame` makes on a header: the kind and the two lengths. -/
def decodeHeader (header : List UInt8) : Except TransportError (FrameKind × ℕ × ℕ) :=
  if header.take 4 ≠ FRAME_MAGIC then
    .error (.invalidProtocol "frame magic did not match SynchroSonic protocol")
  else
    match FrameKind.fromU8 (header.getD 4 0) with
    | .error error => .error error
    | .ok kind =>
      let metadataLen := BigEndian.fromBe ((header.drop 5).take 4)
      let payloadLen := BigEndian.fromBe ((header.drop 9).take 4)
      if MAX_METADATA_BYTES < metadataLen then
        .error (.invalidProtocol ("metadata length " ++ toString metadataLen ++ " exceeded "
          ++ toString MAX_METADATA_BYTES))
      else if MAX_PAYLOAD_BYTES < payloadLen then
        .error (.invalidProtocol ("payload length " ++ toString payloadLen ++ " exceeded "
          ++ toString MAX_PAYLOAD_BYTES))
      else .ok (kind, metadataLen, payloadLen)

@[simp] theorem length_encodeHeader (kind : FrameKind) (metadataLen payloadLen : ℕ) :
    (encodeHeader kind metadataLen payloadLen).length = FRAME_HEADER_LEN := by
  simp [encodeHeader, FRAME_MAGIC, FRAME_HEADER_LEN]

theorem decodeHeader_encodeHeader (kind : FrameKind) {metadataLen payloadLen : ℕ}
    (hm : metadataLen ≤ MAX_METADATA_BYTES) (hp : payloadLen ≤ MAX_PAYLOAD_BYTES) :
    decodeHeader (encodeHeader kind metadataLen payloadLen) =
      .ok (kind, metadataLen, payloadLen) := by
  have hmBe : BigEndian.fromBe (BigEndian.toBe 4 metadataLen) = metadataLen :=
    BigEndian.fromBe_toBe (by simp only [MAX_METADATA_BYTES] at hm; omega)
  have hpBe : BigEndian.fromBe (BigEndian.toBe 4 payloadLen) = payloadLen :=
    BigEndian.fromBe_toBe (by simp only [MAX_PAYLOAD_BYTES] at hp; omega)
  have hmagic : (encodeHeader kind metadataLen payloadLen).take 4 = FRAME_MAGIC := rfl
  have hkind : (encodeHeader kind metadataLen payloadLen).getD 4 0 = kind.toU8 := rfl
  have hmeta : ((encodeHeader kind metadataLen payloadLen).drop 5).take 4 =
      BigEndian.toBe 4 metadataLen := rfl
  have hpay : ((encodeHeader kind metadataLen payloadLen).drop 9).take 4 =
      BigEndian.toBe 4 payloadLen := rfl
  simp only [decodeHeader, hmagic, hkind, hmeta, hpay, hmBe, hpBe, FrameKind.fromU8_toU8]
  simp only [ne_eq, not_true_eq_false, if_false, Nat.not_lt.2 hm, Nat.not_lt.2 hp]

/-- A header that passes the checks is the header of what it announces. -/
theorem encodeHeader_of_decodeHeader {header : List UInt8} {kind : FrameKind}
    {metadataLen payloadLen : ℕ} (hlen : header.length = FRAME_HEADER_LEN)
    (h : decodeHeader header = .ok (kind, metadataLen, payloadLen)) :
    header = encodeHeader kind metadataLen payloadLen ∧
      metadataLen ≤ MAX_METADATA_BYTES ∧ payloadLen ≤ MAX_PAYLOAD_BYTES := by
  simp only [decodeHeader] at h
  split at h
  · exact nomatch h
  next hmagic =>
  split at h
  · exact nomatch h
  next kind' hkind =>
  split at h
  · exact nomatch h
  next hm =>
  split at h
  · exact nomatch h
  next hp =>
  simp only [Except.ok.injEq, Prod.mk.injEq] at h
  obtain ⟨rfl, rfl, rfl⟩ := h
  refine ⟨?_, by omega, by omega⟩
  have hmeta : BigEndian.toBe 4 (BigEndian.fromBe ((header.drop 5).take 4)) =
      (header.drop 5).take 4 :=
    BigEndian.toBe_fromBe (by simp [hlen, FRAME_HEADER_LEN])
  have hpay : BigEndian.toBe 4 (BigEndian.fromBe ((header.drop 9).take 4)) =
      (header.drop 9).take 4 :=
    BigEndian.toBe_fromBe (by simp [hlen, FRAME_HEADER_LEN])
  rw [encodeHeader, hmeta, hpay, FrameKind.toU8_of_fromU8 hkind, ← not_ne_iff.1 hmagic]
  match header, hlen with
  | [_, _, _, _, _, _, _, _, _, _, _, _, _], _ => rfl

/-! ### Writing and reading a frame -/

/-- The bytes of a frame on the wire. -/
def encodeFrame (body : FrameBody) : List UInt8 :=
  encodeHeader body.kind body.metadata.length body.payload.length ++ body.metadata ++ body.payload

/-- `write_frame`. Both limits are checked before anything is written. -/
def writeFrame (kind : FrameKind) (metadata payload : List UInt8) (writer : Writer) :
    Except TransportError ℕ × Writer :=
  if MAX_METADATA_BYTES < metadata.length then
    (.error (.invalidProtocol
      ("metadata frame exceeded " ++ toString MAX_METADATA_BYTES ++ " bytes")), writer)
  else if MAX_PAYLOAD_BYTES < payload.length then
    (.error (.invalidProtocol
      ("payload frame exceeded " ++ toString MAX_PAYLOAD_BYTES ++ " bytes")), writer)
  else
    let header := encodeHeader kind metadata.length payload.length
    match writer.writeParts [header, metadata, payload] with
    | (.error source, writer) =>
      (.error (.io ("writing " ++ kind.debug ++ " frame") source), writer)
    | (.ok (), writer) => (.ok (header.length + metadata.length + payload.length), writer)

/-- `read_frame`. -/
def readFrame (reader : Reader) : Except TransportError Frame × Reader :=
  match reader.readExact FRAME_HEADER_LEN with
  | (.error source, reader) => (.error (.io "reading transport frame header" source), reader)
  | (.ok header, reader) =>
    match decodeHeader header with
    | .error error => (.error error, reader)
    | .ok (kind, metadataLen, payloadLen) =>
      match reader.readExact metadataLen with
      | (.error source, reader) =>
        (.error (.io ("reading " ++ kind.debug ++ " frame body") source), reader)
      | (.ok metadata, reader) =>
        match reader.readExact payloadLen with
        | (.error source, reader) =>
          (.error (.io ("reading " ++ kind.debug ++ " frame body") source), reader)
        | (.ok payload, reader) =>
          (.ok { kind, metadata, payload,
                 wireBytes := FRAME_HEADER_LEN + metadataLen + payloadLen }, reader)

@[simp] theorem length_encodeFrame (body : FrameBody) :
    (encodeFrame body).length =
      FRAME_HEADER_LEN + body.metadata.length + body.payload.length := by
  simp [encodeFrame, Nat.add_assoc]

theorem encodeFrame_pos (body : FrameBody) : 0 < (encodeFrame body).length := by
  rw [length_encodeFrame, FRAME_HEADER_LEN]
  omega

/-! ### The two directions of the codec -/

namespace Reader

theorem items_of_readExact_ok {n : ℕ} {reader rest : Reader} {data : List UInt8}
    (h : reader.readExact n = (.ok data, rest)) :
    data.length = n ∧ reader.items = data.map .inl ++ rest.items :=
  ReadScript.items_of_readExact_ok h

theorem readExact_of_items {n : ℕ} {reader : Reader} {data : List UInt8}
    {tail : List (UInt8 ⊕ IoError)} (hn : data.length = n)
    (h : reader.items = data.map .inl ++ tail) :
    ∃ rest : Reader, reader.readExact n = (.ok data, rest) ∧ rest.items = tail := by
  subst hn
  exact ReadScript.readExact_of_items h

theorem readExact_of_items_error (n : ℕ) {reader : Reader} {source : IoError}
    {tail : List (UInt8 ⊕ IoError)} (hn : 0 < n) (h : reader.items = .inr source :: tail) :
    ∃ rest : Reader, reader.readExact n = (.error source, rest) ∧ rest.items = tail :=
  @ReadScript.readExact_of_items_error _ _ _ _ n reader [] source tail hn h

theorem readExact_of_items_nil (n : ℕ) {reader : Reader} (hn : 0 < n) (h : reader.items = []) :
    reader.readExact n = (.error IoError.readExactEof, []) :=
  @ReadScript.readExact_of_items_end _ _ _ _ n reader [] hn h

end Reader

/-- **Forward.** Whatever follows, the encoding of a frame is read as that frame, and reading stops
exactly behind it. -/
theorem readFrame_of_items {reader : Reader} {body : FrameBody} {tail : List (UInt8 ⊕ IoError)}
    (hlim : body.WithinLimits) (h : reader.items = (encodeFrame body).map .inl ++ tail) :
    ∃ rest : Reader, readFrame reader =
        (.ok { body with wireBytes := (encodeFrame body).length }, rest) ∧
      rest.items = tail := by
  simp only [encodeFrame, List.map_append, List.append_assoc] at h
  obtain ⟨reader₁, hread₁, hitems₁⟩ := Reader.readExact_of_items (length_encodeHeader _ _ _) h
  obtain ⟨reader₂, hread₂, hitems₂⟩ := Reader.readExact_of_items rfl hitems₁
  obtain ⟨reader₃, hread₃, hitems₃⟩ := Reader.readExact_of_items rfl hitems₂
  refine ⟨reader₃, ?_, hitems₃⟩
  simp only [readFrame, hread₁, decodeHeader_encodeHeader _ hlim.1 hlim.2, hread₂, hread₃,
    length_encodeFrame]

/-- An error in front of a frame fails the read, and nothing is lost. -/
theorem readFrame_of_items_error {reader : Reader} {source : IoError}
    {tail : List (UInt8 ⊕ IoError)} (h : reader.items = .inr source :: tail) :
    ∃ rest : Reader, readFrame reader =
        (.error (.io "reading transport frame header" source), rest) ∧ rest.items = tail := by
  obtain ⟨rest, hread, hrest⟩ := Reader.readExact_of_items_error FRAME_HEADER_LEN (by decide) h
  exact ⟨rest, by simp only [readFrame, hread], hrest⟩

/-- The end of the stream in front of a frame. -/
theorem readFrame_of_items_nil {reader : Reader} (h : reader.items = []) :
    readFrame reader =
      (.error (.io "reading transport frame header" IoError.readExactEof), []) := by
  simp only [readFrame, Reader.readExact_of_items_nil FRAME_HEADER_LEN (by decide) h]

/-- **Exactness.** A frame that was read respects both limits, and the source has handed out exactly
its encoding. -/
theorem items_of_readFrame_ok {reader rest : Reader} {frame : Frame}
    (h : readFrame reader = (.ok frame, rest)) :
    frame.WithinLimits ∧ frame.wireBytes = (encodeFrame frame.toFrameBody).length ∧
      reader.items = (encodeFrame frame.toFrameBody).map .inl ++ rest.items := by
  unfold readFrame at h
  split at h
  · exact nomatch h
  next header reader₁ hread₁ =>
  split at h
  · exact nomatch h
  next kind metadataLen payloadLen hheader =>
  split at h
  · exact nomatch h
  next metadata reader₂ hread₂ =>
  split at h
  · exact nomatch h
  next payload reader₃ hread₃ =>
  simp only [Prod.mk.injEq, Except.ok.injEq] at h
  obtain ⟨rfl, rfl⟩ := h
  obtain ⟨hlen₁, hitems₁⟩ := Reader.items_of_readExact_ok hread₁
  obtain ⟨rfl, hitems₂⟩ := Reader.items_of_readExact_ok hread₂
  obtain ⟨rfl, hitems₃⟩ := Reader.items_of_readExact_ok hread₃
  obtain ⟨rfl, hm, hp⟩ := encodeHeader_of_decodeHeader hlen₁ hheader
  refine ⟨⟨hm, hp⟩, (length_encodeFrame ⟨kind, metadata, payload⟩).symm, ?_⟩
  rw [hitems₁, hitems₂, hitems₃]
  simp only [encodeFrame, List.map_append, List.append_assoc]

/-- **A frame is found again.** If a stream starts with an encoding, then the frame read from its front
is that one. -/
theorem readFrame_of_starts {reader rest : Reader} {frame : Frame} {body : FrameBody}
    {later : List UInt8} (hlim : body.WithinLimits) (h : readFrame reader = (.ok frame, rest))
    (hstarts : ReadScript.symbols reader.items <+: encodeFrame body ++ later) :
    frame.toFrameBody = body := by
  obtain ⟨hframe, -, hitems⟩ := items_of_readFrame_ok h
  obtain ⟨tail, htail⟩ := hstarts
  rw [hitems, ReadScript.symbols_append, ReadScript.symbols_map_inl, List.append_assoc] at htail
  -- one string of bytes, read once as the one frame and once as the other
  have hone {body : FrameBody} (hlim : body.WithinLimits) (tail : List UInt8) :=
    @readFrame_of_items (ReadScript.ofList (encodeFrame body ++ tail)) body (tail.map .inl) hlim
      (by rw [Reader.items, ReadScript.items_ofList, List.map_append])
  obtain ⟨_, hread, -⟩ := hone hframe (ReadScript.symbols rest.items ++ tail)
  obtain ⟨_, hread', -⟩ := hone hlim later
  rw [htail, hread'] at hread
  exact (congrArg Frame.toFrameBody (Except.ok.inj (Prod.mk.inj hread).1)).symm

/-- How a read that ends in `error` treats the source: `lost` is what it consumed and forgot. -/
inductive ReadFailure (reader rest : Reader) (lost : List UInt8) : TransportError → Prop
  /-- The source reported an error in the middle of the read. -/
  | reported {context : String} {source : IoError}
      (items : reader.items = lost.map .inl ++ .inr source :: rest.items) :
      ReadFailure reader rest lost (.io context source)
  /-- The source ended in the middle of the read. -/
  | ended {context : String} (items : reader.items = lost.map .inl) (empty : rest = []) :
      ReadFailure reader rest lost (.io context IoError.readExactEof)
  /-- A whole header arrived and was refused. -/
  | refused {message : String} (items : reader.items = lost.map .inl ++ rest.items)
      (length : lost.length = FRAME_HEADER_LEN) :
      ReadFailure reader rest lost (.invalidProtocol message)

theorem ReadFailure.prepend {reader reader' rest : Reader} {data lost : List UInt8}
    {error : TransportError} (hitems : reader.items = data.map .inl ++ reader'.items)
    {context : String} {source : IoError} (herr : error = .io context source)
    (h : ReadFailure reader' rest lost error) : ReadFailure reader rest (data ++ lost) error := by
  cases h with
  | reported items =>
    exact .reported (by rw [hitems, items, List.map_append, List.append_assoc])
  | ended items empty => exact .ended (by rw [hitems, items, List.map_append]) empty
  | refused => simp at herr

namespace Reader

theorem failure_of_readExact {n : ℕ} {reader rest : Reader} {source : IoError} (context : String)
    (h : reader.readExact n = (.error source, rest)) :
    ∃ lost, ReadFailure reader rest lost (.io context source) := by
  obtain ⟨lost, -, hitems | ⟨rfl, hitems, rfl⟩⟩ := ReadScript.items_of_readExact_error h
  · exact ⟨lost, .reported hitems⟩
  · exact ⟨lost, .ended hitems rfl⟩

end Reader

theorem message_of_fromU8 {value : UInt8} {error : TransportError}
    (h : FrameKind.fromU8 value = .error error) : ∃ message, error = .invalidProtocol message := by
  unfold FrameKind.fromU8 at h
  split at h <;> first | exact ⟨_, (Except.error.inj h).symm⟩ | simp at h

theorem message_of_decodeHeader {header : List UInt8} {error : TransportError}
    (h : decodeHeader header = .error error) : ∃ message, error = .invalidProtocol message := by
  simp only [decodeHeader] at h
  split at h
  · exact ⟨_, (Except.error.inj h).symm⟩
  split at h
  next hkind =>
    obtain rfl := Except.error.inj h
    exact message_of_fromU8 hkind
  split at h
  · exact ⟨_, (Except.error.inj h).symm⟩
  split at h
  · exact ⟨_, (Except.error.inj h).symm⟩
  · exact nomatch h

/-- **A failing read forgets what it consumed.** -/
theorem failure_of_readFrame_error {reader rest : Reader} {error : TransportError}
    (h : readFrame reader = (.error error, rest)) : ∃ lost, ReadFailure reader rest lost error := by
  unfold readFrame at h
  split at h
  next source reader₁ hread₁ =>
    simp only [Prod.mk.injEq, Except.error.injEq] at h
    obtain ⟨rfl, rfl⟩ := h
    exact Reader.failure_of_readExact _ hread₁
  next header reader₁ hread₁ =>
  obtain ⟨hlen₁, hitems₁⟩ := Reader.items_of_readExact_ok hread₁
  split at h
  next hheader =>
    simp only [Prod.mk.injEq, Except.error.injEq] at h
    obtain ⟨rfl, rfl⟩ := h
    obtain ⟨message, rfl⟩ := message_of_decodeHeader hheader
    exact ⟨header, .refused hitems₁ hlen₁⟩
  next kind metadataLen payloadLen hheader =>
  split at h
  next source reader₂ hread₂ =>
    simp only [Prod.mk.injEq, Except.error.injEq] at h
    obtain ⟨rfl, rfl⟩ := h
    obtain ⟨lost, hlost⟩ := Reader.failure_of_readExact _ hread₂
    exact ⟨_, hlost.prepend hitems₁ rfl⟩
  next metadata reader₂ hread₂ =>
  obtain ⟨-, hitems₂⟩ := Reader.items_of_readExact_ok hread₂
  split at h
  next source reader₃ hread₃ =>
    simp only [Prod.mk.injEq, Except.error.injEq] at h
    obtain ⟨rfl, rfl⟩ := h
    obtain ⟨lost, hlost⟩ := Reader.failure_of_readExact _ hread₃
    exact ⟨_, (hlost.prepend hitems₂ rfl).prepend hitems₁ rfl⟩
  · exact nomatch h

/-! ### Writing -/

theorem writeFrame_of_withinLimits {body : FrameBody} {writer : Writer}
    (hlim : body.WithinLimits) (hrel : writer.Reliable) :
    ∃ writer' : Writer,
      writeFrame body.kind body.metadata body.payload writer =
        (.ok (encodeFrame body).length, writer') ∧
      writer'.written = writer.written ++ encodeFrame body ∧ writer'.Reliable := by
  obtain ⟨writer', hparts, hwritten, hrel'⟩ := WriteScript.writeParts_of_reliable hrel
    [encodeHeader body.kind body.metadata.length body.payload.length, body.metadata, body.payload]
  refine ⟨writer', ?_, ?_, hrel'⟩
  · simp only [writeFrame, Nat.not_lt.2 hlim.1, Nat.not_lt.2 hlim.2, if_false, hparts,
      length_encodeFrame, length_encodeHeader]
  · rw [hwritten, encodeFrame]
    simp

/-- **What `write_frame` writes** is a part of the encoding from the front, and all of it if the call
succeeds. -/
theorem writeFrame_written {body : FrameBody} {writer writer' : Writer}
    {result : Except TransportError ℕ}
    (h : writeFrame body.kind body.metadata body.payload writer = (result, writer')) :
    ∃ sent, writer'.written = writer.written ++ sent ∧ sent <+: encodeFrame body ∧
      (result.isOk = true → sent = encodeFrame body ∧ body.WithinLimits) := by
  have hparts : [encodeHeader body.kind body.metadata.length body.payload.length, body.metadata,
      body.payload].flatten = encodeFrame body := by
    rw [encodeFrame, List.append_assoc]
    simp
  unfold writeFrame at h
  split at h
  · obtain ⟨rfl, rfl⟩ := Prod.mk.inj h
    exact ⟨[], by simp, List.nil_prefix, fun h ↦ nomatch h⟩
  next hmetadata =>
  split at h
  · obtain ⟨rfl, rfl⟩ := Prod.mk.inj h
    exact ⟨[], by simp, List.nil_prefix, fun h ↦ nomatch h⟩
  next hpayload =>
  dsimp only at h
  split at h
  next source writer₁ hwrite =>
    obtain ⟨rfl, rfl⟩ := Prod.mk.inj h
    obtain ⟨sent, hwritten, hprefix, -⟩ := WriteScript.writeParts_accepts hwrite
    exact ⟨sent, hwritten, hparts ▸ hprefix, fun h ↦ nomatch h⟩
  next writer₁ hwrite =>
    obtain ⟨rfl, rfl⟩ := Prod.mk.inj h
    obtain ⟨sent, hwritten, hprefix, hall⟩ := WriteScript.writeParts_accepts hwrite
    exact ⟨sent, hwritten, hparts ▸ hprefix,
      fun _ ↦ ⟨hparts ▸ hall rfl, by omega, by omega⟩⟩

/-- Beyond a limit nothing is written. -/
theorem writeFrame_of_not_withinLimits {body : FrameBody} (writer : Writer)
    (hlim : ¬ body.WithinLimits) :
    ∃ message, writeFrame body.kind body.metadata body.payload writer =
      (.error (.invalidProtocol message), writer) := by
  unfold writeFrame
  split
  · exact ⟨_, rfl⟩
  split
  · exact ⟨_, rfl⟩
  · exact absurd ⟨by omega, by omega⟩ hlim

end SynchroSonic
