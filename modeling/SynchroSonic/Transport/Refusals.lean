import SynchroSonic.Transport.Agreement

/-!
# Refused handshakes

A receiver that gets a frame of another kind than `Hello` says so with an `Error` frame before it gives
up. A `Hello` it cannot decode or does not accept leaves `handle_receiver_session` by an early return
instead, and nothing is written. What the sender makes of that is decided by the end of the stream: it
has no answer to look at, and a receiver without an answer is unreachable and worth another attempt.

**So no refusal is ever reported** (`refusal_never_reported`).
-/

namespace SynchroSonic

/-- What is wrong with a `Hello` frame. -/
inductive HelloRefused (format : WireFormat) (frame : Frame) : Prop
  | undecodable (text : String) (decode : format.hello.fromSlice frame.metadata = .error text)
  | version (hello : HelloMessage) (decode : format.hello.fromSlice frame.metadata = .ok hello)
      (unsupported : hello.protocolVersion ≠ STREAM_PROTOCOL_VERSION)
  | notAdvertised (hello : HelloMessage) (decode : format.hello.fromSlice frame.metadata = .ok hello)
      (codec : hello.desiredCodec ∉ hello.supportedCodecs)
  | notRawPcm (hello : HelloMessage) (decode : format.hello.fromSlice frame.metadata = .ok hello)
      (codec : hello.desiredCodec ≠ .rawPcm)

/-- The receiver finds a `Hello` that it refuses. -/
structure Refuses (format : WireFormat) (setup : SessionSetup) (reader : Reader) : Prop where
  nodelay : setup.setNodelay = .ok ()
  readTimeout : setup.setReadTimeout = .ok ()
  frame : ∃ frame rest, readFrame reader = (.ok frame, rest) ∧ frame.kind = .hello ∧
    HelloRefused format frame

/-- The attempt has said its `Hello` and waits for an answer. -/
structure AwaitsAnswer (format : WireFormat) (env : ConnectEnv) (target : SenderTarget)
    (request : TargetConnectRequest) : Prop where
  notSelf : request.localDeviceId ≠ some target.receiverId
  connected : env.connectTimeout target.endpoint.address request.connectTimeout = .ok ()
  nodelay : env.setNodelay = .ok ()
  sent : ∃ size, (writeMessage format.hello .hello
    (ManagedTargetSession.helloFor env target request) [] env.writer).1 = .ok size

/-- The answer of the receiver is an `Error` frame. -/
def AnswersWithError (format : WireFormat) (answer : List UInt8) : Prop :=
  ∃ message metadata, format.error.toVec message = .ok metadata ∧
    answer = encodeFrame ⟨.error, metadata, []⟩

/-- The attempt ends as one that is not worth repeating. -/
def ReportsMismatch (result : TargetConnectResult) : Prop :=
  ∃ failure, result = .error failure ∧ failure.failureKind = .protocolMismatch ∧
    failure.retryable = false

/-! ### The receiver -/

/-- A `Hello` with one of these faults is refused. -/
theorem HelloRefused.error {format : WireFormat} {frame : Frame} (h : HelloRefused format frame) :
    (∃ error, decodeMetadata format.hello frame = .error error) ∨
      ∃ hello error, decodeMetadata format.hello frame = .ok hello ∧
        validateHello hello = .error error := by
  have hdecoded {hello : HelloMessage} (hdecode : format.hello.fromSlice frame.metadata = .ok hello) :
      decodeMetadata format.hello frame = .ok hello := by
    rw [decodeMetadata, hdecode]
  cases h with
  | undecodable text decode =>
    refine Or.inl ⟨.invalidProtocol text, ?_⟩
    rw [decodeMetadata, decode]
  | version hello decode unsupported =>
    exact Or.inr ⟨hello, _, hdecoded decode, if_pos unsupported⟩
  | notAdvertised hello decode codec =>
    have hcodec : (!hello.supportedCodecs.contains hello.desiredCodec) = true := by simpa using codec
    by_cases hversion : hello.protocolVersion ≠ STREAM_PROTOCOL_VERSION
    · exact Or.inr ⟨hello, _, hdecoded decode, if_pos hversion⟩
    · exact Or.inr ⟨hello, _, hdecoded decode, (if_neg hversion).trans (if_pos hcodec)⟩
  | notRawPcm hello decode codec => exact absurd (show hello.desiredCodec = .rawPcm by
      cases hello.desiredCodec; rfl) codec

/-- **The receiver gives up without a word.** -/
theorem handleReceiverSession_of_refuses {format : WireFormat} {setup : SessionSetup}
    {reader : Reader} (h : Refuses format setup reader) (args : SessionArgs)
    (inputs : ℕ → RoundInput) (writer : Writer) :
    ∃ error final, handleReceiverSession format args setup inputs reader writer =
      some (.error error, final) ∧ final.writer = writer := by
  obtain ⟨frame, rest, hread, hkind, hrefused⟩ := h.frame
  have hshake : ∃ error, handshake format args setup { reader, writer } =
      (.error error, { reader := rest, writer }) := by
    rcases hrefused.error with ⟨error, hdecode⟩ | ⟨hello, error, hdecode, hvalid⟩
    · refine ⟨error, ?_⟩
      simp only [handshake, h.nodelay, h.readTimeout, hread, hkind, hdecode, ne_eq,
        not_true_eq_false, if_false]
    · refine ⟨error, ?_⟩
      simp only [handshake, h.nodelay, h.readTimeout, hread, hkind, hdecode, hvalid, ne_eq,
        not_true_eq_false, if_false]
  obtain ⟨error, hshake⟩ := hshake
  refine ⟨error, { reader := rest, writer }, ?_, rfl⟩
  rw [handleReceiverSession, hshake]

/-! ### The sender -/

/-- There is no frame in a stream that hands out no bytes. -/
theorem readFrame_of_silent {reader : Reader} (h : ReadScript.symbols reader.items = []) :
    ∃ error, (readFrame reader).1 = .error error := by
  rcases hread : readFrame reader with ⟨error | frame, rest⟩
  · exact ⟨error, rfl⟩
  · obtain ⟨-, -, hitems⟩ := items_of_readFrame_ok hread
    rw [hitems, ReadScript.symbols_append, ReadScript.symbols_map_inl, List.append_eq_nil_iff] at h
    have hpos := encodeFrame_pos frame.toFrameBody
    rw [h.1] at hpos
    exact absurd hpos (Nat.lt_irrefl 0)

/-- **No answer is taken for an unreachable receiver**, and is tried again. -/
theorem connect_of_silent {format : WireFormat} {env : ConnectEnv} {target : SenderTarget}
    {request : TargetConnectRequest} (h : AwaitsAnswer format env target request)
    (hsilent : ReadScript.symbols env.reader.items = []) (secsF64 : SecsF64) (stream : TcpStream)
    (attemptCount : ℕ) :
    ∃ failure, ManagedTargetSession.connect secsF64 format env stream target attemptCount request =
      .error failure ∧ failure.failureKind = .unreachable ∧ failure.retryable = true := by
  obtain ⟨size, hsent⟩ := h.sent
  obtain ⟨error, hread⟩ := readFrame_of_silent hsilent
  rw [ManagedTargetSession.helloFor] at hsent
  have hconnect : ∃ snapshot, ManagedTargetSession.connect secsF64 format env stream target
      attemptCount request =
        .error (connectFailure target snapshot .unreachable error.display true) := by
    refine ⟨?_, ?_⟩
    rotate_left
    · simp only [ManagedTargetSession.connect, if_neg h.notSelf, h.connected, h.nodelay, hsent, hread]
      rfl
  obtain ⟨snapshot, hconnect⟩ := hconnect
  exact ⟨_, hconnect, rfl, rfl⟩

/-! ### Both -/

theorem not_answersWithError_nil (format : WireFormat) : ¬ AnswersWithError format [] := by
  rintro ⟨message, metadata, -, hanswer⟩
  have hpos := encodeFrame_pos ⟨.error, metadata, []⟩
  rw [← hanswer] at hpos
  exact absurd hpos (Nat.lt_irrefl 0)

/-- **No refusal is ever reported.** Whatever is wrong with a `Hello`, the receiver that refuses it
writes nothing, so there is no `Error` frame; and a sender that waits for the answer takes the receiver
for unreachable and tries again. -/
theorem refusal_never_reported (format : WireFormat) (args : SessionArgs) (setup : SessionSetup)
    (inputs : ℕ → RoundInput) (reader : Reader) (writer : Writer)
    (hrefuses : Refuses format setup reader) :
    ∃ error final, handleReceiverSession format args setup inputs reader writer =
        some (.error error, final) ∧
      ∀ answer, final.writer.written = writer.written ++ answer →
        ¬ AnswersWithError format answer ∧
        ∀ (secsF64 : SecsF64) (senderFormat : WireFormat) (env : ConnectEnv) (stream : TcpStream)
          (target : SenderTarget) (attemptCount : ℕ) (request : TargetConnectRequest),
          AwaitsAnswer senderFormat env target request → env.reader.Delivers answer →
          ¬ ReportsMismatch (ManagedTargetSession.connect secsF64 senderFormat env stream target
              attemptCount request) ∧
            ∃ failure, ManagedTargetSession.connect secsF64 senderFormat env stream target
                attemptCount request = .error failure ∧
              failure.failureKind = .unreachable ∧ failure.retryable = true := by
  obtain ⟨error, final, hrun, hwriter⟩ := handleReceiverSession_of_refuses hrefuses args inputs writer
  refine ⟨error, final, hrun, fun answer hanswer ↦ ?_⟩
  rw [hwriter] at hanswer
  obtain rfl := List.self_eq_append_right.1 hanswer
  refine ⟨not_answersWithError_nil format, ?_⟩
  intro secsF64 senderFormat env stream target attemptCount request hawaits hdelivers
  obtain ⟨failure, hconnect, hkind, hretryable⟩ :=
    connect_of_silent hawaits (List.prefix_nil.1 hdelivers) secsF64 stream attemptCount
  refine ⟨?_, failure, hconnect, hkind, hretryable⟩
  rintro ⟨other, hother, -, hfinal⟩
  obtain rfl := Except.error.inj (hconnect.symm.trans hother)
  rw [hretryable] at hfinal
  cases hfinal

/-! ### A newer sender -/

namespace Sample

/-- A sender that proposes version 2 of the protocol. -/
def newerHello : HelloMessage := { hello with protocolVersion := 2 }

def newerHelloJson : List String :=
  ["\x7b\"protocol_version\":2,", "\"session_id\":\"session-1\",", "\"sender_name\":\"sender\",",
    "\"supported_codecs\":[\"RawPcm\"],", "\"desired_codec\":\"RawPcm\","] ++ streamJson ++
  ["\"quality\":\"Balanced\",", "\"target_latency_ms\":50,", "\"keepalive_interval_ms\":1000\x7d"]

def newerFormat : WireFormat := { format with hello := .single newerHello newerHelloJson }

/-- The receiver gets the newer `Hello`. -/
def newerReader : Reader :=
  ReadScript.ofList (encodeFrame ⟨.hello, SerdeJson.asciiBytes newerHelloJson, []⟩)

theorem refuses_newer : Refuses newerFormat setup newerReader := by
  have hitems : newerReader.items =
      (encodeFrame ⟨.hello, SerdeJson.asciiBytes newerHelloJson, []⟩).map .inl ++ [] := by
    rw [newerReader, Reader.items, ReadScript.items_ofList, List.append_nil]
  obtain ⟨rest, hread, -⟩ := readFrame_of_items (by decide +kernel) hitems
  exact ⟨rfl, rfl, _, rest, hread, rfl,
    .version newerHello (SerdeJson.single_fromSlice newerHello newerHelloJson) (by decide)⟩

/-- The receiver closes the connection without a word. -/
def unanswered : ConnectEnv := { accepted with reader := ReadScript.ofList [] }

theorem awaitsAnswer_unanswered :
    AwaitsAnswer senderFormat unanswered (senderTarget 51700) connectRequest := by
  have hsent : (writeMessage senderFormat.hello .hello (ManagedTargetSession.helloFor unanswered
      (senderTarget 51700) connectRequest) [] unanswered.writer).1.toOption.isSome = true := by
    decide +kernel
  rcases hwrite : (writeMessage senderFormat.hello .hello (ManagedTargetSession.helloFor unanswered
      (senderTarget 51700) connectRequest) [] unanswered.writer).1 with error | size
  · rw [hwrite] at hsent
    cases hsent
  · exact ⟨by decide, rfl, rfl, size, hwrite⟩

end Sample

/-- The newer sender gets no answer, and an attempt that waits for one ends as a receiver out of
reach. -/
theorem refusal_never_reported_newer :
    ∃ error final failure, handleReceiverSession Sample.newerFormat Sample.args Sample.setup
        Sample.calm Sample.newerReader .empty = some (.error error, final) ∧
      (∀ answer, final.writer.written = answer → ¬ AnswersWithError Sample.newerFormat answer) ∧
      Sample.unanswered.reader.Delivers final.writer.written ∧
      ManagedTargetSession.connect Sample.secsF64 Sample.senderFormat Sample.unanswered ⟨0⟩
        (Sample.senderTarget 51700) 1 Sample.connectRequest = .error failure ∧
      failure.failureKind = .unreachable ∧ failure.retryable = true := by
  obtain ⟨error, final, hrun, hfinal⟩ := refusal_never_reported _ Sample.args _ Sample.calm _ .empty
    Sample.refuses_newer
  have hsilent : (handleReceiverSession Sample.newerFormat Sample.args Sample.setup Sample.calm
      Sample.newerReader .empty).map (fun ended ↦ ended.2.writer.written) = some [] := by
    decide +kernel
  rw [hrun, Option.map_some, Option.some.injEq] at hsilent
  have hdelivers : Sample.unanswered.reader.Delivers final.writer.written := by
    rw [show final.writer.written = [] from hsilent]
    exact List.prefix_rfl
  obtain ⟨-, failure, hconnect, hkind, hretryable⟩ := (hfinal _ rfl).2 Sample.secsF64
    Sample.senderFormat Sample.unanswered ⟨0⟩ (Sample.senderTarget 51700) 1 Sample.connectRequest
    Sample.awaitsAnswer_unanswered hdelivers
  exact ⟨error, final, failure, hrun, fun answer hanswer ↦ (hfinal answer hanswer).1, hdelivers,
    hconnect, hkind, hretryable⟩

/-- **A refusal that is not reported.** The `Hello` of a newer sender is refused; no `Error` frame is
written, and the attempt that waits for the answer ends as a receiver out of reach, to be tried
again. -/
theorem refusal_unreported :
    ¬ ∀ (format : WireFormat) (args : SessionArgs) (setup : SessionSetup)
      (inputs : ℕ → RoundInput) (reader : Reader), Refuses format setup reader →
      ∃ ended, handleReceiverSession format args setup inputs reader .empty = some ended ∧
        AnswersWithError format ended.2.writer.written ∧
        ∀ (secsF64 : SecsF64) (senderFormat : WireFormat) (env : ConnectEnv) (stream : TcpStream)
          (target : SenderTarget) (attemptCount : ℕ) (request : TargetConnectRequest),
          AwaitsAnswer senderFormat env target request →
          env.reader.Delivers ended.2.writer.written →
          ReportsMismatch (ManagedTargetSession.connect secsF64 senderFormat env stream target
            attemptCount request) := by
  intro h
  obtain ⟨ended, hrun, hanswers, -⟩ := h Sample.newerFormat Sample.args Sample.setup Sample.calm
    Sample.newerReader Sample.refuses_newer
  have hsilent : (handleReceiverSession Sample.newerFormat Sample.args Sample.setup Sample.calm
      Sample.newerReader .empty).map (fun ended ↦ ended.2.writer.written) = some [] := by
    decide +kernel
  rw [hrun, Option.map_some, Option.some.injEq] at hsilent
  rw [hsilent] at hanswers
  exact not_answersWithError_nil _ hanswers

end SynchroSonic
