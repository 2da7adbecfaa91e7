import SynchroSonic.Transport.SenderRuns
import SynchroSonic.Transport.SessionEvents

/-!
# The two ends of a handshake agree

The sender checks the `Accept` it gets against the `Hello` it sent (`connect_agrees`), whoever
answered. The receiver answers a `Hello` it accepts with an `Accept` that passes this check, and
announces the connection the `Hello` asks for (`acceptFor_valid`, `handshake_of_accepts`). What ties the
two together is the byte stream between them: a receiver that reads what the sender wrote decodes the
very `Hello` that was sent, as long as its JSON round-trips (`hello_of_delivers`).
-/

namespace SynchroSonic

/-! ### The sender -/

namespace ManagedTargetSession

variable {secsF64 : SecsF64} {format : WireFormat} {env : ConnectEnv} {stream : TcpStream}
  {target : SenderTarget} {attemptCount : ℕ} {request : TargetConnectRequest}
  {session : ManagedTargetSession}

/-- The `Hello` an attempt says. -/
def helloFor (env : ConnectEnv) (target : SenderTarget) (request : TargetConnectRequest) :
    HelloMessage :=
  .new (request.managerSessionId ++ "-" ++ target.receiverId.value ++ "-" ++ toString env.nowUnixMs)
    request.senderName request.streamConfig request.quality request.targetLatencyMs
    request.heartbeatIntervalMs

/-- An `Accept` that proposes nothing but what `hello` proposed. -/
structure Echoes (accept : AcceptMessage) (hello : HelloMessage) : Prop where
  protocolVersion : accept.protocolVersion = hello.protocolVersion
  sessionId : accept.sessionId = hello.sessionId
  codec : accept.codec = hello.desiredCodec
  stream : accept.stream = hello.stream

/-- `validate_accept` compares everything that was negotiated. -/
theorem echoes_of_validateAccept {accept : AcceptMessage} {hello : HelloMessage}
    (hversion : hello.protocolVersion = STREAM_PROTOCOL_VERSION) (hcodec : hello.desiredCodec = .rawPcm)
    (h : validateAccept accept hello.sessionId hello.stream = .ok ()) : Echoes accept hello := by
  unfold validateAccept at h
  split at h
  · cases h
  next hversion' =>
  split at h
  · cases h
  next hsessionId =>
  split at h
  · cases h
  next hcodec' =>
  split at h
  · cases h
  next hstream =>
    exact ⟨(not_ne_iff.1 hversion').trans hversion.symm, not_ne_iff.1 hsessionId,
      (not_ne_iff.1 hcodec').trans hcodec.symm, not_ne_iff.1 hstream⟩

/-- What an open session owes to its handshake: the `Hello` went out, the first frame that came back
is an `Accept` of it, and the snapshot says what was proposed. -/
structure Agreed (format : WireFormat) (env : ConnectEnv) (hello : HelloMessage)
    (session : ManagedTargetSession) : Prop where
  sent : ∃ size, (writeMessage format.hello .hello hello [] env.writer).1 = .ok size
  answered : ∃ frame accept, (readFrame env.reader).1 = .ok frame ∧ frame.kind = .accept ∧
    decodeMetadata format.accept frame = .ok accept ∧ Echoes accept hello
  state : session.snapshot.state = .streaming
  sessionId : session.snapshot.sessionId = some hello.sessionId
  codec : session.snapshot.codec = some hello.desiredCodec
  stream : session.snapshot.stream = some hello.stream

/-- **A session is only opened on what was proposed**, whatever the peer answers. -/
theorem connect_agrees
    (h : connect secsF64 format env stream target attemptCount request = .ok session) :
    Agreed format env (helloFor env target request) session := by
  unfold connect at h
  dsimp only at h
  split at h
  · cases h
  split at h
  · cases h
  split at h
  · cases h
  split at h
  · cases h
  next size hsent =>
  split at h
  · cases h
  next frame hread =>
  split at h
  · cases h
  next hkind =>
  split at h
  · cases h
  next accept hdecode =>
  split at h
  · cases h
  next hvalid =>
  have hechoes : Echoes accept (helloFor env target request) := echoes_of_validateAccept rfl rfl hvalid
  split at h
  · cases h
  split at h
  · cases h
  obtain rfl := Except.ok.inj h
  exact ⟨⟨size, hsent⟩, ⟨frame, accept, hread, not_ne_iff.1 hkind, hdecode, hechoes⟩, rfl, rfl,
    congrArg some hechoes.codec, congrArg some hechoes.stream⟩

end ManagedTargetSession

/-! ### The receiver -/

/-- The receiver gets as far as answering `hello` with an `Accept`. -/
structure Accepts (format : WireFormat) (setup : SessionSetup) (reader : Reader)
    (hello : HelloMessage) : Prop where
  nodelay : setup.setNodelay = .ok ()
  readTimeout : setup.setReadTimeout = .ok ()
  frame : ∃ frame rest, readFrame reader = (.ok frame, rest) ∧ frame.kind = .hello ∧
    decodeMetadata format.hello frame = .ok hello
  valid : validateHello hello = .ok ()

theorem version_codec_of_validateHello {hello : HelloMessage} (h : validateHello hello = .ok ()) :
    hello.protocolVersion = STREAM_PROTOCOL_VERSION ∧ hello.desiredCodec = .rawPcm := by
  unfold validateHello at h
  split at h
  · cases h
  next hversion =>
  split at h
  · cases h
  split at h
  · cases h
  next hcodec => exact ⟨not_ne_iff.1 hversion, not_ne_iff.1 hcodec⟩

/-- **The answer to an accepted `Hello` passes the sender's check.** -/
theorem acceptFor_valid (args : SessionArgs) {hello : HelloMessage}
    (h : validateHello hello = .ok ()) :
    validateAccept (acceptFor args hello) hello.sessionId hello.stream = .ok () := by
  obtain ⟨hversion, hcodec⟩ := version_codec_of_validateHello h
  simp only [validateAccept, acceptFor, hversion, hcodec, ne_eq, not_true_eq_false, if_false]

section Handshake

variable {format : WireFormat} {args : SessionArgs} {setup : SessionSetup}
  {session after : ReceiverSession} {result : Except TransportError Unit} {hello : HelloMessage}

/-- What the receiver does with a `Hello` it accepts: it writes the `Accept`, and if that goes out it
hands the connection to the callback. -/
theorem handshake_of_accepts (hsession : session.emitted = [])
    (h : Accepts format setup session.reader hello)
    (hshake : handshake format args setup session = (result, after)) :
    after.writer = (writeMessage format.accept .accept (acceptFor args hello) [] session.writer).2 ∧
      ∀ connection, .connected connection ∈ after.emitted →
        connection = connectionFor args hello := by
  obtain ⟨frame, rest, hread, hkind, hdecode⟩ := h.frame
  simp only [handshake, h.nodelay, h.readTimeout, hread, hkind, hdecode, h.valid,
    ReceiverSession.send, ne_eq, not_true_eq_false, if_false] at hshake
  rcases hwrite : writeMessage format.accept .accept (acceptFor args hello) [] session.writer with
    ⟨error | size, writer⟩
  · rw [hwrite] at hshake
    obtain ⟨-, rfl⟩ := Prod.mk.inj hshake
    refine ⟨rfl, fun connection hmem ↦ ?_⟩
    rw [hsession] at hmem
    exact absurd hmem List.not_mem_nil
  rw [hwrite] at hshake
  rcases hanswer : setup.onConnected with error | ⟨⟩
  · simp only [ReceiverSession.emit, hanswer] at hshake
    obtain ⟨-, rfl⟩ := Prod.mk.inj hshake
    refine ⟨rfl, fun connection hmem ↦ ?_⟩
    rw [hsession] at hmem
    exact absurd hmem List.not_mem_nil
  · simp only [ReceiverSession.emit, hanswer, hsession, List.nil_append] at hshake
    obtain ⟨-, rfl⟩ := Prod.mk.inj hshake
    refine ⟨rfl, fun connection hmem ↦ ?_⟩
    exact ReceiverTransportEvent.connected.inj (List.mem_singleton.1 hmem)

/-- A handshake that succeeds has accepted a `Hello`. -/
theorem accepts_of_handshake (hshake : handshake format args setup session = (.ok (), after)) :
    ∃ hello, Accepts format setup session.reader hello := by
  unfold handshake at hshake
  split at hshake
  · cases hshake
  next hnodelay =>
  split at hshake
  · cases hshake
  next htimeout =>
  split at hshake
  · cases hshake
  next frame rest hread =>
  dsimp only at hshake
  split at hshake
  · split at hshake <;> cases hshake
  next hkind =>
  split at hshake
  · cases hshake
  next hello hdecode =>
  split at hshake
  · cases hshake
  next hvalid =>
    exact ⟨hello, hnodelay, htimeout, ⟨frame, rest, hread, not_ne_iff.1 hkind, hdecode⟩, hvalid⟩

end Handshake

/-- The streaming loop announces no connection. -/
theorem connected_of_streamingLoop {format : WireFormat} {inputs : ℕ → RoundInput}
    {session final : ReceiverSession} {result : Except TransportError Unit}
    (h : streamingLoop format inputs session = some (result, final))
    {connection : ReceiverConnectionInfo} (hmem : .connected connection ∈ final.emitted) :
    .connected connection ∈ session.emitted := by
  have hnew {before after : ReceiverSession} {events : List ReceiverTransportEvent}
      (hemitted : after.emitted = before.emitted ++ events)
      (hevents : .connected connection ∉ events)
      (hbefore : .connected connection ∈ before.emitted → .connected connection ∈ session.emitted)
      (hafter : .connected connection ∈ after.emitted) : .connected connection ∈ session.emitted := by
    rw [hemitted, List.mem_append, or_iff_left hevents] at hafter
    exact hbefore hafter
  have hstreamed {events : List ReceiverTransportEvent}
      (h : ∀ event ∈ events, event.isStreamed = true) : .connected connection ∉ events :=
    fun hmem ↦ Bool.false_ne_true (h _ hmem)
  refine @Loop.of_run _ _ (streamingBody format inputs)
    (fun state ↦ .connected connection ∈ state.2.emitted → .connected connection ∈ session.emitted)
    (fun ended ↦ .connected connection ∈ ended.2.emitted → .connected connection ∈ session.emitted)
    (fun before after hbefore hagain ↦ ?_) (fun before ended hbefore hdone ↦ ?_) _ _ _ id h hmem
  · obtain ⟨-, events, hevents, hemitted⟩ := streamingRound_again (streamingBody_again hagain).2
    exact hnew hemitted (hstreamed hevents) hbefore
  · obtain ⟨result, final⟩ := ended
    rcases streamingRound_done (streamingBody_done hdone) with
      ⟨-, last, hlast, hemitted⟩ | ⟨-, events, hevents, hemitted⟩
    · refine hnew hemitted (fun hmem ↦ ?_) hbefore
      rw [← List.mem_singleton.1 hmem] at hlast
      exact Bool.false_ne_true hlast
    · exact hnew hemitted (hstreamed hevents) hbefore

/-- A connection is announced for a `Hello` that was accepted, and says what that `Hello` said. -/
theorem accepts_of_connected {format : WireFormat} {args : SessionArgs} {setup : SessionSetup}
    {inputs : ℕ → RoundInput} {reader : Reader} {writer : Writer}
    {result : Except TransportError Unit} {final : ReceiverSession}
    (h : handleReceiverSession format args setup inputs reader writer = some (result, final))
    {connection : ReceiverConnectionInfo} (hmem : .connected connection ∈ final.emitted) :
    ∃ hello, Accepts format setup reader hello ∧ connection = connectionFor args hello := by
  unfold handleReceiverSession at h
  split at h
  next error started hshake =>
    obtain ⟨-, rfl⟩ := Prod.mk.inj (Option.some.inj h)
    rcases handshake_emitted format args setup rfl hshake with ⟨-, -, hnone⟩ | ⟨-, hok, -⟩
    · rw [hnone] at hmem
      exact absurd hmem List.not_mem_nil
    · cases hok
  next started hshake =>
    obtain ⟨hello, haccepts⟩ := accepts_of_handshake hshake
    exact ⟨hello, haccepts, (handshake_of_accepts rfl haccepts hshake).2 connection
      (connected_of_streamingLoop h hmem)⟩

/-! ### Both -/

/-- The bytes a source hands out are the first of these bytes. -/
def Reader.Delivers (reader : Reader) (written : List UInt8) : Prop :=
  ReadScript.symbols reader.items <+: written

/-- **The `Hello` that is accepted is the one that was sent.** -/
theorem hello_of_delivers {format : WireFormat} {setup : SessionSetup} {reader : Reader}
    {writer : Writer} {sent hello : HelloMessage} {size : ℕ} {later : List UInt8}
    (hjson : format.hello.RoundTrips) (hfresh : writer.written = [])
    (hsent : (writeMessage format.hello .hello sent [] writer).1 = .ok size)
    (hdelivers : reader.Delivers
      ((writeMessage format.hello .hello sent [] writer).2.written ++ later))
    (haccepts : Accepts format setup reader hello) : hello = sent := by
  obtain ⟨metadata, htoVec, hlim, hwritten⟩ := writeMessage_written (Prod.ext hsent rfl)
  obtain ⟨frame, rest, hread, -, hdecode⟩ := haccepts.frame
  rw [Reader.Delivers, hwritten, hfresh, List.nil_append] at hdelivers
  have hframe := congrArg FrameBody.metadata (readFrame_of_starts hlim hread hdelivers)
  dsimp only at hframe
  simp only [decodeMetadata, hframe, hjson sent metadata htoVec] at hdecode
  exact (Except.ok.inj hdecode).symm

/-- **The two ends agree.**

* Whatever a peer answers, `connect` opens a session only on an `Accept` of the `Hello` it sent, and
  the snapshot of the session says what was proposed.
* The `Accept` a receiver writes for a `Hello` it accepts passes the sender's check, and the
  connection it announces carries the session, the stream and the latency of that `Hello`.
* If the receiver reads what the sender wrote, then an open session and an announced connection are
  about the same session, stream, codec and latency. -/
theorem handshake_agreement :
    (∀ (secsF64 : SecsF64) (format : WireFormat) (env : ConnectEnv) (stream : TcpStream)
      (target : SenderTarget) (attemptCount : ℕ) (request : TargetConnectRequest)
      (session : ManagedTargetSession),
      ManagedTargetSession.connect secsF64 format env stream target attemptCount request =
        .ok session →
      ManagedTargetSession.Agreed format env
        (ManagedTargetSession.helloFor env target request) session) ∧
    (∀ (format : WireFormat) (args : SessionArgs) (setup : SessionSetup) (reader : Reader)
      (writer : Writer) (hello : HelloMessage), Accepts format setup reader hello →
      (handshake format args setup { reader, writer }).2.writer =
          (writeMessage format.accept .accept (acceptFor args hello) [] writer).2 ∧
        validateAccept (acceptFor args hello) hello.sessionId hello.stream = .ok () ∧
        ∀ (inputs : ℕ → RoundInput) (result : Except TransportError Unit) (final : ReceiverSession),
          handleReceiverSession format args setup inputs reader writer = some (result, final) →
          ∀ connection, .connected connection ∈ final.emitted →
            connection.sessionId = hello.sessionId ∧ connection.stream = hello.stream ∧
              connection.requestedLatencyMs = hello.targetLatencyMs) ∧
    (∀ (secsF64 : SecsF64) (format : WireFormat) (env : ConnectEnv) (stream : TcpStream)
      (target : SenderTarget) (attemptCount : ℕ) (request : TargetConnectRequest)
      (session : ManagedTargetSession) (args : SessionArgs) (setup : SessionSetup)
      (inputs : ℕ → RoundInput) (reader : Reader) (writer : Writer)
      (result : Except TransportError Unit) (final : ReceiverSession) (later : List UInt8),
      format.hello.RoundTrips → env.writer.written = [] →
      ManagedTargetSession.connect secsF64 format env stream target attemptCount request =
        .ok session →
      reader.Delivers ((writeMessage format.hello .hello
        (ManagedTargetSession.helloFor env target request) [] env.writer).2.written ++ later) →
      handleReceiverSession format args setup inputs reader writer = some (result, final) →
      ∀ connection, .connected connection ∈ final.emitted →
        session.snapshot.state = .streaming ∧
          session.snapshot.sessionId = some connection.sessionId ∧
          session.snapshot.stream = some connection.stream ∧
          connection.requestedLatencyMs = request.targetLatencyMs ∧
          ∃ hello, Accepts format setup reader hello ∧
            session.snapshot.codec = some (acceptFor args hello).codec) := by
  refine ⟨fun _ _ _ _ _ _ _ _ h ↦ ManagedTargetSession.connect_agrees h, ?_, ?_⟩
  · intro format args setup reader writer hello haccepts
    refine ⟨(handshake_of_accepts rfl haccepts rfl).1, acceptFor_valid args haccepts.valid, ?_⟩
    intro inputs result final hrun connection hmem
    obtain ⟨hello', haccepts', rfl⟩ := accepts_of_connected hrun hmem
    -- the first frame has one decoding
    obtain ⟨frame, rest, hread, -, hdecode⟩ := haccepts.frame
    obtain ⟨frame', rest', hread', -, hdecode'⟩ := haccepts'.frame
    obtain ⟨hframe, -⟩ := Prod.mk.inj (hread.symm.trans hread')
    obtain rfl := Except.ok.inj hframe
    obtain rfl := Except.ok.inj (hdecode.symm.trans hdecode')
    exact ⟨rfl, rfl, rfl⟩
  · intro secsF64 format env stream target attemptCount request session args setup inputs reader
      writer result final later hjson hfresh hconnect hdelivers hrun connection hmem
    have hagreed := ManagedTargetSession.connect_agrees hconnect
    obtain ⟨size, hsent⟩ := hagreed.sent
    obtain ⟨hello, haccepts, rfl⟩ := accepts_of_connected hrun hmem
    obtain rfl := hello_of_delivers hjson hfresh hsent hdelivers haccepts
    exact ⟨hagreed.state, hagreed.sessionId, hagreed.stream, rfl, _, haccepts, hagreed.codec⟩

/-- One sender and one receiver. -/
theorem handshake_agreement_sample :
    ∃ session result final connection,
      ManagedTargetSession.connect Sample.secsF64 Sample.senderFormat Sample.accepted ⟨0⟩
          (Sample.senderTarget 51700) 1 Sample.connectRequest = .ok session ∧
        handleReceiverSession Sample.senderFormat Sample.args Sample.setup Sample.calm
            (ReadScript.ofList (encodeFrame
              ⟨.hello, SerdeJson.asciiBytes Sample.senderHelloJson, []⟩)) .empty =
          some (result, final) ∧
        .connected connection ∈ final.emitted ∧
        session.snapshot.sessionId = some connection.sessionId ∧
        session.snapshot.stream = some connection.stream ∧
        connection.requestedLatencyMs = Sample.connectRequest.targetLatencyMs := by
  have hopened : (ManagedTargetSession.connect Sample.secsF64 Sample.senderFormat Sample.accepted ⟨0⟩
      (Sample.senderTarget 51700) 1 Sample.connectRequest).isOk = true := by decide +kernel
  have hemitted : (handleReceiverSession Sample.senderFormat Sample.args Sample.setup Sample.calm
      (ReadScript.ofList (encodeFrame
        ⟨.hello, SerdeJson.asciiBytes Sample.senderHelloJson, []⟩)) .empty).map
          (fun ended ↦ ended.2.emitted) =
      some [.connected (connectionFor Sample.args Sample.senderHello),
        .disconnected "sender disconnected unexpectedly" true] := by decide +kernel
  obtain ⟨⟨result, final⟩, hrun, hfinal⟩ := Option.map_eq_some_iff.1 hemitted
  have hmem : .connected (connectionFor Sample.args Sample.senderHello) ∈ final.emitted := by
    rw [show final.emitted = _ from hfinal]
    exact List.mem_cons_self
  rcases hconnect : ManagedTargetSession.connect Sample.secsF64 Sample.senderFormat Sample.accepted
      ⟨0⟩ (Sample.senderTarget 51700) 1 Sample.connectRequest with failure | session
  · rw [hconnect] at hopened
    cases hopened
  have hdelivers : Reader.Delivers
      (ReadScript.ofList (encodeFrame ⟨.hello, SerdeJson.asciiBytes Sample.senderHelloJson, []⟩))
      ((writeMessage Sample.senderFormat.hello .hello (ManagedTargetSession.helloFor Sample.accepted
        (Sample.senderTarget 51700) Sample.connectRequest) [] Sample.accepted.writer).2.written
          ++ []) := by
    rw [Reader.Delivers, Reader.items, ReadScript.items_ofList, ReadScript.symbols_map_inl]
    decide +kernel
  obtain ⟨-, hsession, hstream, hlatency, -⟩ := handshake_agreement.2.2 _ _ _ _ _ _ _ session _ _ _ _
    _ _ final [] (SerdeJson.single_roundTrips _ _) rfl hconnect hdelivers hrun _ hmem
  exact ⟨session, result, final, _, rfl, hrun, hmem, hsession, hstream, hlatency⟩

end SynchroSonic
