import SynchroSonic.Transport.SenderSpeech

/-!
# What a session counts of what it sends

The writer thread writes a message and reports it; the report waits in a channel until the next tick
books it in the snapshot. `owed` is what the snapshot says together with what the reports on their way
will add, and `Booked` compares it with what has been said: all of it, except for a last message whose
write failed, or whose report nobody took, and that ended the thread.
-/

namespace SynchroSonic

/-- What a session counts of what it sends. -/
inductive SentCounter
  | bytes
  | packets
  | keepalives
  deriving DecidableEq, Repr

/-- The counter of a snapshot. -/
def StreamMetrics.sent (metrics : StreamMetrics) : SentCounter → ℕ
  | .bytes => metrics.bytesSent
  | .packets => metrics.packetsSent
  | .keepalives => metrics.keepalivesSent

/-- What a report adds. -/
def NetworkEvent.counts : NetworkEvent → SentCounter → ℕ
  | .audioSent wireBytes, .bytes | .heartbeatSent wireBytes, .bytes | .stopSent wireBytes, .bytes =>
    wireBytes
  | .audioSent _, .packets | .heartbeatSent _, .keepalives => 1
  | _, _ => 0

/-- What a message amounts to, written in full. -/
def SenderMessage.counts (format : WireFormat) (message : SenderMessage) : SentCounter → ℕ
  | .bytes => (encodeFrames (message.frame? format).toList).length
  | .packets => message.audio?.toList.length
  | .keepalives => message.nonce?.toList.length

/-! ### Reports are booked -/

namespace ManagedTargetSession

/-- The counters of the snapshot. -/
def sent (session : ManagedTargetSession) : SentCounter → ℕ := session.snapshot.metrics.sent

/-- What is received is not counted as sent. -/
theorem sent_handleInbound (now : Instant) (session : ManagedTargetSession)
    (inbound : InboundControl) : (session.handleInbound now inbound).sent = session.sent := by
  funext counter
  cases inbound with
  | heartbeatAck nonce wireBytes =>
    rw [handleInbound]
    dsimp only
    split
    · cases counter <;> rfl
    · cases counter <;> rfl
  | _ => cases counter <;> rfl

/-- A report is counted when it is taken. -/
theorem sent_handleNetworkEvent (now : Instant) (session : ManagedTargetSession)
    (event : NetworkEvent) (counter : SentCounter) :
    (session.handleNetworkEvent now event).sent counter =
      session.sent counter + event.counts counter := by
  cases event <;> cases counter <;> rfl

/-- The health counts nothing. -/
theorem sent_refreshHealth (session : ManagedTargetSession) :
    session.refreshHealth.sent = session.sent := by
  rw [refreshHealth]
  split
  · rfl
  · rfl

/-- A heartbeat is counted when its report comes back, and not before. -/
theorem sent_heartbeat (heartbeatInterval : Duration) (writerListens : Bool)
    (checkedAt sentAt rearmedAt : Instant) (session : ManagedTargetSession) :
    (session.heartbeat heartbeatInterval writerListens checkedAt sentAt rearmedAt).sent =
      session.sent := by
  rw [heartbeat]
  split
  · dsimp only
    split
    · rfl
    · rfl
  · rfl

/-- **A tick books every report** it finds, and nothing else. -/
theorem sent_tick (heartbeatInterval : Duration) (env : TickEnv) (session : ManagedTargetSession)
    (counter : SentCounter) :
    (session.tick heartbeatInterval env).2.sent counter =
      session.sent counter + (env.events.map (NetworkEvent.counts · counter)).sum := by
  have hinbound (items : List (InboundControl × ℕ)) (session : ManagedTargetSession) :
      (items.foldl (fun session item ↦ session.handleInbound (env.now item.2) item.1) session).sent =
        session.sent := by
    induction items generalizing session with
    | nil => rfl
    | cons item items ih => exact (ih _).trans (sent_handleInbound _ session item.1)
  have hevents (items : List (NetworkEvent × ℕ)) (session : ManagedTargetSession) :
      (items.foldl (fun session item ↦ session.handleNetworkEvent
          (env.now (env.inbound.length + item.2)) item.1) session).sent counter =
        session.sent counter + ((items.map Prod.fst).map (NetworkEvent.counts · counter)).sum := by
    induction items generalizing session with
    | nil => rfl
    | cons item items ih =>
      rw [List.foldl_cons, ih, sent_handleNetworkEvent, List.map_cons, List.map_cons, List.sum_cons,
        Nat.add_assoc]
  have hconsume (session : ManagedTargetSession) :
      (session.consume env.consumed).refreshBuffer.refreshHealth.sent = session.sent :=
    sent_refreshHealth _
  unfold tick
  dsimp only
  rw [hconsume, sent_heartbeat, hevents, hinbound, List.zipIdx_map_fst]

/-- Nor is a frame that is queued. -/
theorem sent_pushFrame (env : QueueEnv) (frame : FanoutAudioFrame) (session : ManagedTargetSession) :
    (session.pushFrame env frame).2.sent = session.sent := by
  rw [pushFrame]
  rcases session.networkBranch.push env frame with ⟨error | outcome, networkBranch⟩
  · rfl
  · exact sent_refreshHealth _

end ManagedTargetSession

/-! ### A message is written and reported -/

/-- A frame that is written counts its own bytes. -/
theorem writeFrame_ok {body : FrameBody} {writer writer' : Writer} {size : ℕ}
    (h : writeFrame body.kind body.metadata body.payload writer = (.ok size, writer')) :
    size = (encodeFrame body).length := by
  unfold writeFrame at h
  split at h
  · cases h
  split at h
  · cases h
  dsimp only at h
  split at h
  · cases h
  · obtain ⟨hsize, -⟩ := Prod.mk.inj h
    rw [← Except.ok.inj hsize, length_encodeFrame, length_encodeHeader]

/-- A message that was written is on the socket, and its size is that of its frame. -/
theorem writeMessage_ok {T : Type} {json : SerdeJson T} {kind : FrameKind} {message : T}
    {payload : List UInt8} {writer writer' : Writer} {size : ℕ}
    (h : writeMessage json kind message payload writer = (.ok size, writer')) :
    writer'.written = writer.written ++ encodeFrames (json.frame? kind message payload).toList ∧
      size = (encodeFrames (json.frame? kind message payload).toList).length := by
  obtain ⟨metadata, htoVec, hwithin, hwritten⟩ := writeMessage_written h
  have hframe : json.frame? kind message payload = some ⟨kind, metadata, payload⟩ := by
    simp only [SerdeJson.frame?, htoVec, if_pos hwithin]
  have hbytes : encodeFrames [(⟨kind, metadata, payload⟩ : FrameBody)] =
      encodeFrame ⟨kind, metadata, payload⟩ := List.append_nil _
  rw [writeMessage, htoVec] at h
  rw [hframe, Option.toList_some, hbytes]
  exact ⟨hwritten, writeFrame_ok h⟩

/-- What is on a socket stays there. -/
theorem writeMessage_grows {T : Type} (json : SerdeJson T) (kind : FrameKind) (message : T)
    (payload : List UInt8) (writer : Writer) :
    writer.written <+: (writeMessage json kind message payload writer).2.written := by
  unfold writeMessage
  split
  · exact List.prefix_rfl
  next metadata htoVec =>
    rcases hwrite : writeFrame kind metadata payload writer with ⟨result, writer'⟩
    obtain ⟨sent, hwritten, -⟩ := @writeFrame_written ⟨kind, metadata, payload⟩ _ _ _ hwrite
    rw [hwritten]
    exact List.prefix_append _ _

namespace SenderMessage

variable {format : WireFormat} {message : SenderMessage} {socket socket' : Writer} {size : ℕ}

/-- A message that is written is on the socket in full, and counted so. -/
theorem write_ok (h : message.write format socket = (.ok size, socket')) :
    socket'.written = socket.written ++ encodeFrames (message.frame? format).toList ∧
      size = message.counts format .bytes := by
  cases message with
  | audio frame => exact writeMessage_ok h
  | heartbeat nonce => exact writeMessage_ok h
  | stop reason => exact writeMessage_ok h

/-- A write that fails may leave a part of the frame behind. -/
theorem write_grows (format : WireFormat) (message : SenderMessage) (socket : Writer) :
    socket.written <+: (message.write format socket).2.written := by
  cases message with
  | audio frame => exact writeMessage_grows _ _ _ _ _
  | heartbeat nonce => exact writeMessage_grows _ _ _ _ _
  | stop reason => exact writeMessage_grows _ _ _ _ _

theorem filterMap_singleton (message : SenderMessage) :
    [message].filterMap (frame? format) = (message.frame? format).toList := by
  rcases hframe : message.frame? format with - | frame
  · rw [List.filterMap_cons_none hframe]
    rfl
  · rw [List.filterMap_cons_some hframe]
    rfl

/-- A report adds what the message amounts to. -/
theorem counts_report (h : size = message.counts format .bytes) (counter : SentCounter) :
    (message.report size).counts counter = message.counts format counter := by
  subst h
  cases message <;> cases counter <;> rfl

end SenderMessage

namespace NetworkWriter

/-- What the reports on their way will add. -/
def pending (writer : NetworkWriter) (counter : SentCounter) : ℕ :=
  (writer.events.map (NetworkEvent.counts · counter)).sum

theorem sum_concat (events : List NetworkEvent) (event : NetworkEvent) (counter : SentCounter) :
    ((events ++ [event]).map (NetworkEvent.counts · counter)).sum =
      (events.map (NetworkEvent.counts · counter)).sum + event.counts counter := by
  rw [List.map_append, List.sum_append, List.map_singleton, List.sum_singleton]

/-- **A message is on the socket and reported, or it is the last** and not reported. -/
theorem say_reports (format : WireFormat) (heard : Bool) (message : SenderMessage)
    (writer : NetworkWriter) :
    ((writer.say format heard message).socket.written =
          writer.socket.written ++ encodeFrames (message.frame? format).toList ∧
        ∀ counter, (writer.say format heard message).pending counter =
          writer.pending counter + message.counts format counter) ∨
      ((writer.say format heard message).phase = .ended ∧
        writer.socket.written <+: (writer.say format heard message).socket.written ∧
        ∀ counter, (writer.say format heard message).pending counter = writer.pending counter) := by
  have hgrows := message.write_grows format writer.socket
  rw [say]
  rcases hwrite : message.write format writer.socket with ⟨error | wireBytes, socket⟩
  · rw [hwrite] at hgrows
    refine Or.inr ⟨rfl, hgrows, fun counter ↦ ?_⟩
    cases heard with
    | false => rfl
    | true => exact sum_concat writer.events (.error error.display) counter
  · rw [hwrite] at hgrows
    obtain ⟨hwritten, hsize⟩ := SenderMessage.write_ok hwrite
    cases heard with
    | false => exact Or.inr ⟨rfl, hgrows, fun counter ↦ rfl⟩
    | true =>
      refine Or.inl ⟨hwritten, fun counter ↦ ?_⟩
      rw [← SenderMessage.counts_report hsize counter]
      exact sum_concat writer.events (message.report wireBytes) counter

end NetworkWriter

/-! ### The books of a session -/

namespace VoicedSession

variable {format : WireFormat} {voiced next : VoicedSession} {first : List UInt8}

/-- What the snapshot will say when the reports on their way are booked. -/
def owed (voiced : VoicedSession) (counter : SentCounter) : ℕ :=
  voiced.session.sent counter + voiced.writer.pending counter

/-- **A step says one message, or it is silent** and leaves the books as they are. -/
theorem step_says {input : VoicedInput} (h : voiced.step format input = some next) :
    (∃ heard message, voiced.writer.phase ≠ .ended ∧
        next.writer = voiced.writer.say format heard message ∧
        next.said = voiced.said ++ [message] ∧ next.session.sent = voiced.session.sent) ∨
      (next.said = voiced.said ∧ next.writer.socket = voiced.writer.socket ∧
        (next.writer.phase ≠ .ended → voiced.writer.phase ≠ .ended) ∧
        ∀ counter, next.owed counter = voiced.owed counter) := by
  cases input with
  | tick heartbeatInterval env =>
    simp only [step] at h
    split at h
    · cases h
    obtain rfl := Option.some.inj h
    refine Or.inr ⟨rfl, rfl, id, fun counter ↦ ?_⟩
    rw [owed, ManagedTargetSession.sent_tick]
    rfl
  | pushFrame env frame =>
    simp only [step] at h
    split at h
    · cases h
    obtain rfl := Option.some.inj h
    refine Or.inr ⟨rfl, rfl, id, fun counter ↦ ?_⟩
    rw [owed, ManagedTargetSession.sent_pushFrame]
    rfl
  | stop reason =>
    simp only [step] at h
    split at h
    · cases h
    obtain rfl := Option.some.inj h
    exact Or.inr ⟨rfl, rfl, id, fun _ ↦ rfl⟩
  | shutdown =>
    simp only [step] at h
    split at h
    · cases h
    obtain rfl := Option.some.inj h
    exact Or.inr ⟨rfl, rfl, id, fun _ ↦ rfl⟩
  | control heard =>
    simp only [step] at h
    split at h
    next control controls hcontrols =>
      split at h
      next hphase =>
        obtain rfl := Option.some.inj h
        have hrunning : voiced.writer.phase ≠ .ended := hphase ▸ WriterPhase.noConfusion
        cases control with
        | heartbeat nonce => exact Or.inl ⟨heard, .heartbeat nonce, hrunning, rfl, rfl, rfl⟩
        | stop reason => exact Or.inl ⟨heard, .stop reason, hrunning, rfl, rfl, rfl⟩
        | shutdown => exact Or.inr ⟨rfl, rfl, fun _ ↦ hrunning, fun _ ↦ rfl⟩
      · cases h
    · cases h
  | noControl =>
    simp only [step] at h
    split at h
    next hphase =>
      obtain rfl := Option.some.inj h
      exact Or.inr ⟨rfl, rfl, fun _ ↦ hphase.1 ▸ WriterPhase.noConfusion, fun _ ↦ rfl⟩
    · cases h
  | frame heard =>
    simp only [step] at h
    split at h
    next hphase =>
      have hrunning : voiced.writer.phase ≠ .ended := hphase ▸ WriterPhase.noConfusion
      split at h
      next frame hand hhand =>
        obtain rfl := Option.some.inj h
        exact Or.inl ⟨heard, .audio frame, hrunning, rfl, rfl, rfl⟩
      next frame items hhand hitems =>
        obtain rfl := Option.some.inj h
        exact Or.inl ⟨heard, .audio frame, hrunning, rfl, rfl, rfl⟩
      · cases h
    · cases h
  | noFrame =>
    simp only [step] at h
    split at h
    next hphase =>
      obtain rfl := Option.some.inj h
      exact Or.inr ⟨rfl, rfl, fun _ ↦ hphase ▸ WriterPhase.noConfusion, fun _ ↦ rfl⟩
    · cases h
  | disconnected =>
    simp only [step] at h
    split at h
    next hphase =>
      obtain rfl := Option.some.inj h
      exact Or.inr ⟨rfl, rfl, fun _ ↦ hphase ▸ WriterPhase.noConfusion, fun _ ↦ rfl⟩
    · cases h

/-- What `messages` amount to, behind a first message that counts bytes only. -/
def total (format : WireFormat) (first : List UInt8) (messages : List SenderMessage)
    (counter : SentCounter) : ℕ :=
  (if counter = .bytes then first.length else 0) +
    (messages.map (SenderMessage.counts format · counter)).sum

/-- One message more counts its own. -/
theorem total_concat (format : WireFormat) (first : List UInt8) (messages : List SenderMessage)
    (message : SenderMessage) (counter : SentCounter) :
    total format first (messages ++ [message]) counter =
      total format first messages counter + message.counts format counter := by
  rw [total, total, List.map_append, List.sum_append, List.map_singleton, List.sum_singleton,
    Nat.add_assoc]

/-- The bytes that are counted are the bytes of the encodings. -/
theorem total_bytes (format : WireFormat) (first : List UInt8) (messages : List SenderMessage) :
    total format first messages .bytes =
      (first ++ encodeFrames (messages.filterMap (SenderMessage.frame? format))).length := by
  induction messages using List.reverseRecOn with
  | nil => exact (congrArg List.length (List.append_nil first)).symm
  | append_singleton messages message ih =>
    rw [total_concat, ih, List.filterMap_append, encodeFrames_append, ← List.append_assoc,
      message.filterMap_singleton, SenderMessage.counts, ← List.length_append]

/-- What has been said is booked, but for a last message that ended the thread. -/
structure Booked (format : WireFormat) (first : List UInt8) (voiced : VoicedSession)
    (booked lost : List SenderMessage) : Prop where
  said : voiced.said = booked ++ lost
  atMostOne : lost.length ≤ 1
  running : voiced.writer.phase ≠ .ended → lost = []
  owed : ∀ counter, voiced.owed counter = total format first booked counter
  onSocket : first ++ encodeFrames (booked.filterMap (SenderMessage.frame? format)) <+:
    voiced.writer.socket.written

/-- **Every step keeps the books**: what is said and reported is counted or in the channel. -/
theorem booked_step {before : Writer} {hello : List FrameBody} {input : VoicedInput}
    {booked lost : List SenderMessage} (hspeaks : voiced.Speaks format before hello)
    (hfresh : before.written = [])
    (h : voiced.Booked format (encodeFrames hello) booked lost)
    (hstep : voiced.step format input = some next) :
    ∃ booked lost, next.Booked format (encodeFrames hello) booked lost := by
  rcases step_says hstep with ⟨heard, message, hrunning, hwriter, hsaid, hsent⟩ |
    ⟨hsaid, hsocket, hphase, howed⟩
  · obtain rfl := h.running hrunning
    have hall : voiced.said = booked := h.said.trans (List.append_nil booked)
    have hwritten := hspeaks.wrote.all (Or.inl hrunning)
    rw [hfresh, List.nil_append, bodies, hall, encodeFrames_append] at hwritten
    rcases voiced.writer.say_reports format heard message with ⟨hsocket, hpending⟩ |
      ⟨hended, hgrows, hpending⟩
    · refine ⟨booked ++ [message], [], by rw [hsaid, hall, List.append_nil], Nat.zero_le 1,
        fun _ ↦ rfl, fun counter ↦ ?_, ?_⟩
      · rw [VoicedSession.owed, hsent, hwriter, hpending, ← Nat.add_assoc, total_concat,
          ← h.owed counter, VoicedSession.owed]
      · rw [hwriter, hsocket, hwritten, List.filterMap_append, encodeFrames_append,
          List.append_assoc]
        exact (List.prefix_append_right_inj _).2 ((List.prefix_append_right_inj _).2
          (message.filterMap_singleton ▸ List.prefix_rfl))
    · refine ⟨booked, [message], by rw [hsaid, hall], Nat.le_refl 1,
        fun hnext ↦ absurd (hwriter ▸ hended) hnext, fun counter ↦ ?_, ?_⟩
      · rw [VoicedSession.owed, hsent, hwriter, hpending, ← h.owed counter, VoicedSession.owed]
      · rw [hwriter]
        exact h.onSocket.trans hgrows
  · exact ⟨booked, lost, hsaid.trans h.said, h.atMostOne, fun hnext ↦ h.running (hphase hnext),
      fun counter ↦ (howed counter).trans (h.owed counter), hsocket ▸ h.onSocket⟩

end VoicedSession

/-- A session opens with its `Hello` counted. -/
theorem ManagedTargetSession.sent_connect {secsF64 : SecsF64} {format : WireFormat} {env : ConnectEnv}
    {stream : TcpStream} {target : SenderTarget} {attemptCount : ℕ} {request : TargetConnectRequest}
    {session : ManagedTargetSession}
    (h : connect secsF64 format env stream target attemptCount request = .ok session)
    (counter : SentCounter) :
    session.sent counter = VoicedSession.total format
      (encodeFrames (VoicedSession.helloFrame format env target request)) [] counter := by
  obtain ⟨size, hsent⟩ := (connect_agrees h).sent
  have hsize := (writeMessage_ok (Prod.ext hsent rfl : writeMessage format.hello .hello
    (helloFor env target request) [] env.writer = (.ok size, _))).2
  unfold connect at h
  dsimp only at h
  split at h
  · cases h
  split at h
  · cases h
  split at h
  · cases h
  split at h
  · cases h
  next size' hsent' =>
  obtain rfl : size = size' := Except.ok.inj (hsent.symm.trans hsent')
  split at h
  · cases h
  split at h
  · cases h
  split at h
  · cases h
  split at h
  · cases h
  split at h
  · cases h
  split at h
  · cases h
  obtain rfl := Except.ok.inj h
  rw [VoicedSession.total, VoicedSession.helloFrame, ← hsize]
  cases counter with
  | bytes => exact Nat.add_comm 0 size
  | packets => rfl
  | keepalives => rfl

namespace Sample

/-- A heartbeat, and a frame whose report nobody takes. -/
def unheardSteps : List VoicedInput :=
  [.tick 0 { now := fun _ ↦ 0 }, .control true, .noControl, .pushFrame {} ⟨0, 10, 20, [1, 2, 3, 4]⟩,
    .frame false]

end Sample

namespace VoicedSession

variable {secsF64 : SecsF64} {format : WireFormat} {env : ConnectEnv} {stream : TcpStream}
  {target : SenderTarget} {attemptCount : ℕ} {request : TargetConnectRequest}
  {session : ManagedTargetSession} {inputs : List VoicedInput} {voiced : VoicedSession}

/-- **The books of a session**, at any time. Let `booked` be what has been said, without a last message
that ended the thread and got no report; while the thread runs there is no such message. The counters of
the snapshot and of the reports on their way are those of the `Hello` and of `booked`, which the socket
has in full; and the socket has nothing but the `Hello` and what has been said. So while the thread runs
the bytes counted are the bytes on the socket. -/
theorem sent_counters
    (hconnect : ManagedTargetSession.connect secsF64 format env stream target attemptCount request =
      .ok session)
    (hfresh : env.writer.written = [])
    (hrun : Transition.run (step format) (start format env target request session) inputs =
      some voiced) :
    ∃ booked lost,
      voiced.Booked format (encodeFrames (helloFrame format env target request)) booked lost ∧
      voiced.writer.socket.written <+:
        encodeFrames (helloFrame format env target request ++ voiced.bodies format) ∧
      (voiced.writer.phase ≠ .ended → voiced.owed .bytes = voiced.writer.socket.written.length) := by
  have hinvariant := Transition.run_invariant
    (I := fun voiced ↦ voiced.Speaks format env.writer (helloFrame format env target request) ∧
      ∃ booked lost, voiced.Booked format (encodeFrames (helloFrame format env target request))
        booked lost)
    (fun before input next ⟨hspeaks, booked, lost, hbooked⟩ hstep ↦
      ⟨speaks_step hspeaks hstep, booked_step hspeaks hfresh hbooked hstep⟩)
    ⟨speaks_start hconnect, [], [], rfl, Nat.zero_le 1, fun _ ↦ rfl, ?_, ?_⟩ hrun
  · obtain ⟨hspeaks, booked, lost, hbooked⟩ := hinvariant
    have hcut := hspeaks.wrote.cut
    rw [hfresh, List.nil_append] at hcut
    refine ⟨booked, lost, hbooked, hcut, fun hrunning ↦ ?_⟩
    obtain rfl := hbooked.running hrunning
    rw [hbooked.owed, total_bytes]
    refine Nat.le_antisymm hbooked.onSocket.length_le (hcut.length_le.trans_eq ?_)
    rw [bodies, hbooked.said, List.append_nil, encodeFrames_append]
  · exact ManagedTargetSession.sent_connect hconnect
  · have hwrote := (speaks_start hconnect).wrote.all (Or.inl WriterPhase.noConfusion)
    rw [hfresh, List.nil_append, bodies, encodeFrames_append] at hwrote
    rw [hwrote]
    exact List.prefix_rfl

/-- A frame that is written and whose report nobody takes. -/
theorem sent_counters_unheard :
    ∃ session voiced,
      ManagedTargetSession.connect Sample.secsF64 Sample.senderFormat Sample.accepted ⟨0⟩
          (Sample.senderTarget 51700) 1 Sample.connectRequest = .ok session ∧
        Transition.run (step Sample.senderFormat)
          (start Sample.senderFormat Sample.accepted (Sample.senderTarget 51700)
            Sample.connectRequest session) Sample.unheardSteps = some voiced ∧
        voiced.said = [.heartbeat 1, .audio ⟨0, 10, 20, [1, 2, 3, 4]⟩] ∧
        ∃ booked lost,
          voiced.Booked Sample.senderFormat (encodeFrames (helloFrame Sample.senderFormat
            Sample.accepted (Sample.senderTarget 51700) Sample.connectRequest)) booked lost := by
  have hsender : ((ManagedTargetSession.connect Sample.secsF64 Sample.senderFormat Sample.accepted ⟨0⟩
      (Sample.senderTarget 51700) 1 Sample.connectRequest).toOption.bind fun session ↦
        Transition.run (step Sample.senderFormat)
          (start Sample.senderFormat Sample.accepted (Sample.senderTarget 51700)
            Sample.connectRequest session) Sample.unheardSteps).map (fun voiced ↦ voiced.said) =
      some [.heartbeat 1, .audio ⟨0, 10, 20, [1, 2, 3, 4]⟩] := by decide +kernel
  obtain ⟨voiced, hvoiced, hsaid⟩ := Option.map_eq_some_iff.1 hsender
  obtain ⟨session, hsession, hrun⟩ := Option.bind_eq_some_iff.1 hvoiced
  rcases hconnect : ManagedTargetSession.connect Sample.secsF64 Sample.senderFormat Sample.accepted
      ⟨0⟩ (Sample.senderTarget 51700) 1 Sample.connectRequest with failure | opened
  · rw [hconnect] at hsession
    cases hsession
  rw [hconnect] at hsession
  obtain rfl := Option.some.inj hsession
  obtain ⟨booked, lost, hbooked, -⟩ := sent_counters hconnect rfl hrun
  exact ⟨opened, voiced, rfl, hrun, hsaid, booked, lost, hbooked⟩

end VoicedSession

end SynchroSonic
