import SynchroSonic.Audio.Capture
import SynchroSonic.Core.Streaming
import SynchroSonic.Receiver.WorkerInvariant
import SynchroSonic.Transport.FrameStream

/-!
# What becomes of a captured frame

A payload leaves the capture loop, is framed by the sender, and is checked by the receiver against the
stream both sides agreed on. `Acceptable` is what these two ask of it.

The capture loop hands out whatever a call to the pipe returned, so a call that returns part of a frame
makes a payload the receiver refuses, and one that returns too much makes a payload the sender cannot
frame. `capture_acceptable_iff` says that these are the only ways to go wrong.
-/

namespace SynchroSonic

/-- What is asked of a payload downstream of the capture loop. -/
structure Acceptable (settings : CaptureSettings) (payload : List UInt8) : Prop where
  /-- The receiver counts its frames. -/
  counted : ∀ sequence capturedAtMs capturedAtUnixMs, ∃ count,
    ReceiverAudioPacket.frameCount ⟨sequence, capturedAtMs, capturedAtUnixMs, payload⟩
      (receiverStreamConfig settings) = .ok count
  /-- A worker with a connection for this stream does not go into `Error` over it. -/
  received : ∀ (env : HandlerEnv) (worker : ReceiverWorker) (connection : ReceiverConnectionInfo)
    (sequence capturedAtMs capturedAtUnixMs : UInt64), worker.Invariant →
    worker.connection = some connection → connection.stream = receiverStreamConfig settings →
    (worker.handlePacket env ⟨sequence, capturedAtMs, capturedAtUnixMs, payload⟩).state ≠ .error
  /-- The sender's framing takes it. -/
  framed : ∀ (metadata : List UInt8) (writer : Writer), metadata.length ≤ MAX_METADATA_BYTES →
    writer.Reliable → ∃ size writer', writeFrame .audio metadata payload writer = (.ok size, writer')

section Acceptable

variable {settings : CaptureSettings} {payload : List UInt8}

theorem Acceptable.dvd (hvalid : validateCaptureSettings settings = .ok ())
    (h : Acceptable settings payload) : settings.bytesPerFrame ∣ payload.length := by
  have hpos : 0 < (receiverStreamConfig settings).bytesPerFrame := settings.bytesPerFrame_pos hvalid
  obtain ⟨count, hcount⟩ := h.counted 0 0 0
  exact ((ReceiverAudioPacket.frameCount_eq_ok_iff hpos).1 hcount).1

theorem Acceptable.length_le (h : Acceptable settings payload) :
    payload.length ≤ MAX_PAYLOAD_BYTES := by
  obtain ⟨size, writer', hwrite⟩ := h.framed [] .empty (Nat.zero_le _) WriteScript.reliable_empty
  by_contra hlong
  have hfails := (writeFrame_fails_iff ⟨.audio, [], payload⟩ WriteScript.reliable_empty).2
    (Or.inr (by simpa using hlong))
  obtain ⟨error, writer'', hfails⟩ := hfails
  exact nomatch hfails.symm.trans hwrite

/-- A packet the worker can count leaves it in an active state. -/
theorem handlePacket_state_ne_error {env : HandlerEnv} {worker : ReceiverWorker}
    {connection : ReceiverConnectionInfo} {packet : ReceiverAudioPacket} {count : ℕ}
    (hinvariant : worker.Invariant) (hconnection : worker.connection = some connection)
    (hcount : packet.frameCount connection.stream = .ok count) :
    (worker.handlePacket env packet).state ≠ .error := by
  have hactive := (ReceiverWorker.handlePacket_invariant env packet hinvariant).active
  have hkept : (worker.handlePacket env packet).connection.isSome = true := by
    obtain ⟨outcome, buffer, hpush⟩ :=
      ReceiverPacketBuffer.push_of_frameCount hcount worker.buffer
    have hpush' : (worker.openSyncWindow (env.now 0) packet).buffer.push packet connection.stream =
        .ok (outcome, buffer) := hpush
    simp only [ReceiverWorker.handlePacket, hconnection, hcount, hpush',
      ReceiverWorker.settleStates]
    refine Eq.trans ?_ (congrArg Option.isSome hconnection)
    split
    · rfl
    · split <;> rfl
  intro herror
  rw [herror] at hactive
  cases hactive.2 hkept

theorem acceptable_of_dvd (hvalid : validateCaptureSettings settings = .ok ())
    (hdvd : settings.bytesPerFrame ∣ payload.length) (hlen : payload.length ≤ MAX_PAYLOAD_BYTES) :
    Acceptable settings payload := by
  have hpos : 0 < (receiverStreamConfig settings).bytesPerFrame := settings.bytesPerFrame_pos hvalid
  have hcounted (sequence capturedAtMs capturedAtUnixMs : UInt64) :
      ∃ count, ReceiverAudioPacket.frameCount ⟨sequence, capturedAtMs, capturedAtUnixMs, payload⟩
        (receiverStreamConfig settings) = .ok count :=
    ⟨_, (ReceiverAudioPacket.frameCount_eq_ok_iff hpos).2 ⟨hdvd, rfl⟩⟩
  refine ⟨hcounted, ?_, fun metadata writer hmetadata hreliable ↦ ?_⟩
  · intro env worker connection sequence capturedAtMs capturedAtUnixMs hinvariant hconnection hstream
    obtain ⟨count, hcount⟩ := hcounted sequence capturedAtMs capturedAtUnixMs
    exact handlePacket_state_ne_error hinvariant hconnection (hstream ▸ hcount)
  · obtain ⟨writer', hwrite, -, -⟩ :=
      @writeFrame_of_withinLimits ⟨.audio, metadata, payload⟩ writer ⟨hmetadata, hlen⟩ hreliable
    exact ⟨_, writer', hwrite⟩

end Acceptable

/-- **When everything the capture loop makes is acceptable.** Take settings that pass the check, and a
pipe whose calls return as much as they were asked for, or less. The loop ends, and all its payloads
are acceptable, whatever becomes of the frames, exactly when every call returned a whole number of
frames and no more than fits a packet. -/
theorem capture_acceptable_iff (settings : CaptureSettings) (pipe : CapturePipe)
    (hvalid : validateCaptureSettings settings = .ok ())
    (hwithin : pipe.Within settings.readBytes) :
    (∀ env, ∃ final, captureStdoutLoop settings env pipe = some final ∧
      ∀ frame ∈ final.frames, Acceptable settings frame.payload) ↔
    ∀ data ∈ pipe.arrivals,
      settings.bytesPerFrame ∣ data.length ∧ data.length ≤ MAX_PAYLOAD_BYTES := by
  have hpos := settings.payloadBytes_pos hvalid
  have hdvd := settings.bytesPerFrame_dvd_payloadBytes
  constructor
  · intro hall data hmem
    obtain ⟨final, hrun, hframes⟩ := hall ⟨fun _ ↦ 0, false, fun _ ↦ true⟩
    obtain ⟨final', hrun', -, hpayloads⟩ :=
      @captureStdoutLoop_frames settings ⟨fun _ ↦ 0, false, fun _ ↦ true⟩ hvalid pipe hwithin
    obtain rfl := Option.some.inj (hrun'.symm.trans hrun)
    have hpieces : ∀ piece ∈ pieces settings.payloadBytes data, Acceptable settings piece := by
      intro piece hpiece
      have hpayload : piece ∈ final'.frames.map AudioFrame.payload := by
        rw [hpayloads fun _ ↦ rfl]
        exact List.mem_flatMap.2 ⟨data, hmem, hpiece⟩
      obtain ⟨frame, hframe, rfl⟩ := List.mem_map.1 hpayload
      exact hframes frame hframe
    refine ⟨(dvd_length_pieces_iff hpos hdvd).1 fun piece hpiece ↦ (hpieces piece hpiece).dvd hvalid,
      ?_⟩
    -- a call goes past the buffer only if it is one payload; what goes through the buffer is short
    have hlen := hwithin data hmem
    rcases Nat.lt_or_ge settings.payloadBytes DEFAULT_BUF_SIZE with hsmall | hlarge
    · rw [CaptureSettings.readBytes, Nat.max_eq_left hsmall.le] at hlen
      exact hlen.trans (by decide)
    · rw [CaptureSettings.readBytes, Nat.max_eq_right hlarge] at hlen
      rcases eq_or_ne data [] with rfl | hdata
      · exact Nat.zero_le _
      · refine (hpieces data ?_).length_le
        rw [pieces_of_ne_nil hpos hdata, List.take_of_length_le hlen]
        exact List.mem_cons_self
  · intro hall env
    obtain ⟨final, hrun, ⟨rest, hpayloads⟩, -⟩ :=
      @captureStdoutLoop_frames settings env hvalid pipe hwithin
    refine ⟨final, hrun, fun frame hframe ↦ ?_⟩
    have hpayload : frame.payload ∈ pipe.arrivals.flatMap (pieces settings.payloadBytes) := by
      rw [← hpayloads]
      exact List.mem_append_left _ (List.mem_map_of_mem hframe)
    obtain ⟨data, hmem, hpiece⟩ := List.mem_flatMap.1 hpayload
    obtain ⟨hframes, hlen⟩ := hall data hmem
    exact acceptable_of_dvd hvalid ((dvd_length_pieces_iff hpos hdvd).2 hframes _ hpiece)
      ((length_le_of_mem_pieces hpiece).2.trans hlen)

/-- A pipe whose only call returns one frame. -/
theorem capture_acceptable_iff_one_frame :
    ∃ final, captureStdoutLoop {} ⟨fun _ ↦ 0, false, fun _ ↦ true⟩
        [.chunk [1, 2, 3, 4] (by simp)] = some final ∧
      ∀ frame ∈ final.frames, Acceptable {} frame.payload := by
  refine (capture_acceptable_iff {} [.chunk [1, 2, 3, 4] (by simp)] rfl ?_).2 ?_ _
  · simp [ReadScript.Within, CaptureSettings.readBytes, DEFAULT_BUF_SIZE]
  · simp [CaptureSettings.bytesPerFrame, AudioSampleFormat.bytesPerSample, MAX_PAYLOAD_BYTES]

/-- **A short read makes a payload the receiver refuses.** With the default settings a frame has four
bytes; a call to the pipe returns three. -/
theorem short_read_not_acceptable :
    validateCaptureSettings {} = .ok () ∧
      ReadScript.Within (CaptureSettings.readBytes {}) ([.chunk [1, 2, 3] (by simp)] : CapturePipe) ∧
      ∃ final, captureStdoutLoop {} ⟨fun _ ↦ 0, false, fun _ ↦ true⟩
          [.chunk [1, 2, 3] (by simp)] = some final ∧
        ∃ frame ∈ final.frames, frame.payload = [1, 2, 3] ∧ ¬ Acceptable {} frame.payload := by
  refine ⟨rfl, ?_, _, rfl, _, List.mem_singleton_self _, rfl, fun h ↦ ?_⟩
  · simp [ReadScript.Within, CaptureSettings.readBytes, DEFAULT_BUF_SIZE]
  obtain ⟨count, hcount⟩ := h.counted 0 0 0
  cases hcount

end SynchroSonic
