import SynchroSonic.Receiver.BufferCeiling
import SynchroSonic.Receiver.PacketLedger

/-!
# The arithmetic of the buffer

The values a receiver reports about its buffer are computed in machine words: counts are cut to 32 bits,
the frames times a thousand saturate, and the milliseconds are read as a signed word to compare them with
the target. On a stream the playback engine takes, all of this comes out as if the words had no end.

The bound is on the capacity. It grows with the sample rate, since shorter packets are needed to fill the
same time, and with rounding: the nanoseconds of a packet may be half of what they should be. Still a
buffer never holds more packets than twice the frames of a second (`packetCountForDuration_le_rate`), so
that packets of any size the protocol carries add up to a bounded number of milliseconds.
-/

namespace SynchroSonic

open ReceiverPacketBuffer

/-! ### What the playback engine takes -/

/-- `validate_playback_request`. -/
def validatePlaybackRequest (request : PlaybackStartRequest) : Except AudioError Unit :=
  if request.stream.sampleRateHz = 0 then
    .error (.invalidSettings "sample_rate_hz must be greater than zero")
  else if request.stream.channels = 0 then
    .error (.invalidSettings "channels must be greater than zero")
  else if request.stream.framesPerPacket = 0 then
    .error (.invalidSettings "frames_per_packet must be greater than zero")
  else .ok ()

/-- The stream passes `validate_playback_request`. -/
structure ReceiverStreamConfig.Admitted (stream : ReceiverStreamConfig) : Prop where
  sampleRateHz : stream.sampleRateHz ≠ 0
  channels : stream.channels ≠ 0
  framesPerPacket : stream.framesPerPacket ≠ 0

/-- The engine takes a stream exactly if it is admitted. -/
theorem validatePlaybackRequest_eq_ok_iff {request : PlaybackStartRequest} :
    validatePlaybackRequest request = .ok () ↔ request.stream.Admitted := by
  unfold validatePlaybackRequest
  constructor
  · intro h
    split at h
    · cases h
    next hrate =>
    split at h
    · cases h
    next hchannels =>
    split at h
    · cases h
    next hframes => exact ⟨hrate, hchannels, hframes⟩
  · intro h
    rw [if_neg h.sampleRateHz, if_neg h.channels, if_neg h.framesPerPacket]

/-- The playback engine starts no stream that `validate_playback_request` refuses. -/
def HandlerEnv.Validates (env : HandlerEnv) : Prop :=
  ∀ request sink, env.startStream request = .ok sink → validatePlaybackRequest request = .ok ()

/-- `from_secs_f64` of a quotient of two 32-bit words is within a nanosecond of the exact one. -/
def SecsF64.Accurate (secsF64 : SecsF64) : Prop :=
  ∀ frames rate, frames < 2 ^ 32 → 0 < rate → rate < 2 ^ 32 →
    secsF64 frames rate * rate ≤ frames * 1000000000 + rate ∧
      frames * 1000000000 ≤ secsF64 frames rate * rate + rate

/-! ### The capacity -/

/-- Packets that last at all are at most as many as there are nanoseconds to fill. -/
theorem packetCountForDuration_le {target packetDuration : ℕ} :
    packetCountForDuration target packetDuration ≤ max target 1 := by
  unfold packetCountForDuration
  split
  · exact le_max_right target 1
  next hpositive =>
  have hpositive : 0 < packetDuration := Nat.pos_of_ne_zero hpositive
  refine (min_le_left _ _).trans ?_
  show (max target 1 + packetDuration - 1) / packetDuration ≤ _
  rw [Nat.div_le_iff_le_mul_add_pred hpositive]
  have hmul := Nat.mul_le_mul_right (max target 1) hpositive
  omega

/-- **The capacity grows no faster than the sample rate.** Filling half a second takes at most as many
packets as there are frames in two seconds, even if a nanosecond of each packet is lost to rounding. -/
theorem packetCountForDuration_le_rate {target packetDuration frames rate : ℕ}
    (htarget : target ≤ 500000000) (hrate : 0 < rate) (hframes : 0 < frames)
    (haccurate : frames * 1000000000 ≤ packetDuration * rate + rate) :
    packetCountForDuration target packetDuration ≤ 2 * rate := by
  unfold packetCountForDuration
  split
  · omega
  next hpositive =>
  have hpositive : 0 < packetDuration := Nat.pos_of_ne_zero hpositive
  refine (min_le_left _ _).trans ?_
  show (max target 1 + packetDuration - 1) / packetDuration ≤ _
  generalize hcount : (max target 1 + packetDuration - 1) / packetDuration = count
  -- One packet is within the bound; with two or more, a packet is shorter than the target.
  rcases Nat.lt_or_ge count 2 with hone | htwo
  · omega
  have hfill : count * packetDuration ≤ max target 1 + packetDuration - 1 := by
    rw [← hcount]
    exact Nat.div_mul_le_self _ _
  have htwice : count * packetDuration ≤ 1000000000 := by
    have hmul := Nat.mul_le_mul_right packetDuration htwo
    omega
  have hsecond : 1000000000 ≤ 2 * (packetDuration * rate) := by
    have hmul := Nat.mul_le_mul_right rate hpositive
    omega
  have hproduct : count * 1000000000 ≤ 2 * rate * 1000000000 :=
    calc count * 1000000000 ≤ count * (2 * (packetDuration * rate)) := Nat.mul_le_mul_left count hsecond
      _ = 2 * rate * (count * packetDuration) := by ring
      _ ≤ 2 * rate * 1000000000 := Nat.mul_le_mul_left (2 * rate) htwice
  exact Nat.le_of_mul_le_mul_right hproduct (by norm_num)

/-- The times of a preset, in nanoseconds. -/
theorem ReceiverLatencyPreset.fromMillis_le (preset : ReceiverLatencyPreset) :
    Duration.fromMillis preset.profile.targetBufferMs.toNat ≤ 340000000 ∧
      Duration.fromMillis preset.profile.maxBufferMs.toNat ≤ 340000000 := by
  cases preset <;> decide

/-- The percentage of a preset's buffer is taken of a number that is not zero and fits. -/
theorem ReceiverLatencyPreset.maxBufferMs_fits (preset : ReceiverLatencyPreset) :
    0 < max preset.profile.maxBufferMs.toNat preset.profile.targetBufferMs.toNat ∧
      100 * max preset.profile.maxBufferMs.toNat preset.profile.targetBufferMs.toNat ≤ Word.max 32 := by
  cases preset <;> decide

/-- No preset asks for more packets than this, whatever the stream. -/
theorem maxPackets_le (secsF64 : SecsF64) (preset : ReceiverLatencyPreset)
    (stream : ReceiverStreamConfig) :
    (new secsF64 preset.profile stream).maxPackets ≤ 340000000 := by
  obtain ⟨htarget, hmax⟩ := preset.fromMillis_le
  refine max_le (packetCountForDuration_le.trans (max_le hmax (by norm_num))) (max_le ?_ (by norm_num))
  exact packetCountForDuration_le.trans (max_le htarget (by norm_num))

/-- For an admitted stream there are no more packets than twice its sampling rate. -/
theorem maxPackets_le_rate {secsF64 : SecsF64} (haccurate : secsF64.Accurate)
    (preset : ReceiverLatencyPreset) {stream : ReceiverStreamConfig} (hadmitted : stream.Admitted) :
    (new secsF64 preset.profile stream).maxPackets ≤ 2 * stream.sampleRateHz.toNat := by
  have hrate : 0 < stream.sampleRateHz.toNat :=
    Nat.pos_of_ne_zero fun h ↦ hadmitted.sampleRateHz (UInt32.toNat_inj.1 h)
  have hframes : 0 < stream.framesPerPacket.toNat :=
    Nat.pos_of_ne_zero fun h ↦ hadmitted.framesPerPacket (UInt32.toNat_inj.1 h)
  have hduration : stream.packetDuration secsF64 =
      secsF64 stream.framesPerPacket.toNat stream.sampleRateHz.toNat :=
    if_neg (not_or.2 ⟨hadmitted.sampleRateHz, hadmitted.framesPerPacket⟩)
  have hnanos := (haccurate _ _ stream.framesPerPacket.toNat_lt hrate stream.sampleRateHz.toNat_lt).2
  rw [← hduration] at hnanos
  obtain ⟨htarget, hmax⟩ := preset.fromMillis_le
  have hhalf {target : ℕ} (h : target ≤ 340000000) :
      packetCountForDuration target (stream.packetDuration secsF64) ≤ 2 * stream.sampleRateHz.toNat :=
    packetCountForDuration_le_rate (h.trans (by norm_num)) hrate hframes hnanos
  exact max_le (hhalf hmax) (max_le (hhalf htarget) (by omega))

/-! ### Exact values -/

/-- How long the queued frames last, in milliseconds, whatever their number. -/
def ReceiverPacketBuffer.exactAudioMs (buffer : ReceiverPacketBuffer) : ℕ :=
  frames buffer.packets * 1000 / buffer.sampleRateHz.toNat

/-- What the buffer computes in machine words is what it would compute without them. -/
structure ReceiverPacketBuffer.Exact (buffer : ReceiverPacketBuffer) : Prop where
  queuedFrames : buffer.queuedFrames = frames buffer.packets
  /-- `queued_frames * 1000` does not saturate. -/
  milliFrames : Word.satMul 64 buffer.queuedFrames 1000 = frames buffer.packets * 1000
  queuedAudioMs : buffer.queuedAudioMs = buffer.exactAudioMs
  /-- `queued_audio_ms` fits an `i32`. -/
  signed : buffer.exactAudioMs < 2 ^ 31
  snapshot : buffer.snapshot =
    { queuedPackets := buffer.packets.length
      queuedFrames := frames buffer.packets
      queuedAudioMs := buffer.exactAudioMs
      targetBufferMs := buffer.targetBufferMs
      maxBufferMs := buffer.maxBufferMs
      startThresholdPackets := buffer.startThresholdPackets
      maxPackets := buffer.maxPackets }
  fillPercent : buffer.snapshot.fillPercent = min (buffer.exactAudioMs * 100 / buffer.maxBufferMs) 100

/-- A buffer made for a stream, with packets of this stream as they come out of the protocol, and none if
the playback engine does not take the stream. -/
structure ReceiverPacketBuffer.Holds (secsF64 : SecsF64) (preset : ReceiverLatencyPreset)
    (stream : ReceiverStreamConfig) (buffer : ReceiverPacketBuffer) : Prop where
  wellFormed : buffer.WellFormed
  limits : SameLimits (new secsF64 preset.profile stream) buffer
  admitted : buffer.packets = [] ∨ stream.Admitted
  packets : ∀ buffered ∈ buffer.packets,
    buffered.frameCount * stream.bytesPerFrame = buffered.packet.payload.length ∧
      buffered.packet.payload.length ≤ MAX_PAYLOAD_BYTES

namespace ReceiverPacketBuffer.Holds

variable {secsF64 : SecsF64} {preset : ReceiverLatencyPreset} {stream : ReceiverStreamConfig}
  {buffer buffer' : ReceiverPacketBuffer}

protected theorem new (secsF64 : SecsF64) (preset : ReceiverLatencyPreset)
    (stream : ReceiverStreamConfig) : (new secsF64 preset.profile stream).Holds secsF64 preset stream where
  wellFormed := wellFormed_new secsF64 preset.profile stream
  limits := .refl _
  admitted := Or.inl rfl
  packets _ hmem := absurd hmem List.not_mem_nil

protected theorem clear (h : buffer.Holds secsF64 preset stream) :
    buffer.clear.Holds secsF64 preset stream where
  wellFormed := ⟨rfl, Nat.zero_le _, h.wellFormed.threshold, h.wellFormed.threshold_pos⟩
  limits := ⟨h.limits.1, h.limits.2, h.limits.3, h.limits.4, h.limits.5⟩
  admitted := Or.inl rfl
  packets _ hmem := absurd hmem List.not_mem_nil

protected theorem pop (h : buffer.Holds secsF64 preset stream) {packet : BufferedPacket}
    (hpop : buffer.pop = some (packet, buffer')) : buffer'.Holds secsF64 preset stream := by
  obtain ⟨hpackets, hlimits, hwellFormed⟩ := pop_eq_some hpop
  refine ⟨hwellFormed h.wellFormed, h.limits.trans hlimits, Or.inr ?_, fun buffered hmem ↦ ?_⟩
  · refine h.admitted.resolve_left ?_
    rw [hpackets]
    exact List.cons_ne_nil _ _
  · refine h.packets buffered ?_
    rw [hpackets]
    exact List.mem_cons_of_mem _ hmem

/-- **A pushed packet is counted in full.** -/
protected theorem push (h : buffer.Holds secsF64 preset stream) (hadmitted : stream.Admitted)
    {packet : ReceiverAudioPacket} (hsize : packet.payload.length ≤ MAX_PAYLOAD_BYTES)
    {outcome : BufferPushOutcome} (hpush : buffer.push packet stream = .ok (outcome, buffer')) :
    buffer'.Holds secsF64 preset stream := by
  obtain ⟨frameCount, hcount, heffect, hlimits, hwellFormed⟩ := push_eq_ok hpush
  refine ⟨hwellFormed h.wellFormed, h.limits.trans hlimits, Or.inr hadmitted, ?_⟩
  have hpacket : frameCount * stream.bytesPerFrame = packet.payload.length := by
    obtain ⟨hdvd, rfl⟩ := (ReceiverAudioPacket.frameCount_eq_ok_iff
      (ReceiverStreamConfig.bytesPerFrame_pos hadmitted.channels)).1 hcount
    have hquotient := Nat.div_le_self packet.payload.length stream.bytesPerFrame
    have hmax : MAX_PAYLOAD_BYTES = 262144 := rfl
    rw [Word.wrap_of_lt (by omega), Nat.div_mul_cancel hdvd]
  intro buffered hmem
  have hold : buffered ∈ buffer.packets ∨ buffered = ⟨packet, frameCount⟩ := by
    cases heffect with
    | accepted hpackets =>
      rw [hpackets] at hmem
      exact (List.mem_append.1 hmem).imp_right List.mem_singleton.1
    | droppedOldest hbefore hfull hpackets =>
      rw [hpackets] at hmem
      rw [hbefore]
      exact (List.mem_append.1 hmem).imp (List.mem_cons_of_mem _) List.mem_singleton.1
  rcases hold with hold | rfl
  · exact h.packets buffered hold
  · exact ⟨hpacket, hsize⟩

/-- The frames of a packet: a frame has at least two bytes. -/
theorem frameCount_le (h : buffer.Holds secsF64 preset stream) {buffered : BufferedPacket}
    (hmem : buffered ∈ buffer.packets) : buffered.frameCount ≤ 131072 := by
  obtain ⟨hbytes, hsize⟩ := h.packets buffered hmem
  have hadmitted := h.admitted.resolve_left (List.ne_nil_of_mem hmem)
  have hchannels : 1 ≤ stream.channels.toNat :=
    Nat.pos_of_ne_zero fun hzero ↦ hadmitted.channels (UInt16.toNat_inj.1 hzero)
  have hsample : 2 ≤ stream.sampleFormat.bytesPerSample := by
    cases stream.sampleFormat <;> decide
  have htwo : 2 ≤ stream.bytesPerFrame := Nat.mul_le_mul hchannels hsample
  have hmul := Nat.mul_le_mul_left buffered.frameCount htwo
  have hmax : MAX_PAYLOAD_BYTES = 262144 := rfl
  omega

/-- The limit on packets is one on frames, as a payload is limited. -/
theorem frames_le_maxPackets (h : buffer.Holds secsF64 preset stream) :
    frames buffer.packets ≤ buffer.maxPackets * 131072 :=
  (frames_le buffer.packets).trans (Nat.mul_le_mul h.wellFormed.length
    (largest_le fun _ hmem ↦ h.frameCount_le hmem))

/-- **The queued frames last for a bounded time**, at whatever rate. -/
theorem frames_le_rate (h : buffer.Holds secsF64 preset stream) (haccurate : secsF64.Accurate) :
    frames buffer.packets ≤ 262144 * buffer.sampleRateHz.toNat := by
  rcases h.admitted with hempty | hadmitted
  · rw [hempty]
    exact Nat.zero_le _
  · have hcapacity := maxPackets_le_rate haccurate preset hadmitted
    have hframes := h.frames_le_maxPackets
    rw [h.limits.maxPackets] at hframes
    rw [h.limits.sampleRateHz]
    show _ ≤ 262144 * stream.sampleRateHz.toNat
    omega

/-- **The arithmetic of such a buffer is exact.** -/
theorem exact (h : buffer.Holds secsF64 preset stream) (haccurate : secsF64.Accurate) :
    buffer.Exact := by
  have hframes := h.wellFormed.queuedFrames
  have hcapacity : buffer.maxPackets ≤ 340000000 := by
    rw [h.limits.maxPackets]
    exact maxPackets_le secsF64 preset stream
  have hbound := h.frames_le_maxPackets
  have hrate := h.frames_le_rate haccurate
  -- a frame count within the packet limit stays far from `u64::MAX` when multiplied by 1000
  have hmilli : Word.satMul 64 buffer.queuedFrames 1000 = frames buffer.packets * 1000 := by
    rw [hframes]
    refine min_eq_left ?_
    show _ ≤ 18446744073709551615
    omega
  have hms : buffer.exactAudioMs ≤ 262144000 := by
    unfold exactAudioMs
    refine Nat.div_le_of_le_mul ?_
    rw [Nat.mul_comm buffer.sampleRateHz.toNat]
    omega
  have hqueued : buffer.queuedAudioMs = buffer.exactAudioMs := by
    unfold queuedAudioMs
    split
    next hzero =>
      -- the early return is the quotient: a zero rate divides to zero, and so do no frames
      rcases hzero with hzero | hzero
      · rw [exactAudioMs, hzero]
        exact (Nat.div_zero _).symm
      · rw [exactAudioMs, ← hframes, hzero, Nat.zero_mul, Nat.zero_div]
    · rw [hmilli]
      refine min_eq_left (hms.trans ?_)
      decide
  have hsnapshot : buffer.snapshot =
      { queuedPackets := buffer.packets.length
        queuedFrames := frames buffer.packets
        queuedAudioMs := buffer.exactAudioMs
        targetBufferMs := buffer.targetBufferMs
        maxBufferMs := buffer.maxBufferMs
        startThresholdPackets := buffer.startThresholdPackets
        maxPackets := buffer.maxPackets } := by
    have hlength := h.wellFormed.length
    have hthreshold := h.wellFormed.threshold
    rw [snapshot, hqueued, hframes, Word.wrap_of_lt (by omega), Word.wrap_of_lt (by omega),
      Word.wrap_of_lt (by omega)]
  refine ⟨hframes, hmilli, hqueued, lt_of_le_of_lt hms (by norm_num), hsnapshot, ?_⟩
  have hmax : 0 < buffer.maxBufferMs ∧ 100 * buffer.maxBufferMs ≤ Word.max 32 := by
    rw [h.limits.maxBufferMs]
    exact preset.maxBufferMs_fits
  rw [hsnapshot]
  unfold ReceiverBufferSnapshot.fillPercent
  rw [if_pos (Nat.pos_iff_ne_zero.1 hmax.1)]
  exact Word.min_satMul_div hmax.1 hmax.2

end ReceiverPacketBuffer.Holds

/-! ### The worker -/

namespace ReceiverWorker

/-- What the worker computes about its buffer is exact: the buffer's own values, the frames of each packet
of the session, and the metrics that `refresh_sync_buffer_metrics` derives from them. -/
structure Exact (worker : ReceiverWorker) : Prop where
  buffer : worker.buffer.Exact
  packets : ∀ connection ∈ worker.connection,
    worker.buffer.sampleRateHz = connection.stream.sampleRateHz ∧
      ∀ buffered ∈ worker.buffer.packets, buffered.frameCount < 2 ^ 32 ∧
        buffered.frameCount * connection.stream.bytesPerFrame = buffered.packet.payload.length
  queuedAudioMs : worker.refreshSyncBufferMetrics.sync.queuedAudioMs = worker.buffer.exactAudioMs
  bufferDeltaMs : worker.refreshSyncBufferMetrics.sync.bufferDeltaMs =
    (worker.buffer.exactAudioMs : ℤ) - worker.sync.targetBufferMs.toNat
  /-- The difference fits an `i32`. -/
  signed : -2 ^ 31 ≤ worker.refreshSyncBufferMetrics.sync.bufferDeltaMs ∧
    worker.refreshSyncBufferMetrics.sync.bufferDeltaMs < 2 ^ 31

/-- The buffer was made for a stream, with the worker's own limits, and if there is a connection it is for
this stream, which the playback engine took. -/
def Metered (secsF64 : SecsF64) (preset : ReceiverLatencyPreset) (worker : ReceiverWorker) : Prop :=
  worker.bufferProfile = preset.profile ∧ ∃ stream, worker.buffer.Holds secsF64 preset stream ∧
    ∀ connection ∈ worker.connection, connection.stream = stream ∧ stream.Admitted

variable {secsF64 : SecsF64} {preset : ReceiverLatencyPreset} {env : HandlerEnv}
  {worker next : ReceiverWorker}

/-- **A metered worker computes exactly.** -/
theorem Metered.exact (h : worker.Metered secsF64 preset) (haccurate : secsF64.Accurate) :
    worker.Exact := by
  obtain ⟨-, stream, hholds, hconnection⟩ := h
  have hbuffer := hholds.exact haccurate
  have hdelta : worker.refreshSyncBufferMetrics.sync.bufferDeltaMs =
      (worker.buffer.exactAudioMs : ℤ) - worker.sync.targetBufferMs.toNat := by
    show Word.toSigned 32 worker.buffer.queuedAudioMs - _ = _
    have hsigned := hbuffer.signed
    rw [hbuffer.queuedAudioMs, Word.toSigned_of_lt (by omega)]
  refine ⟨hbuffer, fun connection hmem ↦ ?_, hbuffer.queuedAudioMs, hdelta, ?_⟩
  · obtain ⟨rfl, -⟩ := hconnection connection hmem
    refine ⟨hholds.limits.sampleRateHz, fun buffered hqueued ↦
      ⟨lt_of_le_of_lt (hholds.frameCount_le hqueued) (by norm_num), (hholds.packets _ hqueued).1⟩⟩
  · have hsigned := hbuffer.signed
    have htarget := worker.sync.targetBufferMs.toNat_lt
    rw [hdelta]
    omega

/-! ### What the handlers do with it -/

/-- A new worker has an empty buffer. -/
theorem Metered.new (secsF64 : SecsF64) (playbackTargetId : Option String)
    (preset : ReceiverLatencyPreset) :
    (ReceiverWorker.new secsF64 playbackTargetId preset).Metered secsF64 preset :=
  ⟨rfl, {}, .new secsF64 preset {}, fun _ hmem ↦ nomatch hmem⟩

/-- A worker that gives its session up clears its buffer. -/
theorem Metered.closed (h : worker.Metered secsF64 preset)
    (hprofile : next.bufferProfile = worker.bufferProfile)
    (hbuffer : next.buffer = worker.buffer.clear) (hconnection : next.connection = none) :
    next.Metered secsF64 preset := by
  obtain ⟨hpreset, stream, hholds, -⟩ := h
  refine ⟨hprofile.trans hpreset, stream, ?_, ?_⟩
  · rw [hbuffer]
    exact hholds.clear
  · intro connection hmem
    rw [hconnection] at hmem
    cases hmem

/-- An error empties the buffer, and closes the connection. -/
theorem setError_metered (env : HandlerEnv) (message : String) (h : worker.Metered secsF64 preset) :
    (worker.setError env message).Metered secsF64 preset :=
  h.closed (setError_bufferProfile env message worker) (setError_buffer env message worker)
    (setError_disconnected env message worker).connection

/-- So does the end of a session. -/
theorem handleDisconnect_metered (env : HandlerEnv) (reason : String) (reconnectSuggested : Bool)
    (h : worker.Metered secsF64 preset) :
    (worker.handleDisconnect env reason reconnectSuggested).Metered secsF64 preset :=
  h.closed (handleDisconnect_bufferProfile env reason reconnectSuggested worker)
    (handleDisconnect_buffer env reason reconnectSuggested worker)
    (handleDisconnect_disconnected env reason reconnectSuggested worker).connection

/-- **A session opens with an empty buffer**, on a stream that was admitted. -/
theorem handleConnect_metered (hvalidates : env.Validates) (connection : ReceiverConnectionInfo)
    (h : worker.Metered secsF64 preset) :
    (worker.handleConnect secsF64 env connection).Metered secsF64 preset := by
  obtain ⟨hpreset, -⟩ := h
  obtain ⟨lastError, hstop⟩ := stopPlaybackSink_eq env worker
  have hholds := @Holds.new secsF64 preset connection.stream
  rw [← hpreset] at hholds
  simp only [handleConnect, hstop]
  split
  next sink hstart =>
    refine ⟨hpreset, connection.stream, hholds, fun other hmem ↦ ?_⟩
    obtain rfl := Option.some.inj hmem
    exact ⟨rfl, validatePlaybackRequest_eq_ok_iff.1 (hvalidates _ sink hstart)⟩
  next error hstart =>
    refine setError_metered env error.display ⟨hpreset, connection.stream, hholds, ?_⟩
    intro other hmem
    cases hmem

/-- A packet within the limit on payloads keeps the buffer metered. -/
theorem handlePacket_metered (env : HandlerEnv) {packet : ReceiverAudioPacket}
    (hsize : packet.payload.length ≤ MAX_PAYLOAD_BYTES) (h : worker.Metered secsF64 preset) :
    (worker.handlePacket env packet).Metered secsF64 preset := by
  rcases hconnection : worker.connection with - | connection
  · simp only [handlePacket, hconnection]
    exact h
  have hopened : (worker.openSyncWindow (env.now 0) packet).Metered secsF64 preset := h
  simp only [handlePacket, hconnection]
  split
  · exact setError_metered env _ hopened
  split
  · exact setError_metered env _ hopened
  next outcome buffer hpush =>
    obtain ⟨hpreset, stream, hholds, hstream⟩ := h
    obtain ⟨rfl, hadmitted⟩ := hstream connection hconnection
    obtain ⟨_, _, _, heq, -⟩ := settleStates_eq (countPacket (env.now 0) packet _ outcome buffer
      (worker.openSyncWindow (env.now 0) packet))
    rw [heq]
    exact ⟨hpreset, connection.stream, hholds.push hadmitted hsize hpush, hstream⟩

/-- A worker whose buffer is one packet shorter. -/
theorem Metered.pop (h : worker.Metered secsF64 preset) {packet : BufferedPacket}
    (hprofile : next.bufferProfile = worker.bufferProfile)
    (hconnection : next.connection = worker.connection)
    (hpop : worker.buffer.pop = some (packet, next.buffer)) : next.Metered secsF64 preset := by
  obtain ⟨hpreset, stream, hholds, hstream⟩ := h
  refine ⟨hprofile.trans hpreset, stream, hholds.pop hpop, ?_⟩
  rw [hconnection]
  exact hstream

/-- A round of the drain loop that is followed by another takes a packet out. -/
theorem drainRound_again_pop {round : ℕ} (hdraining : worker.Draining)
    (hround : drainRound env round worker = .again next) :
    next.bufferProfile = worker.bufferProfile ∧ next.connection = worker.connection ∧
      ∃ packet, worker.buffer.pop = some (packet, next.buffer) := by
  have houtcome := drainRound_outcome env round hdraining
  rw [hround] at houtcome
  cases houtcome with
  | stale pop => exact ⟨rfl, rfl, _, pop⟩
  | played pop => exact ⟨rfl, rfl, _, pop⟩

/-- The last round of the loop does. -/
theorem drainRound_done_metered {round : ℕ} {exit : DrainExit} {final : ReceiverWorker}
    (hdraining : worker.Draining) (h : worker.Metered secsF64 preset)
    (hround : drainRound env round worker = .done (exit, final)) : final.Metered secsF64 preset := by
  have houtcome := drainRound_outcome env round hdraining
  rw [hround] at houtcome
  cases houtcome with
  | drained empty =>
    obtain ⟨_, _, _, _, _, _, heq, -⟩ := underrun_eq worker
    rw [heq]
    exact h
  | resynced pop => exact h.pop rfl rfl pop
  | waiting early => exact h
  | writeFailed pop => exact setError_metered env _ (h.pop rfl rfl pop)

/-- **So does every tick.** -/
theorem onTick_metered (hinvariant : worker.Invariant) (h : worker.Metered secsF64 preset)
    (hstep : worker.onTick env = some next) : next.Metered secsF64 preset := by
  obtain ⟨exit, final, hdrain, rfl⟩ := onTick_eq_some hstep
  have hfinal : final.Metered secsF64 preset := by
    rcases drainReadyPackets_cases env hinvariant with
      ⟨exit', state, sync, hcase, -⟩ | ⟨hdraining, hcase⟩
    · obtain ⟨-, rfl⟩ := Prod.mk.inj (Option.some.inj (hcase.symm.trans hdrain))
      exact h
    · refine @of_drainLoop env worker (fun worker ↦ worker.Metered secsF64 preset)
        (fun result ↦ result.2.Metered secsF64 preset) (fun _ _ _ hdraining h hround ↦ ?_)
        (fun _ _ _ hdraining h hround ↦ drainRound_done_metered hdraining h hround) _ hdraining h
        (hcase.symm.trans hdrain)
      obtain ⟨hprofile, hconnection, packet, hpop⟩ := drainRound_again_pop hdraining hround
      exact h.pop hprofile hconnection hpop
  show (final.checkTransportTimeout env).Metered secsF64 preset
  unfold checkTransportTimeout
  split
  · exact hfinal
  split
  · exact handleDisconnect_metered env _ _ hfinal
  · exact hfinal

/-! ### Runs -/

/-- The playback engine checks what it is asked to start, and a packet is one the protocol carries. -/
def CarriedInput (input : HandlerEnv × WorkerInput) : Prop :=
  input.1.Validates ∧ ∀ packet ∈ audioPacketOf input, packet.payload.length ≤ MAX_PAYLOAD_BYTES

/-- **Every step keeps the buffer metered.** -/
theorem step_metered {input : HandlerEnv × WorkerInput} (hinvariant : worker.Invariant)
    (h : worker.Metered secsF64 preset) (hinput : CarriedInput input)
    (hstep : worker.step secsF64 input = some next) : next.Metered secsF64 preset := by
  obtain ⟨env, input⟩ := input
  obtain ⟨hvalidates, hsize⟩ := hinput
  cases input with
  | transport event =>
    obtain rfl := Option.some.inj hstep
    cases event with
    | connected connection => exact handleConnect_metered hvalidates connection h
    | audioPacket packet => exact handlePacket_metered env (hsize packet List.mem_cons_self) h
    | keepAlive => exact h
    | disconnected reason reconnectSuggested =>
      exact handleDisconnect_metered env reason reconnectSuggested h
    | error message => exact setError_metered env message h
  | setPlaybackTarget targetId =>
    obtain rfl := Option.some.inj hstep
    obtain ⟨_, _, _, _, heq, -⟩ := handlePlaybackTargetChange_eq env targetId worker
    show (worker.handlePlaybackTargetChange env targetId).Metered secsF64 preset
    rw [heq]
    exact h
  | tick => exact onTick_metered hinvariant h hstep

/-- **The buffer and sync arithmetic never wraps.** Take any preset, any nanosecond-accurate
`from_secs_f64` and any run of a receiver whose playback engine checks its requests, on packets of at most
`MAX_PAYLOAD_BYTES`. In every state reached, and in those the drain loop goes through as it takes packets
out of the buffer, what the worker computes about its buffer is exact. -/
theorem buffer_arithmetic_exact (secsF64 : SecsF64) (haccurate : secsF64.Accurate)
    (playbackTargetId : Option String) (preset : ReceiverLatencyPreset)
    (inputs : List (HandlerEnv × WorkerInput)) (hinputs : ∀ input ∈ inputs, CarriedInput input) :
    ∃ worker, Transition.run (step secsF64) (new secsF64 playbackTargetId preset) inputs =
        some worker ∧
      ∀ buffer, Relation.ReflTransGen (fun buffer buffer' ↦ ∃ packet,
          ReceiverPacketBuffer.pop buffer = some (packet, buffer')) worker.buffer buffer →
        Exact { worker with buffer } := by
  obtain ⟨worker, hrun, -⟩ := worker_invariant secsF64 playbackTargetId preset inputs
  refine ⟨worker, hrun, fun buffer hpops ↦ ?_⟩
  have hmetered : worker.Metered secsF64 preset :=
    (@Transition.run_invariant_along _ _ (step secsF64) (fun _ input ↦ CarriedInput input)
      (fun reached ↦ reached.Invariant ∧ reached.Metered secsF64 preset)
      (fun reached input next hreached hinput hstep ↦ by
        obtain ⟨next', hstep', hnext⟩ := step_invariant secsF64 input hreached.1
        obtain rfl := Option.some.inj (hstep'.symm.trans hstep)
        exact ⟨hnext, step_metered hreached.1 hreached.2 hinput hstep⟩)
      _ _ _ ⟨Invariant.new secsF64 playbackTargetId preset, .new secsF64 playbackTargetId preset⟩
      (Transition.along_of_forall (fun input hmem _ ↦ hinputs input hmem) _) hrun).2
  have hpopped : ({ worker with buffer } : ReceiverWorker).Metered secsF64 preset := by
    induction hpops with
    | refl => exact hmetered
    | tail _ hpop ih =>
      obtain ⟨packet, hpop⟩ := hpop
      exact ih.pop rfl rfl hpop
  exact hpopped.exact haccurate

/-! ### A session at a gigahertz -/

/-- Rounding down is accurate. -/
theorem accurate_exactSecs : SecsF64.Accurate exactSecs := by
  intro frames rate _ hrate _
  show frames * 1000000000 / rate * rate ≤ _ ∧ _ ≤ frames * 1000000000 / rate * rate + rate
  have hdivision := Nat.div_add_mod' (frames * 1000000000) rate
  have hrest := Nat.mod_lt (frames * 1000000000) hrate
  omega

/-- Surroundings with an engine that checks its requests and starts the others. -/
def validatingEnv (now : Instant) : HandlerEnv :=
  { calmEnv now with
    startStream := fun request ↦ (validatePlaybackRequest request).map fun _ ↦ ⟨0⟩ }

/-- This environment takes a stream exactly if the engine does. -/
theorem validatingEnv_validates (now : Instant) : (validatingEnv now).Validates := by
  intro request sink hstart
  change (validatePlaybackRequest request).map _ = _ at hstart
  rcases hvalid : validatePlaybackRequest request with error | ⟨⟩
  · rw [hvalid] at hstart
    cases hstart
  · rfl

/-- A connection whose packets last for a nanosecond: the buffer has room for all those of its time. -/
def gigahertzConnection : ReceiverConnectionInfo where
  sessionId := "session-1"
  remoteAddr := none
  stream := { sampleRateHz := 1000000000, channels := 1, sampleFormat := .s16Le, framesPerPacket := 1 }
  requestedLatencyMs := 30

theorem buffer_arithmetic_exact_gigahertz :
    ∃ worker, Transition.run (step exactSecs) (new exactSecs none .lowLatency)
        [(validatingEnv 0, .transport (.connected gigahertzConnection)),
          (validatingEnv 0, .transport (.audioPacket (silence 262144))),
          (validatingEnv 1, .tick)] = some worker ∧
      worker.Exact := by
  obtain ⟨worker, hrun, hexact⟩ := buffer_arithmetic_exact exactSecs accurate_exactSecs none .lowLatency
    [(validatingEnv 0, .transport (.connected gigahertzConnection)),
      (validatingEnv 0, .transport (.audioPacket (silence 262144))),
      (validatingEnv 1, .tick)] (by
    intro input hmem
    simp only [List.mem_cons, List.not_mem_nil, or_false] at hmem
    rcases hmem with rfl | rfl | rfl
    · exact ⟨validatingEnv_validates 0, fun packet hpacket ↦ absurd hpacket List.not_mem_nil⟩
    · refine ⟨validatingEnv_validates 0, fun packet hpacket ↦ ?_⟩
      obtain rfl := List.mem_singleton.1 hpacket
      exact List.length_replicate.le
    · exact ⟨validatingEnv_validates 1, fun packet hpacket ↦ absurd hpacket List.not_mem_nil⟩)
  exact ⟨worker, hrun, hexact worker.buffer .refl⟩

end ReceiverWorker

end SynchroSonic
