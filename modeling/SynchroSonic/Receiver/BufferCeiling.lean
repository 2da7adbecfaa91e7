import SynchroSonic.Receiver.FullBuffer
import SynchroSonic.Transport.Protocol

/-!
# The ceiling of the buffer

`max_buffer_ms` is meant as a hard ceiling on queued audio, give or take a packet. What the buffer bounds
is the number of its packets, by the packet size the sender announced. Packets that are longer than
announced then pile up to as many times the announced duration as they are longer.

`buffer_ceiling_iff` says for which streams and payload limits the ceiling holds whatever is pushed and
popped: those where a buffer full of equal packets stays below it, whatever the size of these. One
direction replaces every queued packet by the largest one; the other fills the buffer.
-/

namespace SynchroSonic

open ReceiverPacketBuffer

/-- How long some frames last, in milliseconds, rounded up. -/
def ReceiverStreamConfig.ceilMs (frames : ℕ) (stream : ReceiverStreamConfig) : ℕ :=
  (frames * 1000 + stream.sampleRateHz.toNat - 1) / stream.sampleRateHz.toNat

/-- The frames of the largest packet in a queue. -/
def largestFrames (packets : List BufferedPacket) : ℕ :=
  (packets.map BufferedPacket.frameCount).foldr max 0

/-- The queued audio is below the ceiling, but for the largest packet. -/
def ReceiverPacketBuffer.UnderCeiling (maxBufferMs : ℕ) (stream : ReceiverStreamConfig)
    (buffer : ReceiverPacketBuffer) : Prop :=
  buffer.queuedAudioMs ≤ maxBufferMs + stream.ceilMs (largestFrames buffer.packets)

/-! ### The largest packet -/

theorem frameCount_le_largest {packets : List BufferedPacket} {packet : BufferedPacket}
    (h : packet ∈ packets) : packet.frameCount ≤ largestFrames packets := by
  induction packets with
  | nil => exact absurd h List.not_mem_nil
  | cons first rest ih =>
    show _ ≤ max first.frameCount (largestFrames rest)
    rcases List.mem_cons.1 h with rfl | h
    · exact le_max_left _ _
    · exact (ih h).trans (le_max_right _ _)

theorem largest_le {packets : List BufferedPacket} {bound : ℕ}
    (h : ∀ packet ∈ packets, packet.frameCount ≤ bound) : largestFrames packets ≤ bound := by
  induction packets with
  | nil => exact Nat.zero_le bound
  | cons first rest ih =>
    obtain ⟨hfirst, hrest⟩ := List.forall_mem_cons.1 h
    exact max_le hfirst (ih hrest)

/-- A queue holds at most its length times its largest packet. -/
theorem frames_le (packets : List BufferedPacket) :
    frames packets ≤ packets.length * largestFrames packets := by
  rw [frames, ← List.length_map BufferedPacket.frameCount, ← smul_eq_mul]
  refine List.sum_le_card_nsmul _ _ fun count hmem ↦ ?_
  obtain ⟨packet, hpacket, rfl⟩ := List.mem_map.1 hmem
  exact frameCount_le_largest hpacket

/-! ### The milliseconds of a number of frames -/

/-- Below the caps of its arithmetic the buffer compares exact quotients. -/
theorem queuedAudioMs_le_iff {buffer : ReceiverPacketBuffer} {bound : ℕ}
    (hrate : buffer.sampleRateHz ≠ 0) (hbound : bound < Word.max 32) :
    buffer.queuedAudioMs ≤ bound ↔
      buffer.queuedFrames * 1000 / buffer.sampleRateHz.toNat ≤ bound := by
  have hpos : 0 < buffer.sampleRateHz.toNat :=
    Nat.pos_of_ne_zero fun h ↦ hrate (UInt32.toNat_inj.1 h)
  have hmax : Word.max 32 = 4294967295 := rfl
  unfold queuedAudioMs
  split
  next hzero =>
    have hframes : buffer.queuedFrames = 0 := hzero.resolve_left hrate
    rw [hframes, Nat.zero_mul, Nat.zero_div]
  next hframes =>
  have hfit : (bound + 1) * buffer.sampleRateHz.toNat ≤ Word.max 64 := by
    have hword := buffer.sampleRateHz.toNat_lt
    have hproduct := Nat.mul_le_mul (show bound + 1 ≤ 4294967295 by omega)
      (show buffer.sampleRateHz.toNat ≤ 4294967296 by omega)
    have hmax64 : Word.max 64 = 18446744073709551615 := rfl
    omega
  have hexact := @Word.le_satMul_div_iff 64 buffer.queuedFrames 1000 (bound + 1) _ hpos hfit
  rw [← Nat.le_div_iff_mul_le hpos] at hexact
  generalize Word.satMul 64 buffer.queuedFrames 1000 / buffer.sampleRateHz.toNat = capped at hexact ⊢
  omega

/-- What the largest admissible packet lasts for is far below the cap. -/
theorem ceiling_lt {preset : ReceiverLatencyPreset} {stream : ReceiverStreamConfig} {frames : ℕ}
    (hrate : stream.sampleRateHz ≠ 0) (hframes : frames ≤ MAX_PAYLOAD_BYTES) :
    preset.profile.maxBufferMs.toNat + stream.ceilMs frames < Word.max 32 := by
  have hpos : 0 < stream.sampleRateHz.toNat :=
    Nat.pos_of_ne_zero fun h ↦ hrate (UInt32.toNat_inj.1 h)
  have hword := preset.profile.maxBufferMs.toNat_lt
  have hceil : stream.ceilMs frames ≤ frames * 1000 := by
    rw [ReceiverStreamConfig.ceilMs, Nat.div_le_iff_le_mul_add_pred hpos]
    have hmul := Nat.mul_le_mul_right (frames * 1000) hpos
    omega
  have hbytes : MAX_PAYLOAD_BYTES = 262144 := rfl
  have hmax : Word.max 32 = 4294967295 := rfl
  omega

/-! ### Filling the buffer -/

theorem pushedPackets_replicate (n : ℕ) (packet : ReceiverAudioPacket) :
    pushedPackets (List.replicate n (.push packet)) = List.replicate n packet := by
  induction n with
  | zero => rfl
  | succ n ih => rw [List.replicate_succ', pushedPackets_push, ih, ← List.replicate_succ']

theorem outstanding_replicate (maxPackets n : ℕ) (packet : ReceiverAudioPacket) :
    outstanding maxPackets (List.replicate n (.push packet)) = min n maxPackets := by
  induction n with
  | zero => exact (Nat.zero_min maxPackets).symm
  | succ n ih =>
    have hstep : outstanding maxPackets (List.replicate n (.push packet) ++ [.push packet]) =
        min (outstanding maxPackets (List.replicate n (.push packet)) + 1) maxPackets := by
      rw [outstanding, List.foldl_append]
      rfl
    rw [List.replicate_succ', hstep, ih]
    omega

/-- A packet of zeros. -/
def silence (bytes : ℕ) : ReceiverAudioPacket := ⟨0, 0, 0, List.replicate bytes 0⟩

/-- Pushing as many equal packets as it has room for leaves a buffer with these packets. -/
theorem packets_afterCalls_replicate {secsF64 : SecsF64} {preset : ReceiverLatencyPreset}
    {stream : ReceiverStreamConfig} {count : ℕ} (hbytes : 0 < stream.bytesPerFrame)
    (hcount : count * stream.bytesPerFrame ≤ MAX_PAYLOAD_BYTES) :
    (afterCalls secsF64 preset.profile stream
        (List.replicate (new secsF64 preset.profile stream).maxPackets
          (.push (silence (count * stream.bytesPerFrame))))).packets =
      List.replicate (new secsF64 preset.profile stream).maxPackets
        ⟨silence (count * stream.bytesPerFrame), count⟩ := by
  generalize hn : (new secsF64 preset.profile stream).maxPackets = n
  have haligned : FrameAligned stream
      (List.replicate n (.push (silence (count * stream.bytesPerFrame)))) := by
    intro packet hmem
    rw [pushedPackets_replicate] at hmem
    obtain rfl := List.eq_of_mem_replicate hmem
    show _ ∣ (List.replicate _ _).length
    rw [List.length_replicate]
    exact Nat.dvd_mul_left _ _
  have h : BufferHistory secsF64 preset.profile stream _ _ := .afterCalls hbytes haligned
  have hlength := h.length
  rw [h.limits.maxPackets, hn, outstanding_replicate, min_self] at hlength
  obtain ⟨delivered, lost, hledger⟩ := h.ledger
  have hframes : (silence (count * stream.bytesPerFrame)).frames stream = count := by
    have hword : count < 2 ^ 32 := by
      have hle := Nat.le_mul_of_pos_right count hbytes
      have hmax : MAX_PAYLOAD_BYTES = 262144 := rfl
      omega
    show (List.replicate _ _).length / _ % 2 ^ 32 = count
    rw [List.length_replicate, Nat.mul_div_cancel _ hbytes, Nat.mod_eq_of_lt hword]
  refine List.eq_replicate_iff.2 ⟨hlength, fun packet hmem ↦ ?_⟩
  have hpushed := hledger.suffix.subset hmem
  rw [pushedPackets_replicate, List.map_replicate, hframes] at hpushed
  exact List.eq_of_mem_replicate hpushed

theorem frames_replicate (n : ℕ) (packet : BufferedPacket) :
    frames (List.replicate n packet) = n * packet.frameCount := by
  rw [frames, List.map_replicate, List.sum_replicate, smul_eq_mul]

theorem largestFrames_replicate {n : ℕ} (hn : 0 < n) (packet : BufferedPacket) :
    largestFrames (List.replicate n packet) = packet.frameCount := by
  refine le_antisymm (largest_le fun other hmem ↦ ?_)
    (frameCount_le_largest (List.mem_replicate.2 ⟨Nat.pos_iff_ne_zero.1 hn, rfl⟩))
  rw [List.eq_of_mem_replicate hmem]

/-! ### The main statement -/

/-- The queue is under the ceiling when its frames are, counted exactly. -/
theorem underCeiling_iff {secsF64 : SecsF64} {preset : ReceiverLatencyPreset}
    {stream : ReceiverStreamConfig} {calls : List BufferCall} {buffer : ReceiverPacketBuffer}
    (h : BufferHistory secsF64 preset.profile stream calls buffer) (hrate : stream.sampleRateHz ≠ 0)
    (hlargest : largestFrames buffer.packets ≤ MAX_PAYLOAD_BYTES) :
    buffer.UnderCeiling preset.profile.maxBufferMs.toNat stream ↔
      frames buffer.packets * 1000 / stream.sampleRateHz.toNat ≤
        preset.profile.maxBufferMs.toNat + stream.ceilMs (largestFrames buffer.packets) := by
  have hsame : buffer.sampleRateHz = stream.sampleRateHz := h.limits.sampleRateHz
  rw [UnderCeiling, queuedAudioMs_le_iff (by rwa [hsame]) (ceiling_lt hrate hlargest), hsame,
    h.wellFormed.queuedFrames]

/-- **When `max_buffer_ms` is a ceiling.** For every preset, every stream with a sample rate and channels
and every limit on payloads up to that of the protocol: whatever is pushed and popped, the queued audio
stays below `max_buffer_ms` and the largest queued packet, exactly when a buffer full of packets of one
size does, for every size within the limit. -/
theorem buffer_ceiling_iff (secsF64 : SecsF64) (preset : ReceiverLatencyPreset)
    (stream : ReceiverStreamConfig) (maxBytes : ℕ) (hrate : stream.sampleRateHz ≠ 0)
    (hchannels : stream.channels ≠ 0) (hmax : maxBytes ≤ MAX_PAYLOAD_BYTES) :
    (∀ calls, FrameAligned stream calls →
        (∀ packet ∈ pushedPackets calls, packet.payload.length ≤ maxBytes) →
        (afterCalls secsF64 preset.profile stream calls).UnderCeiling
          preset.profile.maxBufferMs.toNat stream) ↔
      ∀ count, count * stream.bytesPerFrame ≤ maxBytes →
        (new secsF64 preset.profile stream).maxPackets * count * 1000 / stream.sampleRateHz.toNat ≤
          preset.profile.maxBufferMs.toNat + stream.ceilMs count := by
  have hbytes := ReceiverStreamConfig.bytesPerFrame_pos hchannels
  constructor
  · intro hall count hcount
    have hpackets := @packets_afterCalls_replicate secsF64 preset stream count hbytes
      (hcount.trans hmax)
    have hpos : 0 < (new secsF64 preset.profile stream).maxPackets :=
      lt_of_lt_of_le (wellFormed_new secsF64 preset.profile stream).threshold_pos
        (wellFormed_new secsF64 preset.profile stream).threshold
    generalize hn : (new secsF64 preset.profile stream).maxPackets = n at hpackets hpos ⊢
    have hsize : ∀ packet ∈ pushedPackets
        (List.replicate n (.push (silence (count * stream.bytesPerFrame)))),
        packet.payload.length = count * stream.bytesPerFrame := by
      intro packet hmem
      rw [pushedPackets_replicate] at hmem
      rw [List.eq_of_mem_replicate hmem]
      exact List.length_replicate
    have haligned : FrameAligned stream _ := fun packet hmem ↦ by
      rw [hsize packet hmem]
      exact Nat.dvd_mul_left _ _
    have hunder := hall _ haligned fun packet hmem ↦ by rw [hsize packet hmem]; exact hcount
    have h : BufferHistory secsF64 preset.profile stream _ _ := .afterCalls hbytes haligned
    have hlargest := largestFrames_replicate hpos
      ⟨silence (count * stream.bytesPerFrame), count⟩
    have hword : count ≤ MAX_PAYLOAD_BYTES :=
      (Nat.le_mul_of_pos_right count hbytes).trans (hcount.trans hmax)
    rwa [underCeiling_iff h hrate (by rwa [hpackets, hlargest]), hpackets, hlargest,
      frames_replicate] at hunder
  · intro hfits calls haligned hsize
    have h : BufferHistory secsF64 preset.profile stream calls _ := .afterCalls hbytes haligned
    obtain ⟨delivered, lost, hledger⟩ := h.ledger
    have hlength := h.wellFormed.length
    rw [h.limits.maxPackets] at hlength
    generalize afterCalls secsF64 preset.profile stream calls = buffer at h hledger hlength ⊢
    -- Whatever is queued was pushed, so the largest packet is within the limit as well.
    have hlargest : largestFrames buffer.packets * stream.bytesPerFrame ≤ maxBytes := by
      rw [← Nat.le_div_iff_mul_le hbytes]
      refine largest_le fun buffered hmem ↦ ?_
      obtain ⟨packet, hpacket, rfl⟩ := List.mem_map.1 (hledger.suffix.subset hmem)
      have hwrap : packet.frames stream ≤ packet.payload.length / stream.bytesPerFrame :=
        Nat.mod_le _ _
      exact hwrap.trans (Nat.div_le_div_right (hsize packet hpacket))
    have hword : largestFrames buffer.packets ≤ MAX_PAYLOAD_BYTES :=
      (Nat.le_mul_of_pos_right _ hbytes).trans (hlargest.trans hmax)
    rw [underCeiling_iff h hrate hword]
    refine le_trans (Nat.div_le_div_right (Nat.mul_le_mul_right 1000 ?_)) (hfits _ hlargest)
    exact (frames_le buffer.packets).trans (Nat.mul_le_mul_right _ hlength)

/-- The default stream and packets as long as announced. -/
theorem buffer_ceiling_iff_default :
    (∀ calls, FrameAligned {} calls →
        (∀ packet ∈ pushedPackets calls, packet.payload.length ≤ 1920) →
        (afterCalls exactSecs ReceiverLatencyPreset.lowLatency.profile {} calls).UnderCeiling 110 {}) ↔
      ∀ count, count * 4 ≤ 1920 →
        (new exactSecs ReceiverLatencyPreset.lowLatency.profile {}).maxPackets * count * 1000 / 48000 ≤
          110 + ReceiverStreamConfig.ceilMs count {} :=
  buffer_ceiling_iff exactSecs .lowLatency {} 1920 (by decide) (by decide) (by decide)

/-- A stream that announces packets of ten milliseconds. -/
def tenMillisStream : ReceiverStreamConfig where
  sampleRateHz := 100
  channels := 1
  sampleFormat := .s16Le
  framesPerPacket := 1

/-- **Twice the ceiling.** Eleven packets of twenty milliseconds fit a buffer of the low-latency preset,
on a stream that announced packets of ten. -/
theorem buffer_over_ceiling :
    FrameAligned tenMillisStream (List.replicate 11 (.push (silence 4))) ∧
      ¬(afterCalls exactSecs ReceiverLatencyPreset.lowLatency.profile tenMillisStream
          (List.replicate 11 (.push (silence 4)))).UnderCeiling 110 tenMillisStream ∧
      (afterCalls exactSecs ReceiverLatencyPreset.lowLatency.profile tenMillisStream
          (List.replicate 11 (.push (silence 4)))).queuedAudioMs = 220 := by
  refine ⟨?_, ?_, by decide⟩
  · unfold FrameAligned
    decide
  · unfold UnderCeiling
    decide

end SynchroSonic
