import SynchroSonic.Machine.FifoLedger
import SynchroSonic.Receiver.Buffer

/-!
# Full buffers

A buffer that is full but not ready is a trap: every further packet pushes out the oldest one and
playback never starts. The capacity counts packets, as many as the announced packet size asks for,
while readiness counts frames, so the trap opens when real packets are shorter than announced.

`full_buffer_ready_iff` describes it exactly, for every sequence of `push` and `pop`: a full buffer
holds the last packets that were pushed (`BufferHistory`), so it is ready when these carry enough
audio. `full_packets_ready` is the case the buffer was designed for, packets as long as announced;
there, and only there, the accuracy of the packet duration matters.
-/

namespace SynchroSonic

/-- A call on a buffer. -/
inductive BufferCall
  | push (packet : ReceiverAudioPacket)
  | pop
  deriving DecidableEq, Repr

namespace ReceiverPacketBuffer

/-- A buffer after a call. -/
def call (stream : ReceiverStreamConfig) (buffer : ReceiverPacketBuffer) :
    BufferCall → ReceiverPacketBuffer
  | .push packet =>
    match buffer.push packet stream with
    | .ok (_, buffer) => buffer
    | .error _ => buffer
  | .pop =>
    match buffer.pop with
    | some (_, buffer) => buffer
    | none => buffer

/-- A new buffer after a sequence of calls. -/
def afterCalls (secsF64 : SecsF64) (profile : ReceiverLatencyProfile)
    (stream : ReceiverStreamConfig) (calls : List BufferCall) : ReceiverPacketBuffer :=
  calls.foldl (call stream) (new secsF64 profile stream)

end ReceiverPacketBuffer

open ReceiverPacketBuffer

/-! ### What a call sequence says by itself -/

/-- The packets a sequence of calls pushes. -/
def pushedPackets (calls : List BufferCall) : List ReceiverAudioPacket :=
  calls.filterMap fun
    | .push packet => some packet
    | .pop => none

/-- How many packets are outstanding after a sequence of calls, with room for `maxPackets`. -/
def outstanding (maxPackets : ℕ) (calls : List BufferCall) : ℕ :=
  calls.foldl (fun n call ↦
    match call with
    | .push _ => min (n + 1) maxPackets
    | .pop => n - 1) 0

/-- Every payload that is pushed is a whole number of frames. -/
def FrameAligned (stream : ReceiverStreamConfig) (calls : List BufferCall) : Prop :=
  ∀ packet ∈ pushedPackets calls, stream.bytesPerFrame ∣ packet.payload.length

/-- The number of frames in an aligned packet. -/
def ReceiverAudioPacket.frames (stream : ReceiverStreamConfig) (packet : ReceiverAudioPacket) : ℕ :=
  Word.wrap 32 (packet.payload.length / stream.bytesPerFrame)

/-- The frames in the last `n` packets that were pushed. -/
def lastFrames (stream : ReceiverStreamConfig) (n : ℕ) (calls : List BufferCall) : ℕ :=
  (((pushedPackets calls).drop ((pushedPackets calls).length - n)).map
    (ReceiverAudioPacket.frames stream)).sum

theorem pushedPackets_push (calls : List BufferCall) (packet : ReceiverAudioPacket) :
    pushedPackets (calls ++ [.push packet]) = pushedPackets calls ++ [packet] := by
  simp [pushedPackets]

theorem pushedPackets_pop (calls : List BufferCall) :
    pushedPackets (calls ++ [.pop]) = pushedPackets calls := by
  simp [pushedPackets]

theorem FrameAligned.of_append {stream : ReceiverStreamConfig} {calls calls' : List BufferCall}
    (h : FrameAligned stream (calls ++ calls')) : FrameAligned stream calls :=
  fun packet hmem ↦ h packet (by
    rw [pushedPackets, List.filterMap_append]
    exact List.mem_append_left _ hmem)

/-! ### The history of a buffer -/

/-- A buffer after `calls`: it counts correctly, holds as many packets as the calls leave
outstanding, and its contents are the last packets pushed. -/
structure BufferHistory (secsF64 : SecsF64) (profile : ReceiverLatencyProfile)
    (stream : ReceiverStreamConfig) (calls : List BufferCall) (buffer : ReceiverPacketBuffer) :
    Prop where
  wellFormed : buffer.WellFormed
  limits : SameLimits (new secsF64 profile stream) buffer
  length : buffer.packets.length = outstanding buffer.maxPackets calls
  ledger : ∃ delivered lost, FifoLedger
    ((pushedPackets calls).map fun packet ↦ ⟨packet, packet.frames stream⟩)
    delivered buffer.packets lost

namespace BufferHistory

variable {secsF64 : SecsF64} {profile : ReceiverLatencyProfile} {stream : ReceiverStreamConfig}
  {calls : List BufferCall} {buffer : ReceiverPacketBuffer}

theorem new : BufferHistory secsF64 profile stream []
    (ReceiverPacketBuffer.new secsF64 profile stream) where
  wellFormed := wellFormed_new secsF64 profile stream
  limits := .refl _
  length := rfl
  ledger := ⟨[], 0, .empty⟩

theorem push (h : BufferHistory secsF64 profile stream calls buffer)
    (hbytes : 0 < stream.bytesPerFrame) {packet : ReceiverAudioPacket}
    (haligned : stream.bytesPerFrame ∣ packet.payload.length) :
    BufferHistory secsF64 profile stream (calls ++ [.push packet])
      (buffer.call stream (.push packet)) := by
  have hcount := (ReceiverAudioPacket.frameCount_eq_ok_iff hbytes).2 ⟨haligned, rfl⟩
  obtain ⟨outcome, buffer', hpush⟩ := push_of_frameCount hcount buffer
  obtain ⟨frameCount, hcount', heffect, hlimits, hwf⟩ := push_eq_ok hpush
  obtain rfl := Except.ok.inj (hcount.symm.trans hcount')
  obtain ⟨delivered, lost, hledger⟩ := h.ledger
  have hcall : buffer.call stream (.push packet) = buffer' := by simp only [call, hpush]
  have houtstanding : outstanding buffer'.maxPackets (calls ++ [.push packet]) =
      min (buffer.packets.length + 1) buffer.maxPackets := by
    rw [hlimits.maxPackets, h.length, outstanding, List.foldl_append]
    rfl
  rw [hcall]
  have hlen := h.wellFormed.length
  have hlen' := (hwf h.wellFormed).length
  rw [hlimits.maxPackets] at hlen'
  refine ⟨hwf h.wellFormed, h.limits.trans hlimits, ?_, ?_⟩
  · rw [houtstanding]
    cases heffect with
    | accepted packets =>
      rw [packets, List.length_append, List.length_singleton] at hlen' ⊢
      omega
    | droppedOldest before full packets =>
      rw [before, List.length_cons] at full
      rw [packets, before, List.length_append, List.length_singleton, List.length_cons]
      omega
  · rw [pushedPackets_push, List.map_append]
    cases heffect with
    | accepted packets =>
      rw [packets]
      exact ⟨delivered, lost, hledger.push⟩
    | droppedOldest before full packets =>
      rw [before] at hledger
      rw [packets]
      exact ⟨delivered, lost + 1, hledger.discard.push⟩

theorem pop (h : BufferHistory secsF64 profile stream calls buffer) :
    BufferHistory secsF64 profile stream (calls ++ [.pop]) (buffer.call stream .pop) := by
  obtain ⟨delivered, lost, hledger⟩ := h.ledger
  have houtstanding (max : ℕ) :
      outstanding max (calls ++ [.pop]) = outstanding max calls - 1 := by
    rw [outstanding, List.foldl_append]
    rfl
  rcases hpop : buffer.pop with - | ⟨packet, buffer'⟩
  · have hcall : buffer.call stream .pop = buffer := by simp only [call, hpop]
    have hempty := pop_eq_none hpop
    rw [hcall]
    refine ⟨h.wellFormed, h.limits, ?_, ⟨delivered, lost, by rw [pushedPackets_pop]; exact hledger⟩⟩
    rw [houtstanding, ← h.length, hempty, List.length_nil]
  · have hcall : buffer.call stream .pop = buffer' := by simp only [call, hpop]
    obtain ⟨hpackets, hlimits, hwf⟩ := pop_eq_some hpop
    rw [hcall]
    refine ⟨hwf h.wellFormed, h.limits.trans hlimits, ?_, ⟨delivered ++ [packet], lost, ?_⟩⟩
    · rw [houtstanding, hlimits.maxPackets, ← h.length, hpackets, List.length_cons,
        Nat.add_sub_cancel]
    · rw [hpackets] at hledger
      rw [pushedPackets_pop]
      exact hledger.deliver

/-- **Every call sequence has its history.** -/
theorem afterCalls (hbytes : 0 < stream.bytesPerFrame) (haligned : FrameAligned stream calls) :
    BufferHistory secsF64 profile stream calls
      (ReceiverPacketBuffer.afterCalls secsF64 profile stream calls) := by
  induction calls using List.reverseRecOn with
  | nil => exact .new
  | append_singleton calls call ih =>
    have ih := ih haligned.of_append
    rw [ReceiverPacketBuffer.afterCalls, List.foldl_append]
    cases call with
    | push packet =>
      exact ih.push hbytes (haligned packet (by rw [pushedPackets_push]; simp))
    | pop => exact ih.pop

/-- The frames in the buffer are the frames of the last packets pushed. -/
theorem frames_eq (h : BufferHistory secsF64 profile stream calls buffer) :
    frames buffer.packets = lastFrames stream buffer.packets.length calls := by
  obtain ⟨delivered, lost, hledger⟩ := h.ledger
  have hdrop := congrArg frames hledger.queued_eq_drop
  rw [hdrop, List.length_map, ← List.map_drop, frames, List.map_map]
  rfl

end BufferHistory

/-! ### When a full buffer is ready -/

theorem ReceiverLatencyPreset.targetBufferMs_pos (preset : ReceiverLatencyPreset) :
    0 < preset.profile.targetBufferMs.toNat := by
  cases preset <;> decide

/-- A full buffer is ready when its frames last for the target duration. -/
theorem BufferHistory.isReady_iff {secsF64 : SecsF64} {preset : ReceiverLatencyPreset}
    {stream : ReceiverStreamConfig} {calls : List BufferCall} {buffer : ReceiverPacketBuffer}
    (h : BufferHistory secsF64 preset.profile stream calls buffer)
    (hrate : stream.sampleRateHz ≠ 0)
    (hfull : buffer.packets.length = (ReceiverPacketBuffer.new secsF64 preset.profile stream).maxPackets) :
    buffer.isReady = true ↔
      preset.profile.targetBufferMs.toNat * stream.sampleRateHz.toNat ≤
        frames buffer.packets * 1000 := by
  have hthreshold := h.wellFormed.threshold
  rw [h.limits.maxPackets, ← hfull] at hthreshold
  have hready := ReceiverPacketBuffer.isReady_iff h.wellFormed
    (by rw [h.limits.sampleRateHz]; exact hrate)
    (by rw [h.limits.targetBufferMs]; exact preset.targetBufferMs_pos)
    (by rw [h.limits.targetBufferMs]; exact preset.profile.targetBufferMs.toNat_lt) hthreshold
  rw [hready, h.limits.sampleRateHz, h.limits.targetBufferMs]
  rfl

/-- **When a full buffer is ready.** For every preset, every stream with a sample rate and channels
and every sequence of calls: a buffer that is full after these calls is ready exactly when, if the
calls leave `max_packets` packets outstanding, the last `max_packets` packets pushed last for the
target duration. -/
theorem full_buffer_ready_iff (secsF64 : SecsF64) (preset : ReceiverLatencyPreset)
    (stream : ReceiverStreamConfig) (calls : List BufferCall) (hrate : stream.sampleRateHz ≠ 0)
    (hchannels : stream.channels ≠ 0) (haligned : FrameAligned stream calls) :
    ((afterCalls secsF64 preset.profile stream calls).packets.length =
          (new secsF64 preset.profile stream).maxPackets →
        (afterCalls secsF64 preset.profile stream calls).isReady = true) ↔
      (outstanding (new secsF64 preset.profile stream).maxPackets calls =
          (new secsF64 preset.profile stream).maxPackets →
        preset.profile.targetBufferMs.toNat * stream.sampleRateHz.toNat ≤
          lastFrames stream (new secsF64 preset.profile stream).maxPackets calls * 1000) := by
  have h : BufferHistory secsF64 preset.profile stream calls _ :=
    .afterCalls (ReceiverStreamConfig.bytesPerFrame_pos hchannels) haligned
  have hlength := h.length
  rw [h.limits.maxPackets] at hlength
  rw [← hlength]
  refine forall_congr' fun hfull ↦ ?_
  rw [h.isReady_iff hrate hfull, h.frames_eq, hfull]

/-- Eleven packets of a single frame, on a stream that announced 480 frames a packet. -/
def shortPackets : List BufferCall :=
  List.replicate 11 (.push ⟨0, 0, 0, [0, 0, 0, 0]⟩)

/-- Exact division, rounded down: a packet duration within a nanosecond. -/
def exactSecs : SecsF64 := fun frames rate ↦ frames * 1000000000 / rate

theorem full_buffer_ready_iff_short :
    ((afterCalls exactSecs ReceiverLatencyPreset.lowLatency.profile {} shortPackets).packets.length =
          (new exactSecs ReceiverLatencyPreset.lowLatency.profile {}).maxPackets →
        (afterCalls exactSecs ReceiverLatencyPreset.lowLatency.profile {} shortPackets).isReady =
          true) ↔
      (outstanding (new exactSecs ReceiverLatencyPreset.lowLatency.profile {}).maxPackets
          shortPackets = (new exactSecs ReceiverLatencyPreset.lowLatency.profile {}).maxPackets →
        30 * 48000 ≤ lastFrames {}
          (new exactSecs ReceiverLatencyPreset.lowLatency.profile {}).maxPackets shortPackets * 1000) :=
  full_buffer_ready_iff exactSecs .lowLatency {} shortPackets (by decide) (by decide)
    (by unfold FrameAligned; decide)

/-- **Full and not ready.** With the low-latency preset and the default stream, eleven packets of one
frame fill the buffer and hold no whole millisecond of audio. -/
theorem full_buffer_not_ready :
    FrameAligned {} shortPackets ∧ (∀ packet ∈ pushedPackets shortPackets, packet.payload ≠ []) ∧
      (afterCalls exactSecs ReceiverLatencyPreset.lowLatency.profile {} shortPackets).packets.length =
        (afterCalls exactSecs ReceiverLatencyPreset.lowLatency.profile {} shortPackets).maxPackets ∧
      (afterCalls exactSecs ReceiverLatencyPreset.lowLatency.profile {} shortPackets).isReady =
        false := by
  refine ⟨by unfold FrameAligned; decide, by decide, by decide, by decide⟩

/-! ### Packets as long as announced -/

/-- The capacity covers the maximal duration, as measured in packet durations. -/
theorem le_packetCountForDuration {target packetDuration : ℕ} (hpos : 0 < packetDuration)
    (htarget : 0 < target) (hword : target < 2 ^ 64) :
    target ≤ packetCountForDuration target packetDuration * packetDuration := by
  have hceil : (target + packetDuration - 1) / packetDuration ≤ target := by
    rw [Nat.div_le_iff_le_mul_add_pred hpos]
    have := Nat.mul_le_mul_right target (Nat.succ_le_of_lt hpos)
    omega
  have hcount : packetCountForDuration target packetDuration =
      (target + packetDuration - 1) / packetDuration := by
    rw [packetCountForDuration, if_neg (Nat.pos_iff_ne_zero.1 hpos),
      max_eq_left (Nat.succ_le_of_lt htarget)]
    exact min_eq_left (hceil.trans (by simp only [Word.max]; omega))
  have hdiv := Nat.div_add_mod (target + packetDuration - 1) packetDuration
  have hmod := Nat.mod_lt (target + packetDuration - 1) hpos
  rw [hcount, Nat.mul_comm]
  omega

/-- As many full packets as the buffer holds last for the target duration. -/
theorem target_le_of_capacity (preset : ReceiverLatencyPreset) (secsF64 : SecsF64)
    (stream : ReceiverStreamConfig)
    (haccurate : stream.packetDuration secsF64 * stream.sampleRateHz.toNat ≤
      stream.framesPerPacket.toNat * 1000000000 + stream.sampleRateHz.toNat)
    (hmeasurable : 2 ≤ stream.packetDuration secsF64) :
    preset.profile.targetBufferMs.toNat * stream.sampleRateHz.toNat ≤
      (new secsF64 preset.profile stream).maxPackets * stream.framesPerPacket.toNat * 1000 := by
  obtain ⟨p, hp⟩ : ∃ p : ℕ, stream.packetDuration secsF64 = p := ⟨_, rfl⟩
  rw [hp] at haccurate hmeasurable
  have hprofile : 2 * preset.profile.targetBufferMs.toNat ≤ preset.profile.maxBufferMs.toNat ∧
      0 < preset.profile.maxBufferMs.toNat := by
    cases preset <;> decide
  have hcapacity : preset.profile.maxBufferMs.toNat * 1000000 ≤
      (new secsF64 preset.profile stream).maxPackets * p := by
    have hword := preset.profile.maxBufferMs.toNat_lt
    rw [← hp]
    exact (le_packetCountForDuration (by rw [hp]; exact lt_of_lt_of_le Nat.two_pos hmeasurable)
      (by omega) (by omega)).trans (Nat.mul_le_mul_right _ (le_max_left _ _))
  generalize (new secsF64 preset.profile stream).maxPackets = n at hcapacity ⊢
  generalize stream.framesPerPacket.toNat = frames at haccurate ⊢
  generalize stream.sampleRateHz.toNat = rate at haccurate ⊢
  generalize preset.profile.targetBufferMs.toNat = target at hprofile ⊢
  have hmeasurable' : (2 : ℕ) ≤ p := hmeasurable
  have haccurate' : p * rate ≤ frames * 1000000000 + rate := haccurate
  -- `p` is at most twice what is left of it when one nanosecond is lost to rounding
  obtain ⟨q, rfl⟩ : ∃ q, p = q + 1 := ⟨p - 1, by omega⟩
  have htarget : target * 1000000 ≤ n * q := by
    have hle : q + 1 ≤ 2 * q := by omega
    have hdouble : n * (q + 1) ≤ 2 * (n * q) :=
      (Nat.mul_le_mul_left n hle).trans_eq (Nat.mul_left_comm n 2 q)
    have hmax : 2 * (target * 1000000) ≤ preset.profile.maxBufferMs.toNat * 1000000 := by
      rw [← Nat.mul_assoc]
      exact Nat.mul_le_mul_right _ hprofile.1
    exact Nat.le_of_mul_le_mul_left (hmax.trans (hcapacity.trans hdouble)) Nat.two_pos
  have hrate : q * rate ≤ frames * 1000000000 := by
    rw [Nat.add_mul, Nat.one_mul] at haccurate'
    omega
  refine Nat.le_of_mul_le_mul_right ?_ (by norm_num : 0 < 1000000)
  calc target * rate * 1000000 = target * 1000000 * rate := by ring
    _ ≤ n * q * rate := Nat.mul_le_mul_right rate htarget
    _ = n * (q * rate) := Nat.mul_assoc n q rate
    _ ≤ n * (frames * 1000000000) := Nat.mul_le_mul_left n hrate
    _ = n * frames * 1000 * 1000000 := by ring

/-- **The buffer works as designed for packets as long as announced**: with a packet duration of at
least two nanoseconds that is accurate to one, a full buffer is ready. -/
theorem full_packets_ready (secsF64 : SecsF64) (preset : ReceiverLatencyPreset)
    (stream : ReceiverStreamConfig) (calls : List BufferCall) (hrate : stream.sampleRateHz ≠ 0)
    (hchannels : stream.channels ≠ 0) (haligned : FrameAligned stream calls)
    (haccurate : stream.packetDuration secsF64 * stream.sampleRateHz.toNat ≤
      stream.framesPerPacket.toNat * 1000000000 + stream.sampleRateHz.toNat)
    (hmeasurable : 2 ≤ stream.packetDuration secsF64)
    (hlong : ∀ packet ∈ pushedPackets calls,
      stream.framesPerPacket.toNat ≤ packet.frames stream)
    (hfull : (afterCalls secsF64 preset.profile stream calls).packets.length =
      (new secsF64 preset.profile stream).maxPackets) :
    (afterCalls secsF64 preset.profile stream calls).isReady = true := by
  have h : BufferHistory secsF64 preset.profile stream calls _ :=
    .afterCalls (ReceiverStreamConfig.bytesPerFrame_pos hchannels) haligned
  rw [h.isReady_iff hrate hfull]
  obtain ⟨delivered, lost, hledger⟩ := h.ledger
  have hframes : (afterCalls secsF64 preset.profile stream calls).packets.length *
      stream.framesPerPacket.toNat ≤
      frames (afterCalls secsF64 preset.profile stream calls).packets := by
    rw [frames, ← List.length_map BufferedPacket.frameCount, ← smul_eq_mul]
    refine List.card_nsmul_le_sum _ _ fun count hmem ↦ ?_
    obtain ⟨buffered, hbuffered, rfl⟩ := List.mem_map.1 hmem
    obtain ⟨packet, hpacket, rfl⟩ := List.mem_map.1 (hledger.suffix.subset hbuffered)
    exact hlong packet hpacket
  refine le_trans ?_ (Nat.mul_le_mul_right 1000 hframes)
  rw [hfull]
  exact target_le_of_capacity preset secsF64 stream haccurate hmeasurable

end SynchroSonic
