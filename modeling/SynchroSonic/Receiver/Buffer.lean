import SynchroSonic.Core.Error
import SynchroSonic.Core.Receiver

/-!
# The receiver's packet buffer

`ReceiverPacketBuffer`: a bounded queue of packets that counts the frames it holds. The capacity is a
number of packets, derived from the announced packet size; readiness asks for a number of packets and
for an amount of audio.
-/

namespace SynchroSonic

/-- `BufferPushOutcome`. -/
inductive BufferPushOutcome
  | accepted
  | droppedOldest (droppedSequence : UInt64)
  deriving DecidableEq, Repr

/-- `BufferedPacket`. -/
structure BufferedPacket where
  packet : ReceiverAudioPacket
  frameCount : ℕ
  deriving DecidableEq, Repr

/-- `ReceiverPacketBuffer`. -/
structure ReceiverPacketBuffer where
  packets : List BufferedPacket
  queuedFrames : ℕ
  sampleRateHz : UInt32
  targetBufferMs : ℕ
  maxBufferMs : ℕ
  startThresholdPackets : ℕ
  maxPackets : ℕ
  deriving DecidableEq, Repr

namespace ReceiverPacketBuffer

def new (secsF64 : SecsF64) (profile : ReceiverLatencyProfile) (stream : ReceiverStreamConfig) :
    ReceiverPacketBuffer :=
  let (startThresholdPackets, maxPackets) := profile.bufferPacketLimits secsF64 stream
  { packets := []
    queuedFrames := 0
    sampleRateHz := stream.sampleRateHz
    targetBufferMs := profile.targetBufferMs.toNat
    maxBufferMs := max profile.maxBufferMs.toNat profile.targetBufferMs.toNat
    startThresholdPackets := max startThresholdPackets 1
    maxPackets := max maxPackets (max startThresholdPackets 1) }

def clear (buffer : ReceiverPacketBuffer) : ReceiverPacketBuffer :=
  { buffer with packets := [], queuedFrames := 0 }

/-- `queued_audio_ms`: saturating in 64 bits, then cut to 32. -/
def queuedAudioMs (buffer : ReceiverPacketBuffer) : ℕ :=
  if buffer.sampleRateHz = 0 ∨ buffer.queuedFrames = 0 then 0
  else min (Word.satMul 64 buffer.queuedFrames 1000 / buffer.sampleRateHz.toNat) (Word.max 32)

def isReady (buffer : ReceiverPacketBuffer) : Bool :=
  buffer.startThresholdPackets ≤ buffer.packets.length &&
    max buffer.targetBufferMs 1 ≤ buffer.queuedAudioMs

/-- `pop`. -/
def pop (buffer : ReceiverPacketBuffer) : Option (BufferedPacket × ReceiverPacketBuffer) :=
  match buffer.packets with
  | [] => none
  | packet :: packets =>
    some (packet, { buffer with packets, queuedFrames := buffer.queuedFrames - packet.frameCount })

def front (buffer : ReceiverPacketBuffer) : Option BufferedPacket := buffer.packets.head?

/-- Make room for a packet: a full buffer drops its oldest one. -/
def makeRoom (buffer : ReceiverPacketBuffer) : BufferPushOutcome × ReceiverPacketBuffer :=
  if buffer.packets.length = buffer.maxPackets then
    match buffer.pop with
    | none => (.accepted, buffer)
    | some (dropped, buffer) => (.droppedOldest dropped.packet.sequence, buffer)
  else (.accepted, buffer)

/-- `push`, as the method it is: it changes the buffer in place, so that a push that fails leaves a buffer
to speak about. -/
def pushInPlace (packet : ReceiverAudioPacket) (stream : ReceiverStreamConfig)
    (buffer : ReceiverPacketBuffer) :
    Except ReceiverError BufferPushOutcome × ReceiverPacketBuffer :=
  match packet.frameCount stream with
  | .error message => (.error (.invalidTransport message), buffer)
  | .ok frameCount =>
    let (outcome, buffer) := buffer.makeRoom
    (.ok outcome, { buffer with
      queuedFrames := buffer.queuedFrames + frameCount
      packets := buffer.packets ++ [⟨packet, frameCount⟩] })

/-- `push`, for a caller that looks at the buffer only if it succeeds. -/
def push (packet : ReceiverAudioPacket) (stream : ReceiverStreamConfig)
    (buffer : ReceiverPacketBuffer) :
    Except ReceiverError (BufferPushOutcome × ReceiverPacketBuffer) :=
  match buffer.pushInPlace packet stream with
  | (.error error, _) => .error error
  | (.ok outcome, buffer) => .ok (outcome, buffer)

def snapshot (buffer : ReceiverPacketBuffer) : ReceiverBufferSnapshot where
  queuedPackets := Word.wrap 32 buffer.packets.length
  queuedFrames := buffer.queuedFrames
  queuedAudioMs := buffer.queuedAudioMs
  targetBufferMs := buffer.targetBufferMs
  maxBufferMs := buffer.maxBufferMs
  startThresholdPackets := Word.wrap 32 buffer.startThresholdPackets
  maxPackets := Word.wrap 32 buffer.maxPackets

/-! ### The count of frames -/

/-- The frames of the packets in the buffer. -/
def frames (packets : List BufferedPacket) : ℕ := (packets.map BufferedPacket.frameCount).sum

/-- The buffer counts its frames correctly and is within its capacity, which is not below its
threshold, which is not zero. -/
structure WellFormed (buffer : ReceiverPacketBuffer) : Prop where
  queuedFrames : buffer.queuedFrames = frames buffer.packets
  length : buffer.packets.length ≤ buffer.maxPackets
  threshold : buffer.startThresholdPackets ≤ buffer.maxPackets
  threshold_pos : 0 < buffer.startThresholdPackets

/-- Two buffers were made for the same stream with the same limits. -/
structure SameLimits (buffer buffer' : ReceiverPacketBuffer) : Prop where
  sampleRateHz : buffer'.sampleRateHz = buffer.sampleRateHz
  targetBufferMs : buffer'.targetBufferMs = buffer.targetBufferMs
  maxBufferMs : buffer'.maxBufferMs = buffer.maxBufferMs
  startThresholdPackets : buffer'.startThresholdPackets = buffer.startThresholdPackets
  maxPackets : buffer'.maxPackets = buffer.maxPackets

theorem SameLimits.refl (buffer : ReceiverPacketBuffer) : SameLimits buffer buffer :=
  ⟨rfl, rfl, rfl, rfl, rfl⟩

theorem SameLimits.trans {buffer buffer' buffer'' : ReceiverPacketBuffer}
    (h : SameLimits buffer buffer') (h' : SameLimits buffer' buffer'') :
    SameLimits buffer buffer'' where
  sampleRateHz := h'.sampleRateHz.trans h.sampleRateHz
  targetBufferMs := h'.targetBufferMs.trans h.targetBufferMs
  maxBufferMs := h'.maxBufferMs.trans h.maxBufferMs
  startThresholdPackets := h'.startThresholdPackets.trans h.startThresholdPackets
  maxPackets := h'.maxPackets.trans h.maxPackets

theorem wellFormed_new (secsF64 : SecsF64) (profile : ReceiverLatencyProfile)
    (stream : ReceiverStreamConfig) : (new secsF64 profile stream).WellFormed where
  queuedFrames := rfl
  length := Nat.zero_le _
  threshold := le_max_right _ _
  threshold_pos := lt_of_lt_of_le Nat.one_pos (le_max_right _ _)

variable {buffer buffer' : ReceiverPacketBuffer}

/-- **What `pop` does**: it hands out the head of the queue. -/
theorem pop_eq_some {packet : BufferedPacket} (h : buffer.pop = some (packet, buffer')) :
    buffer.packets = packet :: buffer'.packets ∧ SameLimits buffer buffer' ∧
      (buffer.WellFormed → buffer'.WellFormed) := by
  unfold pop at h
  split at h
  · exact nomatch h
  next head packets hpackets =>
  obtain ⟨rfl, rfl⟩ := Prod.mk.inj (Option.some.inj h)
  refine ⟨hpackets, ⟨rfl, rfl, rfl, rfl, rfl⟩, fun hwf ↦ ⟨?_, ?_, hwf.threshold, hwf.threshold_pos⟩⟩
  · have := hwf.queuedFrames
    simp only [hpackets, frames, List.map_cons, List.sum_cons] at this ⊢
    omega
  · have := hwf.length
    simp only [hpackets, List.length_cons] at this ⊢
    omega

theorem pop_eq_none (h : buffer.pop = none) : buffer.packets = [] := by
  unfold pop at h
  split at h
  next hpackets => exact hpackets
  · exact nomatch h

theorem front_eq_none : buffer.front = none ↔ buffer.packets = [] := List.head?_eq_none_iff

theorem pop_of_front {packet : BufferedPacket} (h : buffer.front = some packet) :
    ∃ buffer', buffer.pop = some (packet, buffer') := by
  obtain ⟨packets, hpackets⟩ := List.head?_eq_some_iff.1 h
  unfold pop
  rw [hpackets]
  exact ⟨_, rfl⟩

/-- A buffer has room, or its oldest packet goes. -/
theorem makeRoom_cases (buffer : ReceiverPacketBuffer) :
    (buffer.makeRoom = (.accepted, buffer) ∧
        (buffer.packets = [] ∨ buffer.packets.length ≠ buffer.maxPackets)) ∨
      ∃ dropped rest, buffer.makeRoom = (.droppedOldest dropped.packet.sequence, rest) ∧
        buffer.pop = some (dropped, rest) ∧ buffer.packets.length = buffer.maxPackets := by
  unfold makeRoom
  split
  next hfull =>
    rcases hpop : buffer.pop with - | ⟨dropped, rest⟩
    · exact Or.inl ⟨rfl, Or.inl (pop_eq_none hpop)⟩
    · exact Or.inr ⟨dropped, rest, rfl, rfl, hfull⟩
  next hroom => exact Or.inl ⟨rfl, Or.inr hroom⟩

theorem frames_append (packets : List BufferedPacket) (packet : BufferedPacket) :
    frames (packets ++ [packet]) = frames packets + packet.frameCount := by
  simp [frames]

/-- Appending a packet to a buffer with room keeps it well-formed. -/
theorem WellFormed.append (hwf : buffer.WellFormed) (hroom : buffer.packets.length < buffer.maxPackets)
    (packet : BufferedPacket) :
    WellFormed { buffer with
      queuedFrames := buffer.queuedFrames + packet.frameCount
      packets := buffer.packets ++ [packet] } where
  queuedFrames := by rw [frames_append, ← hwf.queuedFrames]
  length := by
    simp only [List.length_append, List.length_singleton]
    omega
  threshold := hwf.threshold
  threshold_pos := hwf.threshold_pos

/-- What `push` does with the queue. -/
inductive PushEffect (buffer buffer' : ReceiverPacketBuffer) (packet : BufferedPacket) :
    BufferPushOutcome → Prop
  /-- There was room. -/
  | accepted (packets : buffer'.packets = buffer.packets ++ [packet]) :
      PushEffect buffer buffer' packet .accepted
  /-- The oldest packet made room. -/
  | droppedOldest {dropped : BufferedPacket} {rest : List BufferedPacket}
      (before : buffer.packets = dropped :: rest) (full : buffer.packets.length = buffer.maxPackets)
      (packets : buffer'.packets = rest ++ [packet]) :
      PushEffect buffer buffer' packet (.droppedOldest dropped.packet.sequence)

theorem push_of_pushInPlace {packet : ReceiverAudioPacket} {stream : ReceiverStreamConfig}
    {outcome : BufferPushOutcome} (h : buffer.pushInPlace packet stream = (.ok outcome, buffer')) :
    buffer.push packet stream = .ok (outcome, buffer') := by
  rw [push, h]

theorem pushInPlace_of_push {packet : ReceiverAudioPacket} {stream : ReceiverStreamConfig}
    {outcome : BufferPushOutcome} (h : buffer.push packet stream = .ok (outcome, buffer')) :
    buffer.pushInPlace packet stream = (.ok outcome, buffer') := by
  unfold push at h
  split at h
  · cases h
  next made after hpush =>
    obtain ⟨rfl, rfl⟩ := Prod.mk.inj (Except.ok.inj h)
    exact hpush

/-- **What `push` does**, when the payload is a whole number of frames. -/
theorem push_eq_ok {packet : ReceiverAudioPacket} {stream : ReceiverStreamConfig}
    {outcome : BufferPushOutcome} (h : buffer.push packet stream = .ok (outcome, buffer')) :
    ∃ frameCount, packet.frameCount stream = .ok frameCount ∧
      PushEffect buffer buffer' ⟨packet, frameCount⟩ outcome ∧ SameLimits buffer buffer' ∧
      (buffer.WellFormed → buffer'.WellFormed) := by
  replace h := pushInPlace_of_push h
  unfold pushInPlace at h
  split at h
  · cases (Prod.mk.inj h).1
  next frameCount hcount =>
  refine ⟨frameCount, hcount, ?_⟩
  rcases makeRoom_cases buffer with ⟨hmake, hroom⟩ | ⟨dropped, rest, hmake, hpop, hfull⟩
  · rw [hmake] at h
    obtain ⟨houtcome, rfl⟩ := Prod.mk.inj h
    obtain rfl := Except.ok.inj houtcome
    refine ⟨.accepted rfl, ⟨rfl, rfl, rfl, rfl, rfl⟩, fun hwf ↦ hwf.append ?_ ⟨packet, frameCount⟩⟩
    have hlen := hwf.length
    have hthreshold := hwf.threshold
    have hpos := hwf.threshold_pos
    rcases hroom with hempty | hroom
    · rw [hempty, List.length_nil]
      omega
    · omega
  · rw [hmake] at h
    obtain ⟨houtcome, rfl⟩ := Prod.mk.inj h
    obtain rfl := Except.ok.inj houtcome
    obtain ⟨hpackets, hlimits, hrest⟩ := pop_eq_some hpop
    refine ⟨.droppedOldest hpackets hfull rfl, ⟨hlimits.1, hlimits.2, hlimits.3, hlimits.4, hlimits.5⟩,
      fun hwf ↦ (hrest hwf).append ?_ ⟨packet, frameCount⟩⟩
    rw [hpackets, List.length_cons] at hfull
    rw [hlimits.maxPackets]
    omega

theorem push_of_frameCount {packet : ReceiverAudioPacket} {stream : ReceiverStreamConfig}
    {frameCount : ℕ} (h : packet.frameCount stream = .ok frameCount)
    (buffer : ReceiverPacketBuffer) :
    ∃ outcome buffer', buffer.push packet stream = .ok (outcome, buffer') := by
  simp only [push, pushInPlace, h]
  exact ⟨_, _, rfl⟩

/-! ### Readiness -/

/-- **Readiness, in frames.** With enough packets, a buffer is ready when its frames last for the
target duration. -/
theorem isReady_iff (hwf : buffer.WellFormed) (hrate : buffer.sampleRateHz ≠ 0)
    (htarget : 0 < buffer.targetBufferMs) (hword : buffer.targetBufferMs < 2 ^ 16)
    (hlen : buffer.startThresholdPackets ≤ buffer.packets.length) :
    buffer.isReady = true ↔
      buffer.targetBufferMs * buffer.sampleRateHz.toNat ≤ frames buffer.packets * 1000 := by
  have hrate' : 0 < buffer.sampleRateHz.toNat :=
    Nat.pos_of_ne_zero fun h ↦ hrate (UInt32.toNat_inj.1 h)
  have hmax : max buffer.targetBufferMs 1 = buffer.targetBufferMs := max_eq_left htarget
  rw [← hwf.queuedFrames]
  simp only [isReady, hlen, decide_true, Bool.true_and, decide_eq_true_eq, hmax, queuedAudioMs,
    hrate, false_or]
  split
  next hzero =>
    rw [hzero, Nat.zero_mul]
    have := Nat.mul_pos htarget hrate'
    omega
  next hframes =>
    have hfit : buffer.targetBufferMs * buffer.sampleRateHz.toNat ≤ Word.max 64 := by
      have := Nat.mul_le_mul hword.le buffer.sampleRateHz.toNat_lt.le
      simp only [Word.max]
      omega
    have hcap : buffer.targetBufferMs ≤ Word.max 32 := by
      simp only [Word.max]
      omega
    rw [le_min_iff, Word.le_satMul_div_iff hrate' hfit]
    exact and_iff_left hcap

end ReceiverPacketBuffer

end SynchroSonic
