import SynchroSonic.Machine.DropOldest
import SynchroSonic.Machine.Mealy
import SynchroSonic.Receiver.Buffer

/-!
# The packet buffer as a bounded queue

`ReceiverPacketBuffer` against its reference, the drop-oldest queue of `max_packets` packets: the two
answer every sequence of calls alike, and hold the same packets. What the buffer keeps besides, the
count of its frames, is the sum over these packets. The calls are `pushInPlace`, by which the worker's
`push` is defined, `pop` and `clear`.
-/

namespace SynchroSonic

/-- A call on the buffer. Every push brings the stream it is measured by. -/
inductive BufferOp
  | push (packet : ReceiverAudioPacket) (stream : ReceiverStreamConfig)
  | pop
  | clear
  deriving DecidableEq, Repr

/-- What a call returns. -/
inductive BufferAnswer
  | pushed (result : Except ReceiverError BufferPushOutcome)
  | popped (packet : Option BufferedPacket)
  | cleared

namespace ReceiverPacketBuffer

/-- A push that fails leaves the buffer as it was. -/
theorem pushInPlace_of_error {packet : ReceiverAudioPacket} {stream : ReceiverStreamConfig}
    {buffer : ReceiverPacketBuffer} {error : ReceiverError}
    (h : (buffer.pushInPlace packet stream).1 = .error error) :
    (buffer.pushInPlace packet stream).2 = buffer := by
  rcases hcount : packet.frameCount stream with message | frameCount
  · simp only [pushInPlace, hcount]
  · simp only [pushInPlace, hcount] at h
    cases h

/-- A call, with its answer and the buffer it leaves. -/
def perform (buffer : ReceiverPacketBuffer) : BufferOp → BufferAnswer × ReceiverPacketBuffer
  | .push packet stream =>
    let (result, buffer) := buffer.pushInPlace packet stream
    (.pushed result, buffer)
  | .pop =>
    match buffer.pop with
    | none => (.popped none, buffer)
    | some (packet, buffer) => (.popped (some packet), buffer)
  | .clear => (.cleared, buffer.clear)

/-! ### The reference -/

/-- The reference for a call: a list of packets, of which a full one gives up its head for a new one,
and reports the sequence number of that head. -/
def reference (maxPackets : ℕ) (queue : List BufferedPacket) :
    BufferOp → BufferAnswer × List BufferedPacket
  | .push packet stream =>
    match packet.frameCount stream with
    | .error message => (.pushed (.error (.invalidTransport message)), queue)
    | .ok frameCount =>
      (.pushed (.ok (match DropOldest.evicted maxPackets queue with
          | none => .accepted
          | some head => .droppedOldest head.packet.sequence)),
        DropOldest.push maxPackets queue ⟨packet, frameCount⟩)
  | .pop => (.popped queue.head?, queue.tail)
  | .clear => (.cleared, [])

/-! ### A call against the reference -/

/-- The buffer holds what the reference holds, and counts it correctly. -/
structure Represents (start buffer : ReceiverPacketBuffer) (queue : List BufferedPacket) : Prop where
  packets : buffer.packets = queue
  wellFormed : buffer.WellFormed
  limits : SameLimits start buffer

variable {start buffer : ReceiverPacketBuffer} {queue : List BufferedPacket}

theorem Represents.new (secsF64 : SecsF64) (profile : ReceiverLatencyProfile)
    (stream : ReceiverStreamConfig) :
    Represents (new secsF64 profile stream) (ReceiverPacketBuffer.new secsF64 profile stream) [] where
  packets := rfl
  wellFormed := wellFormed_new secsF64 profile stream
  limits := .refl _

/-- No subtraction of frames saturates: the head has no more of them than the queue. -/
theorem WellFormed.head_le (h : buffer.WellFormed) {packet : BufferedPacket}
    (hhead : buffer.packets.head? = some packet) : packet.frameCount ≤ buffer.queuedFrames := by
  obtain ⟨rest, hpackets⟩ := List.head?_eq_some_iff.1 hhead
  rw [h.queuedFrames, hpackets, frames, List.map_cons, List.sum_cons]
  exact Nat.le_add_right _ _

theorem Represents.push (h : Represents start buffer queue) (packet : ReceiverAudioPacket)
    (stream : ReceiverStreamConfig) :
    (buffer.perform (.push packet stream)).1 =
        (reference start.maxPackets queue (.push packet stream)).1 ∧
      Represents start (buffer.perform (.push packet stream)).2
        (reference start.maxPackets queue (.push packet stream)).2 := by
  rcases hcount : packet.frameCount stream with message | frameCount
  · simp only [perform, reference, pushInPlace, hcount]
    exact ⟨trivial, h⟩
  obtain ⟨outcome, next, hmethod⟩ :
      ∃ outcome next, buffer.pushInPlace packet stream = (.ok outcome, next) := by
    unfold pushInPlace
    rw [hcount]
    exact ⟨_, _, rfl⟩
  obtain ⟨frameCount', hcount', heffect, hlimits, hwf⟩ := push_eq_ok (push_of_pushInPlace hmethod)
  obtain rfl := Except.ok.inj (hcount.symm.trans hcount')
  have hnext := hwf h.wellFormed
  have hcapacity : buffer.maxPackets = start.maxPackets := h.limits.maxPackets
  simp only [perform, reference, hmethod, hcount]
  cases heffect with
  | accepted packets =>
    -- The packet is in, and within the bound, so there was room for it.
    have hroom : queue.length ≠ start.maxPackets := by
      have hlength := hnext.length
      rw [packets, List.length_append, List.length_singleton, hlimits.maxPackets] at hlength
      rw [← h.packets, ← hcapacity]
      omega
    obtain ⟨hkept, hqueue⟩ := DropOldest.push_of_room (⟨packet, frameCount⟩ : BufferedPacket) hroom
    rw [hkept, hqueue]
    exact ⟨rfl, by rw [packets, h.packets], hnext, h.limits.trans hlimits⟩
  | droppedOldest before full packets =>
    obtain ⟨hhead, hqueue⟩ := DropOldest.push_of_full (⟨packet, frameCount⟩ : BufferedPacket)
      (h.packets.symm.trans before) (by rw [← h.packets, full, hcapacity])
    rw [hhead, hqueue]
    exact ⟨rfl, packets, hnext, h.limits.trans hlimits⟩

theorem Represents.pop (h : Represents start buffer queue) :
    (buffer.perform .pop).1 = (reference start.maxPackets queue .pop).1 ∧
      Represents start (buffer.perform .pop).2 (reference start.maxPackets queue .pop).2 := by
  simp only [perform, reference]
  rcases hpop : buffer.pop with - | ⟨packet, next⟩
  · have hempty : queue = [] := h.packets.symm.trans (pop_eq_none hpop)
    subst hempty
    exact ⟨rfl, h⟩
  · obtain ⟨hpackets, hlimits, hwf⟩ := pop_eq_some hpop
    rw [← h.packets, hpackets]
    exact ⟨rfl, rfl, hwf h.wellFormed, h.limits.trans hlimits⟩

theorem Represents.clear (h : Represents start buffer queue) :
    Represents start buffer.clear [] where
  packets := rfl
  wellFormed := ⟨rfl, Nat.zero_le _, h.wellFormed.threshold, h.wellFormed.threshold_pos⟩
  limits := ⟨h.limits.sampleRateHz, h.limits.targetBufferMs, h.limits.maxBufferMs,
    h.limits.startThresholdPackets, h.limits.maxPackets⟩

/-- **Every call answers like the reference.** -/
theorem Represents.perform (h : Represents start buffer queue) (op : BufferOp) :
    (buffer.perform op).1 = (reference start.maxPackets queue op).1 ∧
      Represents start (buffer.perform op).2 (reference start.maxPackets queue op).2 := by
  cases op with
  | push packet stream => exact h.push packet stream
  | pop => exact h.pop
  | clear => exact ⟨rfl, h.clear⟩

/-- **The buffer is a bounded drop-oldest queue.** For every profile, every stream and every sequence of
calls, each push with a stream of its own: the buffer answers like the reference and holds the same
packets, so that a push gives up the head of a full queue, and reports it, and nothing else is lost.
The frames it counts are those of its packets, and no head has more, so that no subtraction saturates;
the bounds hold; and a push that fails leaves the buffer as it was. -/
theorem buffer_refines (secsF64 : SecsF64) (profile : ReceiverLatencyProfile)
    (stream : ReceiverStreamConfig) (ops : List BufferOp) :
    Mealy.answers perform (new secsF64 profile stream) ops =
        Mealy.answers (reference (new secsF64 profile stream).maxPackets) [] ops ∧
      ∃ buffer, Mealy.after perform (new secsF64 profile stream) ops = buffer ∧
        buffer.packets = Mealy.after (reference (new secsF64 profile stream).maxPackets) [] ops ∧
        buffer.maxPackets = (new secsF64 profile stream).maxPackets ∧
        buffer.packets.length ≤ buffer.maxPackets ∧
        1 ≤ buffer.startThresholdPackets ∧ buffer.startThresholdPackets ≤ buffer.maxPackets ∧
        buffer.queuedFrames = (buffer.packets.map BufferedPacket.frameCount).sum ∧
        (∀ head, buffer.packets.head? = some head → head.frameCount ≤ buffer.queuedFrames) ∧
        ∀ packet stream error, (buffer.pushInPlace packet stream).1 = .error error →
          (buffer.pushInPlace packet stream).2 = buffer := by
  obtain ⟨hanswers, hafter⟩ := @Mealy.refines _ _ _ _ ReceiverPacketBuffer.perform
    (reference (new secsF64 profile stream).maxPackets) (Represents (new secsF64 profile stream))
    (fun _ _ op h ↦ h.perform op) _ _ (Represents.new secsF64 profile stream) ops
  refine ⟨hanswers, _, rfl, hafter.packets, hafter.limits.maxPackets, hafter.wellFormed.length,
    hafter.wellFormed.threshold_pos, hafter.wellFormed.threshold, hafter.wellFormed.queuedFrames,
    fun head hhead ↦ hafter.wellFormed.head_le hhead, fun _ _ _ ↦ pushInPlace_of_error⟩

end ReceiverPacketBuffer

end SynchroSonic
