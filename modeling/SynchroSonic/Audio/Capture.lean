import SynchroSonic.Core.Audio
import SynchroSonic.Core.Models
import SynchroSonic.Machine.BufReader
import SynchroSonic.Machine.Loop

/-!
# The capture loop

`capture_stdout_loop` turns the output of `pw-record` into audio frames: it asks a buffered reader for
one chunk after the other and wraps whatever arrives. `captureStdoutLoop_frames` says what comes of
it: what the calls to the pipe return, each cut in chunks of its own. The loop does not fill a chunk
up from the next call.
-/

namespace SynchroSonic

/-- The capacity of a `BufReader::new`. -/
def DEFAULT_BUF_SIZE : ℕ := 8192

/-- `validate_capture_settings`. -/
def validateCaptureSettings (settings : CaptureSettings) : Except AudioError Unit :=
  if settings.sampleRateHz = 0 then
    .error (.invalidSettings "sample_rate_hz must be greater than zero")
  else if settings.channels = 0 then
    .error (.invalidSettings "channels must be greater than zero")
  else if settings.bufferFrames = 0 then
    .error (.invalidSettings "buffer_frames must be greater than zero")
  else .ok ()

/-- The size of the loop's chunks. -/
def CaptureSettings.payloadBytes (settings : CaptureSettings) : ℕ :=
  max settings.chunkBytes settings.bytesPerFrame

/-- What one call to the pipe is asked for. -/
def CaptureSettings.readBytes (settings : CaptureSettings) : ℕ :=
  max DEFAULT_BUF_SIZE settings.payloadBytes

/-- The output of the capture process. -/
abbrev CapturePipe := ReadScript UInt8 IoError

/-- What the loop finds around it. -/
structure CaptureEnv where
  /-- The time since the start, at each frame. -/
  elapsed : ℕ → Duration
  /-- The capture was asked to stop before the pipe ended. -/
  stopped : Bool
  /-- Whether there is still someone to take the frame, at each frame. -/
  send : ℕ → Bool

/-- The state of the loop. -/
structure CaptureLoop where
  stdout : BufReader UInt8 IoError
  sequence : ℕ := 0
  stats : CaptureStats := { state := .capturing }
  /-- The frames made, oldest first. -/
  frames : List AudioFrame := []

namespace CaptureLoop

/-- A chunk was read: make a frame of it. -/
def record (settings : CaptureSettings) (env : CaptureEnv) (payload : List UInt8)
    (loop : CaptureLoop) : CaptureLoop :=
  let frame := AudioFrame.fromPayload loop.sequence (env.elapsed loop.sequence) settings payload
  { loop with
    stats := { loop.stats with
      framesEmitted := loop.stats.framesEmitted + 1
      bytesCaptured := loop.stats.bytesCaptured + frame.payload.length
      state := .capturing }
    frames := loop.frames ++ [frame] }

/-- The pipe has ended. A session that was asked to stop has put that into the shared record. -/
def endOfStream (env : CaptureEnv) (loop : CaptureLoop) : CaptureLoop :=
  if env.stopped then { loop with stats := { loop.stats with state := .stopped } }
  else { loop with stats := { loop.stats with
    state := .deviceDisconnected
    lastError := some "PipeWire capture stream ended" } }

/-- The pipe has failed. -/
def fail (error : IoError) (loop : CaptureLoop) : CaptureLoop :=
  { loop with stats := { loop.stats with state := .failed, lastError := some error.message } }

end CaptureLoop

/-- One round of the loop. -/
def captureRound (settings : CaptureSettings) (env : CaptureEnv) (loop : CaptureLoop) :
    LoopStep CaptureLoop CaptureLoop :=
  match loop.stdout.read settings.payloadBytes with
  | (.error error, stdout) => .done (CaptureLoop.fail error { loop with stdout })
  | (.ok payload, stdout) =>
    if payload.isEmpty then .done (CaptureLoop.endOfStream env { loop with stdout })
    else
      let loop := CaptureLoop.record settings env payload { loop with stdout }
      if env.send loop.sequence then .again { loop with sequence := loop.sequence + 1 }
      else .done loop

/-- The loop as it starts. -/
def CaptureLoop.start (pipe : CapturePipe) : CaptureLoop where
  stdout := { capacity := DEFAULT_BUF_SIZE, inner := pipe }

/-- `capture_stdout_loop`. Every round that goes on takes something out of the pipe, which bounds the
number of rounds (`captureStdoutLoop_frames`). -/
def captureStdoutLoop (settings : CaptureSettings) (env : CaptureEnv) (pipe : CapturePipe) :
    Option CaptureLoop :=
  Loop.run (captureRound settings env) ((CaptureLoop.start pipe).stdout.remaining + 1)
    (CaptureLoop.start pipe)

/-! ### What the loop makes of the pipe -/

namespace CaptureSettings

variable {settings : CaptureSettings}

theorem bytesPerFrame_pos (h : validateCaptureSettings settings = .ok ()) :
    0 < settings.bytesPerFrame := by
  have hchannels : settings.channels ≠ 0 := fun h0 ↦ by
    simp only [validateCaptureSettings, h0, if_true] at h
    split at h <;> exact nomatch h
  have hne : settings.channels.toNat ≠ 0 := fun h0 ↦ hchannels (UInt16.toNat_inj.mp h0)
  exact Nat.mul_pos (Nat.pos_of_ne_zero hne) settings.sampleFormat.bytesPerSample_pos

/-- A chunk is a whole number of frames. -/
theorem bytesPerFrame_dvd_payloadBytes (settings : CaptureSettings) :
    settings.bytesPerFrame ∣ settings.payloadBytes := by
  rcases Nat.le_total settings.chunkBytes settings.bytesPerFrame with h | h
  · rw [payloadBytes, Nat.max_eq_right h]
  · rw [payloadBytes, Nat.max_eq_left h]
    exact Nat.dvd_mul_left _ _

theorem payloadBytes_pos (h : validateCaptureSettings settings = .ok ()) :
    0 < settings.payloadBytes := by
  have := bytesPerFrame_pos h
  rw [payloadBytes]
  omega

end CaptureSettings

section Frames

variable {settings : CaptureSettings} {env : CaptureEnv}

/-- The state of the loop against the list of chunks it will get out of the pipe: what is made and
what is to come are all of them. -/
structure CaptureLoop.OnTrack (settings : CaptureSettings) (chunks : List (List UInt8))
    (loop : CaptureLoop) : Prop where
  capacity : loop.stdout.capacity = DEFAULT_BUF_SIZE
  within : loop.stdout.inner.Within settings.readBytes
  chunks : loop.frames.map AudioFrame.payload ++ loop.stdout.deliveries settings.payloadBytes =
    chunks

/-- What a round does: it makes a frame of the next chunk, or there is none. -/
theorem captureRound_onTrack (hvalid : validateCaptureSettings settings = .ok ())
    {chunks : List (List UInt8)} {loop : CaptureLoop} (h : loop.OnTrack settings chunks) :
    (∃ next, captureRound settings env loop = .again next ∧ next.OnTrack settings chunks ∧
      next.stdout.remaining < loop.stdout.remaining ∧ env.send loop.sequence = true) ∨
    (∃ final, captureRound settings env loop = .done final ∧
      (final.frames.map AudioFrame.payload = chunks ∨
        ((∃ rest, final.frames.map AudioFrame.payload ++ rest = chunks) ∧
          env.send loop.sequence = false))) := by
  have hwithin : loop.stdout.inner.Within (max loop.stdout.capacity settings.payloadBytes) := by
    rw [h.capacity]
    exact h.within
  have houtcome := BufReader.read_cases (settings.payloadBytes_pos hvalid) hwithin
  have hchunks := h.chunks
  -- a failed read and an empty one end the loop, and so does a frame that nobody receives
  unfold captureRound
  rcases hread : loop.stdout.read settings.payloadBytes with ⟨error | payload, stdout⟩
  · rw [hread] at houtcome
    cases houtcome with
    | failed deliveries =>
      rw [deliveries, List.append_nil] at hchunks
      exact Or.inr ⟨_, rfl, Or.inl hchunks⟩
  · rw [hread] at houtcome
    cases houtcome with
    | ended deliveries =>
      rw [deliveries, List.append_nil] at hchunks
      refine Or.inr ⟨_, rfl, Or.inl ?_⟩
      unfold CaptureLoop.endOfStream
      split <;> exact hchunks
    | piece nonempty capacity within deliveries remaining =>
      have hempty : payload.isEmpty = false := by simpa using nonempty
      simp only [hempty, Bool.false_eq_true, if_false]
      have hmade : (CaptureLoop.record settings env payload { loop with stdout }).frames.map
          AudioFrame.payload ++ stdout.deliveries settings.payloadBytes = chunks := by
        rw [← hchunks, deliveries]
        simp [CaptureLoop.record, AudioFrame.fromPayload]
      have hsequence : (CaptureLoop.record settings env payload { loop with stdout }).sequence =
        loop.sequence := rfl
      rw [hsequence]
      split
      next hsend =>
        exact Or.inl ⟨_, rfl, ⟨capacity.trans h.capacity, by rwa [h.capacity] at within, hmade⟩,
          remaining, hsend⟩
      next hsend =>
        exact Or.inr ⟨_, rfl, Or.inr ⟨⟨_, hmade⟩, by simpa using hsend⟩⟩

/-- **What the loop makes.** The loop ends. Its payloads are what the calls to the pipe returned, each
cut in chunks of its own; if nobody takes the frames, it is a first part of them. -/
theorem captureStdoutLoop_frames (hvalid : validateCaptureSettings settings = .ok ())
    {pipe : CapturePipe} (hwithin : pipe.Within settings.readBytes) :
    ∃ final, captureStdoutLoop settings env pipe = some final ∧
      (∃ rest, final.frames.map AudioFrame.payload ++ rest =
        pipe.arrivals.flatMap (pieces settings.payloadBytes)) ∧
      ((∀ sequence, env.send sequence = true) → final.frames.map AudioFrame.payload =
        pipe.arrivals.flatMap (pieces settings.payloadBytes)) := by
  have hstart : (CaptureLoop.start pipe).OnTrack settings
      (pipe.arrivals.flatMap (pieces settings.payloadBytes)) :=
    ⟨rfl, hwithin, by simp [CaptureLoop.start, BufReader.deliveries]⟩
  obtain ⟨final, hrun⟩ := Option.isSome_iff_exists.1 <|
    @Loop.run_isSome _ _ (captureRound settings env) (CaptureLoop.OnTrack settings _)
      (fun loop ↦ loop.stdout.remaining) (fun loop next h hagain ↦ by
        rcases captureRound_onTrack hvalid h with ⟨_, hround, hnext, hlt, -⟩ | ⟨_, hround, -⟩
        · obtain rfl := LoopStep.again.inj (hround.symm.trans hagain)
          exact ⟨hnext, hlt⟩
        · cases hround.symm.trans hagain) _ _ hstart (Nat.lt_succ_self _)
  have hfinal := @Loop.of_run _ _ (captureRound settings env) (CaptureLoop.OnTrack settings _)
    (fun final ↦ (∃ rest, final.frames.map AudioFrame.payload ++ rest =
        pipe.arrivals.flatMap (pieces settings.payloadBytes)) ∧
      ((∀ sequence, env.send sequence = true) → final.frames.map AudioFrame.payload =
        pipe.arrivals.flatMap (pieces settings.payloadBytes)))
    (fun loop next h hagain ↦ by
      rcases captureRound_onTrack hvalid h with ⟨_, hround, hnext, -⟩ | ⟨_, hround, -⟩
      · obtain rfl := LoopStep.again.inj (hround.symm.trans hagain)
        exact hnext
      · cases hround.symm.trans hagain)
    (fun loop result h hdone ↦ by
      rcases captureRound_onTrack hvalid h with ⟨_, hround, -⟩ | ⟨_, hround, hall | ⟨hpart, hsend⟩⟩
      · cases hround.symm.trans hdone
      · obtain rfl := LoopStep.done.inj (hround.symm.trans hdone)
        exact ⟨⟨[], by rw [List.append_nil, hall]⟩, fun _ ↦ hall⟩
      · obtain rfl := LoopStep.done.inj (hround.symm.trans hdone)
        exact ⟨hpart, fun hsends ↦ by simp [hsends] at hsend⟩) _ _ _ hstart hrun
  exact ⟨final, hrun, hfinal⟩

end Frames

end SynchroSonic
