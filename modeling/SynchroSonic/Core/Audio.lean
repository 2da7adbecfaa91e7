import SynchroSonic.Core.Error

/-!
# Capture settings and frames

The part of the audio model the capture loop and the sender share. Amplitude statistics are left
out: nothing branches on them.
-/

namespace SynchroSonic

/-- `AudioSampleFormat`. -/
inductive AudioSampleFormat
  | s16Le
  | f32Le
  deriving DecidableEq, Repr

def AudioSampleFormat.bytesPerSample : AudioSampleFormat → ℕ
  | .s16Le => 2
  | .f32Le => 4

theorem AudioSampleFormat.bytesPerSample_pos (format : AudioSampleFormat) :
    0 < format.bytesPerSample := by
  cases format <;> decide

/-- `CaptureState`. -/
inductive CaptureState
  | idle
  | starting
  | capturing
  | sourceChanged
  | deviceDisconnected
  | stopped
  | failed
  deriving DecidableEq, Repr

/-- `CaptureOutputs`. -/
structure CaptureOutputs where
  localMonitoring : Bool := true
  networkStreaming : Bool := true
  deriving DecidableEq, Repr

/-- `CaptureSettings`, with its defaults. -/
structure CaptureSettings where
  sourceId : Option String := none
  sampleRateHz : UInt32 := 48000
  channels : UInt16 := 2
  sampleFormat : AudioSampleFormat := .s16Le
  bufferFrames : UInt32 := 480
  targetLatencyMs : UInt16 := 50
  outputs : CaptureOutputs := {}
  deriving DecidableEq, Repr

namespace CaptureSettings

def bytesPerFrame (settings : CaptureSettings) : ℕ :=
  settings.channels.toNat * settings.sampleFormat.bytesPerSample

def chunkBytes (settings : CaptureSettings) : ℕ :=
  settings.bufferFrames.toNat * settings.bytesPerFrame

end CaptureSettings

/-- `AudioFrame`, without its amplitude statistics. `capturedAt` is the time since the capture
started. -/
structure AudioFrame where
  sequence : ℕ
  capturedAt : ℕ
  sampleRateHz : UInt32
  channels : UInt16
  sampleFormat : AudioSampleFormat
  payload : List UInt8
  deriving DecidableEq, Repr

/-- `AudioFrame::from_payload`. -/
def AudioFrame.fromPayload (sequence capturedAt : ℕ) (settings : CaptureSettings)
    (payload : List UInt8) : AudioFrame where
  sequence := sequence
  capturedAt := capturedAt
  sampleRateHz := settings.sampleRateHz
  channels := settings.channels
  sampleFormat := settings.sampleFormat
  payload := payload

/-- `CaptureStats`, without its amplitude statistics. -/
structure CaptureStats where
  state : CaptureState := .idle
  framesEmitted : ℕ := 0
  bytesCaptured : ℕ := 0
  lastError : Option String := none
  deriving DecidableEq, Repr

end SynchroSonic
