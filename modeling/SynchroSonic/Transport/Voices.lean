import SynchroSonic.Transport.Conversation
import SynchroSonic.Transport.TargetView

/-!
# Sessions with their threads, seen from the manager

The manager ticks a session, offers it frames, tells it of a failed capture and closes it; between any
two of these calls the writer thread goes on. Each call is here what it does to the session *and* to the
channels between the session and its thread.

`SpokenSession` carries what `sender_speech` knows of a session — its `Hello`, and that all that was put
in and not said yet is behind what has been said — as a field: every call and every step of the thread
takes one to another, so nothing later has to argue about the socket again.
-/

namespace SynchroSonic

/-- A step of the writer thread. -/
def VoicedInput.isThread : VoicedInput → Bool
  | .control _ | .noControl | .frame _ | .noFrame | .disconnected => true
  | .tick _ _ | .pushFrame _ _ | .stop _ | .shutdown => false

namespace VoicedSession

variable {format : WireFormat} {before : Writer} {hello : List FrameBody}
  {voiced next : VoicedSession}

/-! ### Calls -/

/-- `tick`. -/
def ticked (interval : Duration) (env : TickEnv) (voiced : VoicedSession) : VoicedSession :=
  let session := (voiced.session.tick interval (voiced.tickEnv env)).2
  { voiced with
    session
    writer := { voiced.writer with events := [] }
    controls := voiced.controls ++ voiced.heartbeatControl session }

/-- A frame is offered; a queue that refuses it leaves an error behind. -/
def offered (env : QueueEnv) (frame : FanoutAudioFrame) (voiced : VoicedSession) : VoicedSession :=
  { voiced with
    session := (voiced.session.offer env frame).2
    hand := voiced.hand ++ voiced.session.networkBranch.takenInPush env
    pushed := voiced.pushed ++ [frame] }

/-- The capture has failed. -/
def errored (message : String) (voiced : VoicedSession) : VoicedSession :=
  { voiced with session := voiced.session.setError message .error }

/-- The last control: `shutdown_with_stop` gives a reason, `shutdown_immediate` and the end of a session
that is dropped give none. -/
def hangUp (reason : Option String) (voiced : VoicedSession) : VoicedSession :=
  { voiced with
    closed := true
    controls := voiced.controls ++ [reason.elim .shutdown .stop] }

/-! ### The calls are steps -/

theorem step_tick (hopen : voiced.closed = false) (interval : Duration) (env : TickEnv) :
    voiced.step format (.tick interval env) = some (voiced.ticked interval env) := by
  simp only [step, hopen, Bool.false_eq_true, if_false, ticked]

theorem step_hangUp (hopen : voiced.closed = false) (reason : Option String) :
    voiced.step format (reason.elim .shutdown .stop) = some (voiced.hangUp reason) := by
  cases reason with
  | none => simp only [step, Option.elim, hopen, Bool.false_eq_true, if_false, hangUp]
  | some reason => simp only [step, Option.elim, hopen, Bool.false_eq_true, if_false, hangUp]

/-- A frame that is taken is a step, and one that is refused is a step and an error. -/
theorem step_pushFrame (hopen : voiced.closed = false) (env : QueueEnv) (frame : FanoutAudioFrame) :
    ∃ pushed, voiced.step format (.pushFrame env frame) = some pushed ∧
      (voiced.offered env frame = pushed ∨ ∃ message, voiced.offered env frame = pushed.errored message) := by
  simp only [step, hopen, Bool.false_eq_true, if_false, Option.some.injEq, exists_eq_left']
  rcases hpush : voiced.session.pushFrame env frame with ⟨error | ⟨⟩, session⟩
  · refine Or.inr ⟨error.display, ?_⟩
    simp only [offered, ManagedTargetSession.offer, hpush, errored, hopen]
  · refine Or.inl ?_
    simp only [offered, ManagedTargetSession.offer, hpush, hopen]

/-! ### The calls keep the order -/

/-- Whether a session is shut down does not matter to what it has said. -/
theorem Speaks.withClosed (h : voiced.Speaks format before hello) (closed : Bool) :
    ({ voiced with closed } : VoicedSession).Speaks format before hello :=
  ⟨h.wrote, h.heartbeats, h.audio, h.running, h.earlier⟩

theorem Speaks.ticked (h : voiced.Speaks format before hello) (interval : Duration) (env : TickEnv) :
    (voiced.ticked interval env).Speaks format before hello :=
  (speaks_tick (h.withClosed false) (step_tick rfl interval env)).withClosed voiced.closed

theorem Speaks.errored (h : voiced.Speaks format before hello) (message : String) :
    (voiced.errored message).Speaks format before hello :=
  ⟨h.wrote, h.heartbeats, h.audio, h.running, h.earlier⟩

theorem Speaks.offered (h : voiced.Speaks format before hello) (env : QueueEnv)
    (frame : FanoutAudioFrame) : (voiced.offered env frame).Speaks format before hello := by
  obtain ⟨pushed, hstep, heq⟩ := @step_pushFrame format { voiced with closed := false } rfl env frame
  have hpushed := speaks_pushFrame (h.withClosed false) hstep
  have hoffered : (({ voiced with closed := false } : VoicedSession).offered env frame).Speaks format
      before hello := by
    rcases heq with heq | ⟨message, heq⟩
    · rw [heq]
      exact hpushed
    · rw [heq]
      exact hpushed.errored message
  exact hoffered.withClosed voiced.closed

theorem Speaks.hangUp (h : voiced.Speaks format before hello) (reason : Option String) :
    (voiced.hangUp reason).Speaks format before hello :=
  (speaks_step (h.withClosed false) (step_hangUp rfl reason)).withClosed true

/-! ### The thread and the session -/

/-- **The thread takes frames out of the queue**, and leaves the session alone otherwise. -/
theorem session_of_thread {input : VoicedInput} (hthread : input.isThread = true)
    (h : voiced.step format input = some next) :
    (next.session = voiced.session ∨
      voiced.session.networkBranch.items ≠ [] ∧ next.session = voiced.session.consume 1) ∧
      next.closed = voiced.closed ∧ next.pushed = voiced.pushed := by
  cases input with
  | control heard =>
    simp only [step] at h
    split at h
    next control controls hcontrols =>
      split at h
      · obtain rfl := Option.some.inj h
        cases control <;> exact ⟨Or.inl rfl, rfl, rfl⟩
      · cases h
    · cases h
  | noControl =>
    simp only [step] at h
    split at h
    · obtain rfl := Option.some.inj h
      exact ⟨Or.inl rfl, rfl, rfl⟩
    · cases h
  | frame heard =>
    simp only [step] at h
    split at h
    · split at h
      · obtain rfl := Option.some.inj h
        exact ⟨Or.inl rfl, rfl, rfl⟩
      next frame items hhand hitems =>
        obtain rfl := Option.some.inj h
        exact ⟨Or.inr ⟨by rw [hitems]; exact List.cons_ne_nil _ _, rfl⟩, rfl, rfl⟩
      · cases h
    · cases h
  | noFrame =>
    simp only [step] at h
    split at h
    · obtain rfl := Option.some.inj h
      exact ⟨Or.inl rfl, rfl, rfl⟩
    · cases h
  | disconnected =>
    simp only [step] at h
    split at h
    · obtain rfl := Option.some.inj h
      exact ⟨Or.inl rfl, rfl, rfl⟩
    · cases h
  | tick interval env => cases hthread
  | pushFrame env frame => cases hthread
  | stop reason => cases hthread
  | shutdown => cases hthread

/-- A thread whose session was given no frame takes none. -/
theorem session_of_unfed {input : VoicedInput} (hspeaks : voiced.Speaks format before hello)
    (hunfed : voiced.pushed = []) (hthread : input.isThread = true)
    (h : voiced.step format input = some next) : next.session = voiced.session := by
  rcases (session_of_thread hthread h).1 with hsame | ⟨hitems, -⟩
  · exact hsame
  · have haudio := hspeaks.audio
    rw [hunfed, List.sublist_nil] at haudio
    exact absurd (List.append_eq_nil_iff.1 (List.append_eq_nil_iff.1 haudio).2).2 hitems

end VoicedSession

/-- A session of a sender, on a socket that carried nothing before its `Hello`. -/
structure SpokenSession (format : WireFormat) where
  voiced : VoicedSession
  /-- The socket before the `Hello`. -/
  before : Writer
  hello : FrameBody
  fresh : before.written = []
  helloWithin : hello.WithinLimits
  speaks : voiced.Speaks format before [hello]

namespace SpokenSession

variable {format : WireFormat}

/-- An attempt has opened a session on a new socket. -/
def opened {secsF64 : SecsF64} {env : ConnectEnv} {stream : TcpStream} {target : SenderTarget}
    {attemptCount : ℕ} {request : TargetConnectRequest} {session : ManagedTargetSession}
    (hfresh : env.writer.written = [])
    (hconnect : ManagedTargetSession.connect secsF64 format env stream target attemptCount request =
      .ok session) : SpokenSession format where
  voiced := .start format env target request session
  before := env.writer
  hello := (format.hello.frame? .hello (ManagedTargetSession.helloFor env target request) []).get
    (by obtain ⟨hello, hhello, -⟩ := helloFrame_of_connect hconnect; rw [hhello]; rfl)
  fresh := hfresh
  helloWithin := by
    obtain ⟨hello, hhello, -, hwithin, -⟩ := helloFrame_of_connect hconnect
    simpa only [hhello, Option.get_some] using hwithin
  speaks := by
    obtain ⟨hello, hhello, -, -, hframe⟩ := helloFrame_of_connect hconnect
    have hspeaks := VoicedSession.speaks_start hconnect
    rw [hframe] at hspeaks
    simpa only [hhello, Option.get_some] using hspeaks

def ticked (interval : Duration) (env : TickEnv) (spoken : SpokenSession format) :
    SpokenSession format :=
  { spoken with
    voiced := spoken.voiced.ticked interval env
    speaks := spoken.speaks.ticked interval env }

def offered (env : QueueEnv) (frame : FanoutAudioFrame) (spoken : SpokenSession format) :
    SpokenSession format :=
  { spoken with
    voiced := spoken.voiced.offered env frame
    speaks := spoken.speaks.offered env frame }

def errored (message : String) (spoken : SpokenSession format) : SpokenSession format :=
  { spoken with
    voiced := spoken.voiced.errored message
    speaks := spoken.speaks.errored message }

def hangUp (reason : Option String) (spoken : SpokenSession format) : SpokenSession format :=
  { spoken with
    voiced := spoken.voiced.hangUp reason
    speaks := spoken.speaks.hangUp reason }

/-- A step of the writer thread. -/
def thread (input : VoicedInput) (spoken : SpokenSession format) : Option (SpokenSession format) :=
  if input.isThread then
    match hstep : spoken.voiced.step format input with
    | none => none
    | some voiced => some { spoken with voiced, speaks := VoicedSession.speaks_step spoken.speaks hstep }
  else none

theorem thread_eq_some {input : VoicedInput} {spoken next : SpokenSession format}
    (h : spoken.thread input = some next) :
    input.isThread = true ∧ spoken.voiced.step format input = some next.voiced := by
  unfold thread at h
  split at h
  next hthread =>
    split at h
    · cases h
    next voiced hstep =>
      obtain rfl := Option.some.inj h
      exact ⟨hthread, hstep⟩
  · cases h

variable (spoken : SpokenSession format)

/-- The frames the session has said. -/
def bodies : List FrameBody := spoken.hello :: spoken.voiced.bodies format

/-- The session as the manager has it, without the name of its stream. -/
def view : ManagedTargetSession := spoken.voiced.session.unnamed

end SpokenSession

end SynchroSonic
