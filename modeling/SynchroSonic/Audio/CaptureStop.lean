import SynchroSonic.Audio.Capture
import SynchroSonic.Machine.Transition

/-!
# Stopping a capture

`stop` and the thread that reads `pw-record` share a record, under a lock that neither of them holds for
longer than one store. `stop` stores `Stopped`, ends the process and waits for the thread; the thread
stores `Capturing` with every chunk, and at the end of the pipe it looks for `Stopped` to tell a stop from
a device that went away.

So the outcome is settled at the moment of `stop`'s store (`stop_reports_iff`): it is reported as a stop
exactly when the thread has nothing left to store by then. One chunk on its way is enough to make a lost
device of it.

Left to itself, the thread is the loop of `captureStdoutLoop` (`reader_alone`).
-/

namespace SynchroSonic

/-- How `capture_stdout_loop` was left. -/
inductive CaptureEnding
  | stopped
  | disconnected
  | failed (error : IoError)
  deriving DecidableEq, Repr

/-- The error that it leaves in the record. -/
def CaptureEnding.lastError : CaptureEnding → Option String
  | .stopped => none
  | .disconnected => some "PipeWire capture stream ended"
  | .failed error => some error.message

/-- Where `capture_stdout_loop` stands. -/
inductive CaptureReader
  /-- In front of its first store. -/
  | starting
  /-- In front of a `read`. -/
  | reading
  /-- A chunk was read, and is not in the record yet. -/
  | recording (payload : List UInt8)
  /-- It is in the record, and not sent yet. -/
  | sending
  /-- The pipe has ended; the state was not looked at yet. -/
  | ended
  /-- The state was looked at, and was not `Stopped`. -/
  | disconnecting
  /-- A `read` failed. -/
  | failing (error : IoError)
  | finished (ending : CaptureEnding)
  deriving DecidableEq, Repr

def CaptureReader.isFinished : CaptureReader → Bool
  | .finished _ => true
  | _ => false

def CaptureReader.lastError : CaptureReader → Option String
  | .finished ending => ending.lastError
  | _ => none

/-- It is about to store something in the record. -/
def CaptureReader.stores : CaptureReader → Bool
  | .starting | .recording _ | .disconnecting | .failing _ => true
  | _ => false

/-- Where `stop` stands. -/
inductive StopCall
  | idle
  /-- `Stopped` is stored. -/
  | checking
  | killing
  | waiting
  | joining
  | returned (result : Except AudioError Unit)

def StopCall.isUnderWay : StopCall → Bool
  | .idle | .returned _ => false
  | _ => true

def StopCall.isOk : StopCall → Bool
  | .returned (.ok ()) => true
  | _ => false

/-- `PipeWireCaptureSession`, with the threads that share its record. The frames have someone to take
them as long as it is there. -/
structure PipeWireCaptureSession where
  /-- What the reader works on, the shared record included. -/
  loop : CaptureLoop
  reader : CaptureReader := .starting
  stop : StopCall := .idle
  /-- The process is in its slot. -/
  child : Bool := true
  /-- The process has ended, and with it the pipe. -/
  exited : Bool := false
  /-- The session holds the thread that reads, which it does until it has joined it. -/
  readerThread : Bool := true
  stderrThread : Bool := true
  stderrRunning : Bool := true

/-- A step of one of the threads. -/
inductive CaptureSessionInput
  /-- The thread that reads goes on. -/
  | reader
  /-- The thread that reads the error output comes to its end, or fails. -/
  | stderr (fault : Option IoError)
  /-- The process ends by itself. -/
  | childExits
  /-- `stop` is called or goes on. The process may fail it. -/
  | stop (fault : Option IoError)
  deriving DecidableEq, Repr

/-- What a round of the loop finds around it. -/
def captureEnv (elapsed : ℕ → Duration) (stopped : Bool) : CaptureEnv where
  elapsed
  stopped
  send := fun _ ↦ true

namespace PipeWireCaptureSession

/-- Store a state in the record. -/
def setState (state : CaptureState) (session : PipeWireCaptureSession) : PipeWireCaptureSession :=
  { session with loop := { session.loop with stats := { session.loop.stats with state } } }

variable (settings : CaptureSettings) (elapsed : ℕ → Duration) (session : PipeWireCaptureSession)

/-- `capture_stdout_loop`, from one access to the pipe or to the record to the next. -/
def readerStep : Option PipeWireCaptureSession :=
  match session.reader with
  | .starting => some { session.setState .capturing with reader := .reading }
  | .reading =>
    match session.loop.stdout.read settings.payloadBytes with
    | (.error error, stdout) =>
      some { session with reader := .failing error, loop := { session.loop with stdout } }
    | (.ok payload, stdout) =>
      if payload.isEmpty then
        -- the pipe of a process that runs has no end
        if session.exited then
          some { session with reader := .ended, loop := { session.loop with stdout } }
        else none
      else some { session with reader := .recording payload, loop := { session.loop with stdout } }
  | .recording payload =>
    some { session with
      reader := .sending
      loop := CaptureLoop.record settings (captureEnv elapsed false) payload session.loop }
  | .sending =>
    some { session with
      reader := .reading
      loop := { session.loop with sequence := session.loop.sequence + 1 } }
  | .ended =>
    if session.loop.stats.state = .stopped then some { session with reader := .finished .stopped }
    else some { session with reader := .disconnecting }
  | .disconnecting =>
    some { session with
      reader := .finished .disconnected
      loop := CaptureLoop.endOfStream (captureEnv elapsed false) session.loop }
  | .failing error =>
    some { session with
      reader := .finished (.failed error)
      loop := CaptureLoop.fail error session.loop }
  | .finished _ => none

/-- `stop` begins. -/
def storeStopped : PipeWireCaptureSession := { session.setState .stopped with stop := .checking }

/-- `stop`, from one call to the process or access to the record to the next. -/
def stopStep (fault : Option IoError) : Option PipeWireCaptureSession :=
  match session.stop with
  | .idle | .returned _ => some session.storeStopped
  | .checking =>
    if session.child then
      match fault with
      -- `take` has already moved the process out of the session
      | some error => some { session with
          child := false
          stop := .returned (.error (.processIo "checking pw-record process state" error)) }
      | none => some { session with
          child := false
          stop := if session.exited then .joining else .killing }
    else some { session with stop := .joining }
  | .killing =>
    match fault with
    | some error => some { session with
        stop := .returned (.error (.processIo "stopping pw-record" error)) }
    | none => some { session with exited := true, stop := .waiting }
  | .waiting =>
    match fault with
    | some error => some { session with
        stop := .returned (.error (.processIo "waiting for pw-record to stop" error)) }
    | none => some { session with stop := .joining }
  | .joining =>
    if (session.readerThread = true → session.reader.isFinished = true) ∧
        (session.stderrThread = true → session.stderrRunning = false) then
      some { session with
        readerThread := false
        stderrThread := false
        stop := .returned (.ok ()) }
    else none

/-- `capture_stderr_loop` ends. -/
def stderrEnds (fault : Option IoError) : Option PipeWireCaptureSession :=
  match fault with
  | some error =>
    if session.stderrRunning then
      some { session with
        stderrRunning := false
        loop := { session.loop with
          stats := { session.loop.stats with lastError := some error.message } } }
    else none
  | none =>
    if session.stderrRunning ∧ session.exited then some { session with stderrRunning := false }
    else none

/-- One step. -/
def step : CaptureSessionInput → Option PipeWireCaptureSession
  | .reader => session.readerStep settings elapsed
  | .stderr fault => session.stderrEnds fault
  | .childExits => if session.exited then none else some { session with exited := true }
  | .stop fault => session.stopStep fault

/-- What `start_capture` leaves. -/
def start (pipe : CapturePipe) : PipeWireCaptureSession where
  loop := { CaptureLoop.start pipe with stats := { state := .starting } }

/-- The record says that the capture was stopped, and its last error is not that of a stream that ended. -/
def ReportsStop : Prop :=
  session.loop.stats.state = .stopped ∧ session.reader ≠ .finished .disconnected

instance : Decidable session.ReportsStop :=
  inferInstanceAs (Decidable (_ ∧ _))

/-- The reader has nothing left to store, if it finds `Stopped` at the end of the pipe. -/
def NothingToStore : Prop :=
  match session.reader with
  | .reading | .sending => (session.loop.stdout.read settings.payloadBytes).1 = .ok []
  | .ended => True
  | .finished ending => ending ≠ .disconnected
  | .starting | .recording _ | .disconnecting | .failing _ => False

variable {settings elapsed session} {next : PipeWireCaptureSession}

/-! ### The store of `stop` decides -/

/-- What a step of the reader does. -/
inductive ReaderOutcome (settings : CaptureSettings) (session next : PipeWireCaptureSession) : Prop
  /-- What it had to store is stored. -/
  | stored (stores : session.reader.stores = true) (state : next.loop.stats.state ≠ .stopped)
  /-- There is a chunk or an error to store. -/
  | found (reader : session.reader = .reading) (stores : next.reader.stores = true)
      (read : (session.loop.stdout.read settings.payloadBytes).1 ≠ .ok [])
  | sent (reader : session.reader = .sending) (next_reader : next.reader = .reading)
      (stdout : next.loop.stdout = session.loop.stdout) (stats : next.loop.stats = session.loop.stats)
  /-- The pipe ends. -/
  | ended (reader : session.reader = .reading) (next_reader : next.reader = .ended)
      (read : (session.loop.stdout.read settings.payloadBytes).1 = .ok [])
      (stats : next.loop.stats = session.loop.stats)
  /-- The state is `Stopped`. -/
  | stopped (reader : session.reader = .ended) (next_reader : next.reader = .finished .stopped)
      (state : session.loop.stats.state = .stopped) (stats : next.loop.stats = session.loop.stats)
  /-- The state is another one. -/
  | lost (reader : session.reader = .ended) (state : session.loop.stats.state ≠ .stopped)
      (stats : next.loop.stats = session.loop.stats)

theorem readerStep_outcome (h : session.readerStep settings elapsed = some next) :
    ReaderOutcome settings session next := by
  unfold readerStep at h
  split at h
  next hreader =>
    obtain rfl := Option.some.inj h
    exact .stored (congrArg CaptureReader.stores hreader) CaptureState.noConfusion
  next hreader =>
    split at h
    next error stdout hread =>
      obtain rfl := Option.some.inj h
      exact .found hreader rfl (by simp only [hread, ne_eq, reduceCtorEq, not_false_eq_true])
    next payload stdout hread =>
      split at h
      next hempty =>
        obtain ⟨-, hnext⟩ := Option.ite_none_right_eq_some.mp h
        obtain rfl := Option.some.inj hnext
        exact .ended hreader rfl (by rw [hread, List.isEmpty_iff.mp hempty]) rfl
      next hempty =>
        obtain rfl := Option.some.inj h
        refine .found hreader rfl ?_
        rw [hread]
        intro hnil
        exact hempty (List.isEmpty_iff.mpr (Except.ok.inj hnil))
  next payload hreader =>
    obtain rfl := Option.some.inj h
    exact .stored (congrArg CaptureReader.stores hreader) CaptureState.noConfusion
  next hreader =>
    obtain rfl := Option.some.inj h
    exact .sent hreader rfl rfl rfl
  next hreader =>
    split at h
    next hstopped =>
      obtain rfl := Option.some.inj h
      exact .stopped hreader rfl hstopped rfl
    next hstopped =>
      obtain rfl := Option.some.inj h
      exact .lost hreader hstopped rfl
  next hreader =>
    obtain rfl := Option.some.inj h
    exact .stored (congrArg CaptureReader.stores hreader) CaptureState.noConfusion
  next error hreader =>
    obtain rfl := Option.some.inj h
    exact .stored (congrArg CaptureReader.stores hreader) CaptureState.noConfusion
  next => cases h

/-- The record says `Stopped`, and will go on to. -/
structure Settled (settings : CaptureSettings) (session : PipeWireCaptureSession) : Prop where
  stopped : session.loop.stats.state = .stopped
  nothing : session.NothingToStore settings

theorem not_nothingToStore (hstores : session.reader.stores = true) :
    ¬session.NothingToStore settings := by
  rw [NothingToStore]
  cases hreader : session.reader with
  | starting | recording payload | disconnecting | failing error => exact not_false
  | reading | sending | ended | finished ending =>
    rw [hreader] at hstores
    exact absurd hstores Bool.false_ne_true

/-- **A step of the reader.** It leaves the record settled exactly when it found it so. -/
theorem settled_readerStep (h : session.readerStep settings elapsed = some next) :
    next.Settled settings ↔ session.Settled settings := by
  cases readerStep_outcome h with
  | stored stores state =>
    exact iff_of_false (fun hsettled ↦ state hsettled.stopped)
      (fun hsettled ↦ not_nothingToStore stores hsettled.nothing)
  | found reader stores read =>
    have hmore : ¬session.NothingToStore settings := by
      simpa only [NothingToStore, reader] using read
    exact iff_of_false (fun hsettled ↦ not_nothingToStore stores hsettled.nothing)
      (fun hsettled ↦ hmore hsettled.nothing)
  | sent reader next_reader stdout stats =>
    have hsame : next.NothingToStore settings ↔ session.NothingToStore settings := by
      simp only [NothingToStore, reader, next_reader, stdout]
    exact ⟨fun hsettled ↦ ⟨stats ▸ hsettled.stopped, hsame.mp hsettled.nothing⟩,
      fun hsettled ↦ ⟨stats ▸ hsettled.stopped, hsame.mpr hsettled.nothing⟩⟩
  | ended reader next_reader read stats =>
    have hnothing : session.NothingToStore settings := by simpa only [NothingToStore, reader] using read
    have hnothing' : next.NothingToStore settings := by simp only [NothingToStore, next_reader]
    exact ⟨fun hsettled ↦ ⟨stats ▸ hsettled.stopped, hnothing⟩,
      fun hsettled ↦ ⟨stats ▸ hsettled.stopped, hnothing'⟩⟩
  | stopped reader next_reader state stats =>
    have hnothing : session.NothingToStore settings := by simp only [NothingToStore, reader]
    have hnothing' : next.NothingToStore settings := by
      simp only [NothingToStore, next_reader, ne_eq, reduceCtorEq, not_false_eq_true]
    exact iff_of_true ⟨(congrArg CaptureStats.state stats).trans state, hnothing'⟩ ⟨state, hnothing⟩
  | lost reader state stats =>
    exact iff_of_false (fun hsettled ↦ state (stats ▸ hsettled.stopped))
      (fun hsettled ↦ state hsettled.stopped)

/-- Another thread went on, and left alone what the reader works on. -/
structure SameReader (session next : PipeWireCaptureSession) : Prop where
  reader : next.reader = session.reader
  stdout : next.loop.stdout = session.loop.stdout
  state : next.loop.stats.state = session.loop.stats.state

theorem settled_of_sameReader (h : session.SameReader next) :
    next.Settled settings ↔ session.Settled settings := by
  have hnothing : next.NothingToStore settings ↔ session.NothingToStore settings := by
    rw [NothingToStore, NothingToStore, h.reader, h.stdout]
  exact ⟨fun hsettled ↦ ⟨h.state ▸ hsettled.stopped, hnothing.mp hsettled.nothing⟩,
    fun hsettled ↦ ⟨h.state.trans hsettled.stopped, hnothing.mpr hsettled.nothing⟩⟩

theorem sameReader_stderrEnds {fault : Option IoError} (h : session.stderrEnds fault = some next) :
    session.SameReader next := by
  cases fault with
  | none =>
    obtain ⟨-, hnext⟩ := Option.ite_none_right_eq_some.mp h
    obtain rfl := Option.some.inj hnext
    exact ⟨rfl, rfl, rfl⟩
  | some error =>
    obtain ⟨-, hnext⟩ := Option.ite_none_right_eq_some.mp h
    obtain rfl := Option.some.inj hnext
    exact ⟨rfl, rfl, rfl⟩

/-- What a step of `stop` does: it stores nothing more once it has begun, and comes back well only from
a reader that has finished. -/
structure StopOutcome (session next : PipeWireCaptureSession) : Prop where
  reader : next.reader = session.reader
  loop : session.stop.isUnderWay = true → next.loop = session.loop
  lastError : next.loop.stats.lastError = session.loop.stats.lastError
  joins : next.stop.isOk = false ∧ next.readerThread = session.readerThread ∨
    next.readerThread = false ∧ (session.readerThread = true → session.reader.isFinished = true)

theorem stopStep_outcome {fault : Option IoError} (h : session.stopStep fault = some next) :
    session.StopOutcome next := by
  unfold stopStep at h
  split at h
  next hstop =>
    obtain rfl := Option.some.inj h
    have hcalled := congrArg StopCall.isUnderWay hstop
    exact ⟨rfl, fun hunder ↦ absurd (hcalled.symm.trans hunder) Bool.false_ne_true, rfl,
      Or.inl ⟨rfl, rfl⟩⟩
  next hstop =>
    obtain rfl := Option.some.inj h
    have hcalled := congrArg StopCall.isUnderWay hstop
    exact ⟨rfl, fun hunder ↦ absurd (hcalled.symm.trans hunder) Bool.false_ne_true, rfl,
      Or.inl ⟨rfl, rfl⟩⟩
  next =>
    split at h
    · split at h
      · obtain rfl := Option.some.inj h
        exact ⟨rfl, fun _ ↦ rfl, rfl, Or.inl ⟨rfl, rfl⟩⟩
      · obtain rfl := Option.some.inj h
        have hgoes : StopCall.isOk (if session.exited = true then .joining else .killing) = false := by
          split <;> rfl
        exact ⟨rfl, fun _ ↦ rfl, rfl, Or.inl ⟨hgoes, rfl⟩⟩
    · obtain rfl := Option.some.inj h
      exact ⟨rfl, fun _ ↦ rfl, rfl, Or.inl ⟨rfl, rfl⟩⟩
  next =>
    split at h
    all_goals
      obtain rfl := Option.some.inj h
      exact ⟨rfl, fun _ ↦ rfl, rfl, Or.inl ⟨rfl, rfl⟩⟩
  next =>
    split at h
    all_goals
      obtain rfl := Option.some.inj h
      exact ⟨rfl, fun _ ↦ rfl, rfl, Or.inl ⟨rfl, rfl⟩⟩
  next =>
    obtain ⟨⟨hfinished, -⟩, hnext⟩ := Option.ite_none_right_eq_some.mp h
    obtain rfl := Option.some.inj hnext
    exact ⟨rfl, fun _ ↦ rfl, rfl, Or.inr ⟨rfl, hfinished⟩⟩

/-- **While a call of `stop` is under way nothing but the reader matters**, and that is settled. -/
theorem settled_step {input : CaptureSessionInput} (hunder : session.stop.isUnderWay = true)
    (h : session.step settings elapsed input = some next) :
    next.Settled settings ↔ session.Settled settings := by
  cases input with
  | reader => exact settled_readerStep h
  | stderr fault => exact settled_of_sameReader (sameReader_stderrEnds h)
  | childExits =>
    obtain ⟨-, hnext⟩ := Option.ite_none_left_eq_some.mp h
    obtain rfl := Option.some.inj hnext
    exact settled_of_sameReader ⟨rfl, rfl, rfl⟩
  | stop fault =>
    have houtcome := stopStep_outcome h
    have hloop := houtcome.loop hunder
    exact settled_of_sameReader ⟨houtcome.reader, congrArg CaptureLoop.stdout hloop,
      congrArg (fun loop ↦ loop.stats.state) hloop⟩

/-! ### What a call that has come back has joined -/

/-- The reader goes on as long as it has not finished, leaves the session's own fields alone, and stores
an error only when it comes to its end. -/
structure ReaderFrame (session next : PipeWireCaptureSession) : Prop where
  goes : session.reader.isFinished = false
  stop : next.stop = session.stop
  readerThread : next.readerThread = session.readerThread
  lastError : session.loop.stats.lastError = none → next.loop.stats.lastError = next.reader.lastError

theorem readerStep_frame (h : session.readerStep settings elapsed = some next) :
    session.ReaderFrame next := by
  rw [readerStep] at h
  cases hreader : session.reader with
  | starting | recording payload | sending =>
    rw [hreader] at h
    obtain rfl := Option.some.inj h
    exact ⟨congrArg CaptureReader.isFinished hreader, rfl, rfl, fun hnone ↦ hnone⟩
  | disconnecting | failing error =>
    rw [hreader] at h
    obtain rfl := Option.some.inj h
    exact ⟨congrArg CaptureReader.isFinished hreader, rfl, rfl, fun _ ↦ rfl⟩
  | reading =>
    rw [hreader] at h
    simp only at h
    split at h
    · obtain rfl := Option.some.inj h
      exact ⟨congrArg CaptureReader.isFinished hreader, rfl, rfl, fun hnone ↦ hnone⟩
    · split at h
      · obtain ⟨-, hnext⟩ := Option.ite_none_right_eq_some.mp h
        obtain rfl := Option.some.inj hnext
        exact ⟨congrArg CaptureReader.isFinished hreader, rfl, rfl, fun hnone ↦ hnone⟩
      · obtain rfl := Option.some.inj h
        exact ⟨congrArg CaptureReader.isFinished hreader, rfl, rfl, fun hnone ↦ hnone⟩
  | ended =>
    rw [hreader] at h
    simp only at h
    split at h
    all_goals
      obtain rfl := Option.some.inj h
      exact ⟨congrArg CaptureReader.isFinished hreader, rfl, rfl, fun hnone ↦ hnone⟩
  | finished ending =>
    rw [hreader] at h
    cases h

theorem lastError_step {input : CaptureSessionInput}
    (herror : session.loop.stats.lastError = session.reader.lastError)
    (hinput : ∀ error, input ≠ .stderr (some error))
    (h : session.step settings elapsed input = some next) :
    next.loop.stats.lastError = next.reader.lastError := by
  cases input with
  | reader =>
    have hframe := readerStep_frame h
    refine hframe.lastError (herror.trans ?_)
    cases hreader : session.reader with
    | finished ending =>
      have hgoes := (congrArg CaptureReader.isFinished hreader).symm.trans hframe.goes
      exact absurd hgoes.symm Bool.false_ne_true
    | _ => rfl
  | stderr fault =>
    cases fault with
    | some error => exact absurd rfl (hinput error)
    | none =>
      obtain ⟨-, hnext⟩ := Option.ite_none_right_eq_some.mp h
      obtain rfl := Option.some.inj hnext
      exact herror
  | childExits =>
    obtain ⟨-, hnext⟩ := Option.ite_none_left_eq_some.mp h
    obtain rfl := Option.some.inj hnext
    exact herror
  | stop fault =>
    have houtcome := stopStep_outcome h
    rw [houtcome.lastError, houtcome.reader]
    exact herror

/-- **The last error is that of a stream that ended** exactly if that is how the reader was left, unless
the error output fails as well. -/
theorem lastError_of_run {pipe : CapturePipe} {inputs : List CaptureSessionInput}
    (hinputs : ∀ error, .stderr (some error) ∉ inputs)
    (h : Transition.run (step settings elapsed) (start pipe) inputs = some session) :
    session.loop.stats.lastError = session.reader.lastError := by
  have halong : Transition.Along (step settings elapsed)
      (fun _ input ↦ ∀ error, input ≠ .stderr (some error)) (start pipe) inputs :=
    Transition.along_of_forall
      (fun _ hmem _ error hinput ↦ hinputs error (Eq.mp (congrArg (· ∈ inputs) hinput) hmem)) _
  exact Transition.run_invariant_along (fun _ _ _ ↦ lastError_step) rfl halong h

/-- A reader that was joined has finished, and a call that came back well has joined it. -/
structure Joined (session : PipeWireCaptureSession) : Prop where
  finished : session.readerThread = false → session.reader.isFinished = true
  returned : session.stop.isOk = true → session.readerThread = false

theorem joined_stopStep {fault : Option IoError} (hjoined : session.Joined)
    (h : session.stopStep fault = some next) : next.Joined := by
  have houtcome := stopStep_outcome h
  rcases houtcome.joins with ⟨hok, hthread⟩ | ⟨hthread, hfinished⟩
  · refine ⟨fun hfalse ↦ ?_, fun htrue ↦ absurd (hok.symm.trans htrue) Bool.false_ne_true⟩
    rw [houtcome.reader]
    exact hjoined.finished (hthread.symm.trans hfalse)
  · refine ⟨fun _ ↦ ?_, fun _ ↦ hthread⟩
    rw [houtcome.reader]
    rcases hheld : session.readerThread with - | -
    · exact hjoined.finished hheld
    · exact hfinished hheld

theorem joined_step {input : CaptureSessionInput} (hjoined : session.Joined)
    (h : session.step settings elapsed input = some next) : next.Joined := by
  cases input with
  | reader =>
    obtain ⟨hgoes, hstop, hthread, -⟩ := readerStep_frame h
    have hheld : session.readerThread ≠ false := fun hfalse ↦
      absurd (hgoes.symm.trans (hjoined.finished hfalse)) Bool.false_ne_true
    refine ⟨fun hfalse ↦ absurd (hthread.symm.trans hfalse) hheld, fun hok ↦ ?_⟩
    rw [hthread]
    exact hjoined.returned (hstop ▸ hok)
  | stderr fault =>
    cases fault with
    | none =>
      obtain ⟨-, hnext⟩ := Option.ite_none_right_eq_some.mp h
      obtain rfl := Option.some.inj hnext
      exact ⟨hjoined.finished, hjoined.returned⟩
    | some error =>
      obtain ⟨-, hnext⟩ := Option.ite_none_right_eq_some.mp h
      obtain rfl := Option.some.inj hnext
      exact ⟨hjoined.finished, hjoined.returned⟩
  | childExits =>
    obtain ⟨-, hnext⟩ := Option.ite_none_left_eq_some.mp h
    obtain rfl := Option.some.inj hnext
    exact ⟨hjoined.finished, hjoined.returned⟩
  | stop fault => exact joined_stopStep hjoined h

theorem joined_of_run {pipe : CapturePipe} {inputs : List CaptureSessionInput}
    (h : Transition.run (step settings elapsed) (start pipe) inputs = some session) :
    session.Joined := by
  have hstart : (start pipe).Joined :=
    ⟨fun hthread ↦ absurd hthread.symm Bool.false_ne_true, fun hok ↦ absurd hok Bool.false_ne_true⟩
  exact Transition.run_invariant (fun _ _ _ ↦ joined_step) hstart h

/-- Of a reader that has finished, being settled is all that is asked. -/
theorem reportsStop_iff_settled (h : session.reader.isFinished = true) :
    session.ReportsStop ↔ session.Settled settings := by
  obtain ⟨ending, hreader⟩ : ∃ ending, session.reader = .finished ending := by
    cases hreader : session.reader with
    | finished ending => exact ⟨ending, rfl⟩
    | _ =>
      rw [hreader] at h
      exact absurd h Bool.false_ne_true
  have hnothing : session.NothingToStore settings ↔ session.reader ≠ .finished .disconnected := by
    simp only [NothingToStore, hreader, ne_eq, CaptureReader.finished.injEq]
  exact ⟨fun hreports ↦ ⟨hreports.1, hnothing.mpr hreports.2⟩,
    fun hsettled ↦ ⟨hsettled.stopped, hnothing.mp hsettled.nothing⟩⟩

/-- **A stop is reported as a stop** exactly when, at its store, the reader has nothing left to store. -/
theorem stop_reports_iff {pipe : CapturePipe} {before after : List CaptureSessionInput}
    {called final : PipeWireCaptureSession} {fault : Option IoError}
    (hbefore : Transition.run (step settings elapsed) (start pipe) before = some called)
    (hcall : called.stop.isUnderWay = false)
    (hrun : Transition.run (step settings elapsed) called (.stop fault :: after) = some final)
    (hone : Transition.Along (step settings elapsed) (fun session _ ↦ session.stop.isUnderWay = true)
      called.storeStopped after) (hok : final.stop.isOk = true) :
    final.ReportsStop ↔ called.NothingToStore settings := by
  have hjoined : final.Joined := joined_of_run (Transition.run_append.mpr ⟨called, hbefore, hrun⟩)
  have hfinished := hjoined.finished (hjoined.returned hok)
  have hstored : called.stopStep fault = some called.storeStopped := by
    unfold stopStep
    cases hstop : called.stop with
    | idle | returned result => rfl
    | _ =>
      rw [hstop] at hcall
      exact absurd hcall.symm Bool.false_ne_true
  obtain ⟨stored, hstep, hafter⟩ := Transition.run_cons.mp hrun
  obtain rfl := Option.some.inj (hstored.symm.trans hstep)
  have hkept : final.Settled settings ↔ called.storeStopped.Settled settings :=
    @Transition.run_invariant_along _ _ (step settings elapsed)
      (fun session _ ↦ session.stop.isUnderWay = true)
      (fun session ↦ session.Settled settings ↔ called.storeStopped.Settled settings)
      (fun _ _ _ hsame hunder hstep ↦ (settled_step hunder hstep).trans hsame) _ _ _ Iff.rfl hone hafter
  rw [reportsStop_iff_settled hfinished, hkept]
  exact ⟨fun hsettled ↦ hsettled.nothing, fun hnothing ↦ ⟨rfl, hnothing⟩⟩

/-! ### The reader by itself -/

/-- The steps of a round, if nobody comes in between. -/
theorem reader_round (hreader : session.reader = .reading) (hexited : session.exited = true)
    (hstate : session.loop.stats.state ≠ .stopped) :
    (∃ steps loop, captureRound settings (captureEnv elapsed false) session.loop = .again loop ∧
      loop.stats.state ≠ .stopped ∧
      Transition.run (step settings elapsed) session (List.replicate steps .reader) =
        some { session with loop }) ∨
    (∃ steps loop ending,
      captureRound settings (captureEnv elapsed false) session.loop = .done loop ∧
      Transition.run (step settings elapsed) session (List.replicate steps .reader) =
        some { session with loop, reader := .finished ending }) := by
  rcases hread : session.loop.stdout.read settings.payloadBytes with ⟨error | payload, stdout⟩
  · refine Or.inr ⟨2, CaptureLoop.fail error { session.loop with stdout }, .failed error, ?_, ?_⟩
    · rw [captureRound, hread]
    · simp [Transition.run, step, readerStep, hreader, hread]
  · rcases hempty : payload.isEmpty with - | -
    · have hround : captureRound settings (captureEnv elapsed false) session.loop =
          .again { CaptureLoop.record settings (captureEnv elapsed false) payload
            { session.loop with stdout } with sequence := session.loop.sequence + 1 } := by
        simp only [captureRound, hread, hempty, Bool.false_eq_true, if_false]
        rfl
      refine Or.inl ⟨3, _, hround, CaptureState.noConfusion, ?_⟩
      simp only [List.replicate, Transition.run, step, readerStep, hreader, hread, hempty,
        Option.bind_some, Bool.false_eq_true, if_false]
      rfl
    · refine Or.inr ⟨3, CaptureLoop.endOfStream (captureEnv elapsed false)
        { session.loop with stdout }, .disconnected, ?_, ?_⟩
      · simp only [captureRound, hread, hempty, if_true]
      · simp [Transition.run, step, readerStep, hreader, hread, hempty, hexited, hstate]

theorem reader_rounds {fuel : ℕ} {final : CaptureLoop} (hreader : session.reader = .reading)
    (hexited : session.exited = true) (hstate : session.loop.stats.state ≠ .stopped)
    (h : Loop.run (captureRound settings (captureEnv elapsed false)) fuel session.loop =
      some final) :
    ∃ steps ending,
      Transition.run (step settings elapsed) session (List.replicate steps .reader) =
        some { session with loop := final, reader := .finished ending } := by
  induction fuel generalizing session with
  | zero => cases h
  | succ fuel ih =>
    rcases @reader_round settings elapsed session hreader hexited hstate with
      ⟨steps, loop, hround, hloop, hrun⟩ | ⟨steps, loop, ending, hround, hrun⟩
    · rw [Loop.run_succ_of_again hround] at h
      obtain ⟨more, ending, hrest⟩ := @ih { session with loop } hreader hexited hloop h
      refine ⟨steps + more, ending, ?_⟩
      rw [← List.replicate_append_replicate]
      exact Transition.run_append.mpr ⟨_, hrun, hrest⟩
    · rw [Loop.run_succ_of_done hround] at h
      obtain rfl := Option.some.inj h
      exact ⟨steps, ending, hrun⟩

/-- **Left to itself, the reader is the capture loop.** -/
theorem reader_alone {pipe : CapturePipe} {final : CaptureLoop}
    (h : captureStdoutLoop settings (captureEnv elapsed false) pipe = some final) :
    ∃ steps ending, Transition.run (step settings elapsed) (start pipe)
        (.childExits :: List.replicate steps .reader) =
      some { start pipe with loop := final, reader := .finished ending, exited := true } := by
  obtain ⟨steps, ending, hrun⟩ := @reader_rounds settings elapsed
    { start pipe with loop := CaptureLoop.start pipe, reader := .reading, exited := true } _ _ rfl rfl
    CaptureState.noConfusion h
  exact ⟨steps + 1, ending, hrun⟩

end PipeWireCaptureSession

namespace Sample

/-- What happens once `stop` is called: the process is ended, the reader goes on this many times, and the
call comes back. -/
def stopping (steps : ℕ) : List CaptureSessionInput :=
  [.stop none, .stop none, .stop none] ++ List.replicate steps .reader ++ [.stderr none, .stop none]

/-- What the process has written. -/
def oneChunk : CapturePipe := [.chunk [0, 0, 0, 0] (List.cons_ne_nil _ _)]

end Sample

open PipeWireCaptureSession Sample in
/-- The stop comes after a chunk, with the frame of it on its way to the sender. -/
theorem stop_reports_silence : ∃ final,
    Transition.run (step {} fun _ ↦ 0) (start oneChunk)
        (List.replicate 3 .reader ++ .stop none :: stopping 3) = some final ∧
      final.loop.stats.framesEmitted = 1 ∧ final.ReportsStop := by
  obtain ⟨called, hbefore, hidle, hnothing, hone⟩ : ∃ called,
      Transition.run (step {} fun _ ↦ 0) (start oneChunk) (List.replicate 3 .reader) = some called ∧
        called.stop.isUnderWay = false ∧ called.NothingToStore {} ∧
        Transition.Along (step {} fun _ ↦ 0) (fun session _ ↦ session.stop.isUnderWay = true)
          called.storeStopped (stopping 3) := ⟨_, rfl, rfl, rfl, by decide⟩
  have hended : (Transition.run (step {} fun _ ↦ 0) (start oneChunk)
      (List.replicate 3 .reader ++ .stop none :: stopping 3)).map
        (fun session ↦ (session.stop.isOk, session.loop.stats.framesEmitted)) = some (true, 1) := rfl
  obtain ⟨final, hfinal, hvalues⟩ := Option.map_eq_some_iff.1 hended
  obtain ⟨hok, hframes⟩ := Prod.mk.inj hvalues
  obtain ⟨reached, hreached, hrun⟩ := Transition.run_append.mp hfinal
  obtain rfl := Option.some.inj (hreached.symm.trans hbefore)
  exact ⟨final, hfinal, hframes, (stop_reports_iff hbefore hidle hrun hone hok).mpr hnothing⟩

open PipeWireCaptureSession Sample in
/-- **A chunk on its way makes a lost device of a stop.** -/
theorem chunk_reports_lost_device : ¬∀ (settings : CaptureSettings) (elapsed : ℕ → Duration)
    (pipe : CapturePipe) (inputs : List CaptureSessionInput) (final : PipeWireCaptureSession),
    validateCaptureSettings settings = .ok () →
    Transition.run (step settings elapsed) (start pipe) inputs = some final →
    -- the pipe ends because the process is ended
    CaptureSessionInput.childExits ∉ inputs → final.stop.isOk = true → final.ReportsStop := by
  intro h
  have hreports := h {} (fun _ ↦ 0) oneChunk
    (.reader :: .stop none :: stopping 6) _ rfl rfl (by decide) rfl
  exact absurd hreports (by decide)

end SynchroSonic
