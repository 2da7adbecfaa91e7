import SynchroSonic.Transport.MirrorIsolation

/-!
# The mirror's thread

`local_mirror_worker_loop`, and the manager beside it. The thread takes controls from one channel and
puts its reports into another; a report is sent by a step of its own, and so is the end of a
`start_stream`, which may take as long as it likes.

The frames the thread plays come from the branch's queue. Which of them it finds is left open: the
manager's steps already let any number of frames disappear from that queue. The arms in which a channel
is disconnected are left out, since the manager keeps its ends until the thread has ended.
-/

namespace SynchroSonic

/-- Where the thread is in its loop. -/
inductive MirrorPhase
  /-- It takes the controls there are. -/
  | draining
  /-- It is not enabled and waits for a control. -/
  | waiting
  /-- It is enabled and waits for a frame. -/
  | playing
  /-- `start_stream` is running, for a control it found while draining or one it waited for. -/
  | starting (request : PlaybackStartRequest) (waited : Bool)
  | ended
  deriving DecidableEq, Repr

/-- The variables of `local_mirror_worker_loop`. -/
structure MirrorWorker where
  phase : MirrorPhase := .draining
  enabled : Bool := false
  /-- There is a sink. -/
  sink : Bool := false
  /-- The reports it is about to send, in order. -/
  reports : List LocalMirrorEvent := []
  deriving DecidableEq, Repr

/-- What happens next to the thread, with the answers of the playback engine. -/
inductive WorkerInput
  /-- It finds a control. The sink it stops for a `Stop` may answer with an error. -/
  | control (stopped : Except AudioError Unit)
  /-- It finds none, or waits for one in vain. -/
  | noControl
  /-- `start_stream` returns. -/
  | started (result : Except AudioError Unit)
  | frame (bytes : ℕ) (written : Except AudioError Unit)
  | noFrame
  /-- A report goes into the channel. -/
  | report

namespace MirrorWorker

/-- The thread runs `start_stream`. -/
def isStarting (worker : MirrorWorker) : Bool :=
  match worker.phase with
  | .starting _ _ => true
  | _ => false

/-- A control found by the inner loop. -/
def drained (stopped : Except AudioError Unit) (worker : MirrorWorker) :
    LocalMirrorControl → MirrorWorker
  | .start request => { worker with
      phase := .starting request false
      sink := false }
  | .stop =>
    let failure :=
      match stopped with
      | .error error => if worker.sink then [.error error.display] else []
      | .ok () => []
    { phase := .draining
      enabled := false
      sink := false
      reports := failure ++ [.stateChanged .disabled] }
  | .shutdown => { phase := .ended }

/-- A control the thread waited for. -/
def awaited (worker : MirrorWorker) : LocalMirrorControl → MirrorWorker
  | .start request => { worker with phase := .starting request true }
  | .stop => { worker with
      phase := .draining
      reports := [.stateChanged .disabled] }
  | .shutdown => { phase := .ended }

/-- `start_stream` has returned. -/
def opened (backendName : String) (request : PlaybackStartRequest) (waited : Bool)
    (result : Except AudioError Unit) (worker : MirrorWorker) : MirrorWorker :=
  match result with
  | .ok () =>
    { phase := .draining
      enabled := true
      sink := true
      reports := [.started backendName request.targetId, .stateChanged .mirroring] }
  | .error error => { worker with
      phase := .draining
      enabled := if waited then worker.enabled else false
      reports := [.error error.display] }

/-- A frame is played. -/
def played (bytes : ℕ) (written : Except AudioError Unit) (worker : MirrorWorker) : MirrorWorker :=
  if worker.sink then
    match written with
    | .ok () => { worker with
        phase := .draining
        reports := [.played bytes] }
    | .error error =>
      { phase := .draining
        enabled := false
        sink := false
        reports := [.error error.display] }
  else { worker with
    phase := .draining
    enabled := false
    reports := [.error "local mirror sink was unavailable during playback"] }

/-- The next control is taken, if the thread looks for one. -/
def takeControl (stopped : Except AudioError Unit) (worker : MirrorWorker)
    (control : LocalMirrorControl) : Option MirrorWorker :=
  match worker.phase with
  | .draining => some (worker.drained stopped control)
  | .waiting => some (worker.awaited control)
  | _ => none

/-- There is no control. -/
def noControl (worker : MirrorWorker) : Option MirrorWorker :=
  match worker.phase with
  | .draining => some { worker with phase := if worker.enabled then .playing else .waiting }
  | .waiting => some { worker with phase := .draining }
  | _ => none

end MirrorWorker

/-! ### The manager and its mirror -/

/-- The sender manager, the mirror's thread and the channels between them. -/
structure MirroredSender where
  system : SenderSystem
  /-- `playback_engine.backend_name()`. -/
  backendName : String
  worker : MirrorWorker := {}
  /-- How many of the controls sent the thread has taken. -/
  taken : ℕ := 0
  /-- The reports on their way, oldest first. -/
  events : List LocalMirrorEvent := []
  /-- The manager has completed an iteration since both channels became empty; only proofs look at
  that. -/
  settled : Bool := false

/-- A step of the manager, with what happens to the queue of frames meanwhile, or one of the thread. -/
inductive MirroredInput
  | manager (input : SenderInput) (queue : QueueEnv) (consumed : ℕ)
  | worker (input : WorkerInput)

namespace MirroredSender

def start (secsF64 : SecsF64) (setup : SenderSetup) (now : Instant) (target : SenderTarget) :
    MirroredSender where
  system := SenderSystem.start secsF64 setup now target
  backendName := setup.backendName

/-- All controls sent so far. -/
def controls (mirrored : MirroredSender) : List LocalMirrorControl :=
  mirrored.system.manager.localMirrorBranch.controls

/-- The controls on their way. -/
def pending (mirrored : MirroredSender) : List LocalMirrorControl :=
  mirrored.controls.drop mirrored.taken

/-- What the manager sees of its mirror. -/
def mirrorEnv (mirrored : MirroredSender) (queue : QueueEnv) (consumed : ℕ) : MirrorEnv where
  listens := mirrored.worker.phase ≠ .ended
  events := mirrored.events
  queue := queue
  consumed := consumed

/-- Keep track of whether the manager has completed an iteration. -/
def settle (refreshed : Bool) (mirrored : MirroredSender) : MirroredSender :=
  { mirrored with
    settled := mirrored.pending.isEmpty && mirrored.events.isEmpty && (mirrored.settled || refreshed) }

/-- A step of the manager. -/
def managerStep (secsF64 : SecsF64) (format : WireFormat) (mirrored : MirroredSender)
    (input : SenderInput) (queue : QueueEnv) (consumed : ℕ) : Option MirroredSender :=
  (mirrored.system.step secsF64 format (input.withMirror (mirrored.mirrorEnv queue consumed))).map
    fun system ↦
      match input with
      | .mirrorEvents _ => settle false { mirrored with system, events := [] }
      | .refresh _ => settle true { mirrored with system }
      | _ => settle false { mirrored with system }

/-- A step of the thread. Its reports go out before it does anything else. -/
def workerStep (mirrored : MirroredSender) (input : WorkerInput) : Option MirroredSender :=
  match input, mirrored.worker.reports with
  | .report, report :: reports => some (settle false { mirrored with
      worker := { mirrored.worker with reports }
      events := mirrored.events ++ [report] })
  | .control stopped, [] =>
    match mirrored.pending with
    | [] => none
    | control :: _ => (mirrored.worker.takeControl stopped control).map fun worker ↦
        settle false { mirrored with
          worker
          taken := mirrored.taken + 1 }
  | .noControl, [] =>
    if mirrored.pending.isEmpty then
      mirrored.worker.noControl.map fun worker ↦ settle false { mirrored with worker }
    else none
  | .started result, [] =>
    match mirrored.worker.phase with
    | .starting request waited => some (settle false { mirrored with
        worker := mirrored.worker.opened mirrored.backendName request waited result })
    | _ => none
  | .frame bytes written, [] =>
    if mirrored.worker.phase = .playing then
      some (settle false { mirrored with worker := mirrored.worker.played bytes written })
    else none
  | .noFrame, [] =>
    if mirrored.worker.phase = .playing then
      some (settle false { mirrored with worker := { mirrored.worker with phase := .draining } })
    else none
  | _, _ => none

/-- One step. -/
def step (secsF64 : SecsF64) (format : WireFormat) (mirrored : MirroredSender) :
    MirroredInput → Option MirroredSender
  | .manager input queue consumed => mirrored.managerStep secsF64 format input queue consumed
  | .worker input => mirrored.workerStep input

end MirroredSender

end SynchroSonic
