import SynchroSonic.App.Diagnostics
import SynchroSonic.Machine.DiskJobs
import SynchroSonic.Machine.Transition

/-!
# Sessions across crashes

What `main` does to the disk over any number of starts: it starts a session, persists the snapshot while
the session goes on, and takes the session marker away in the end. The process may be gone in front of
every primitive operation on a file, and every operation may fail. So may what a start reads (`StartReads`):
`Path::exists` says no where it cannot look, and `load_snapshot` has no snapshot where it cannot read, so a
start may overlook the marker of the session before. One process runs at a time.

A history of such an installation is a list of `LifeEvent`s. `Account` is what somebody who reads the
history knows: whether there is a session that still has to be accounted for. `Account.step` says which
event may come next.

* `Installation.sessions_accounted` — every history is accepted, and the marker lies on the disk exactly
  as long as a session has to be accounted for;
* `Installation.crash_reported` — no session starts while the one before is neither closed nor reported,
  unless the start has overlooked its marker; and a report is about a session that crashed.

The changes of the disk go through `Disk.Job`: whatever the process dies in, the marker and the snapshot
are whole. The reports are those of `recover_previous_session`; those of the panic hook are files of their
own, which nothing here reads.
-/

namespace SynchroSonic

/-- The process of the application, with the file operations in front of it. -/
inductive Process (S : Type)
  | off
  /-- In `DiagnosticsRuntime::bootstrap`. -/
  | starting (result : Except IoError (DiagnosticsRuntime S × List DiagnosticEvent))
    (rest : List (Disk.Op AppFile))
  /-- The snapshot state as it is, and as it will be when the snapshot in hand is persisted. -/
  | running (snapshotState next : SnapshotPersistenceState S) (rest : List (Disk.Op AppFile))

/-- The disk, and the process if there is one. -/
structure Installation (S : Type) where
  disk : Disk AppFile
  process : Process S := .off

/-- How the reads of a start turn out. -/
structure StartReads where
  /-- What the start returns before it has changed anything: the directories cannot be made, or the marker or
  the log is there and cannot be read. -/
  error : Option IoError := none
  /-- Its own `load_snapshot` can read the file. -/
  snapshot : Bool := true
  /-- The files the recovery can see: `exists` can look at them, `load_snapshot` can read them. -/
  sees : AppFile → Bool := fun _ ↦ true

/-- The disk, as the recovery sees it. -/
def StartReads.view (reads : StartReads) (disk : Disk AppFile) : Disk AppFile :=
  fun file ↦ if reads.sees file then disk file else none

/-- What happens next. -/
inductive InstallationInput (S : Type)
  /-- `main` is entered, up to `DiagnosticsRuntime::bootstrap`. -/
  | launch (env : BootstrapEnv) (config : AppConfig) (reads : StartReads)
  /-- The structured log layer writes a byte. -/
  | log (byte : UInt8)
  /-- The file operation in front is carried out. -/
  | perform
  /-- The file operation in front fails. -/
  | fail
  /-- `update_snapshot_from_state`, and its siblings. -/
  | update (snapshot : SubsystemSnapshot S) (now : ℕ)
  /-- `mark_clean_shutdown`. -/
  | shutdown (now : ℕ)
  /-- The process is gone: `main` is over, or it crashed. -/
  | exit

namespace Installation

variable {S : Type} [Inhabited S] [DecidableEq S] (format : DiagnosticsFormat S) (build : BuildInfo)
  (paths : AppPaths)

/-- `DiagnosticsRuntime::bootstrap`, with reads that may fail. -/
def boot (env : BootstrapEnv) (config : AppConfig) (reads : StartReads) (disk : Disk AppFile) :
    Bootstrap S :=
  match reads.error with
  | some error => ⟨.error error, []⟩
  | none => bootstrapWith format build env paths config
      (if reads.snapshot then loadSnapshot format disk else none) (reads.view disk)

/-- The snapshot counts as persisted once it is renamed. -/
def persistedBy (op : Disk.Op AppFile) (snapshotState next : SnapshotPersistenceState S) :
    SnapshotPersistenceState S :=
  match op with
  | .rename _ _ => next
  | _ => snapshotState

/-- One step of an installation, if it can be taken. -/
def step (installation : Installation S) : InstallationInput S → Option (Installation S)
  | .launch env config reads =>
    match installation.process with
    | .off =>
      let boot := boot format build paths env config reads installation.disk
      some { installation with process := .starting boot.result boot.ops }
    | _ => none
  | .log byte =>
    match installation.process with
    | .off => none
    | _ => some { installation with disk := (Disk.Op.append .log byte).apply installation.disk }
  | .perform =>
    match installation.process with
    | .starting result (op :: rest) =>
      some { disk := op.apply installation.disk, process := .starting result rest }
    | .starting (.ok (runtime, _)) [] =>
      some { installation with process := .running runtime.snapshotState runtime.snapshotState [] }
    -- `expect` panics
    | .starting (.error _) [] => some { installation with process := .off }
    | .running snapshotState next (op :: rest) =>
      some { disk := op.apply installation.disk
             process := .running (persistedBy op snapshotState next) next rest }
    | _ => none
  | .fail =>
    match installation.process with
    | .starting _ (_ :: _) => some { installation with process := .off }
    -- what is left of `persist_snapshot` and `mark_clean_shutdown` is not done
    | .running snapshotState _ (_ :: _) =>
      some { installation with process := .running snapshotState snapshotState [] }
    | _ => none
  | .update snapshot now =>
    match installation.process with
    | .running snapshotState _ [] =>
      let current := { snapshotState with current := snapshot }
      let persisted := SnapshotPersistenceState.persist format false now current
      some { installation with process := .running current persisted.1 persisted.2 }
    | _ => none
  | .shutdown now =>
    match installation.process with
    | .running snapshotState _ [] =>
      let persisted := SnapshotPersistenceState.persist format true now snapshotState
      some { installation with
        process := .running snapshotState persisted.1 (persisted.2 ++ [.remove .sessionMarker]) }
    | _ => none
  | .exit =>
    match installation.process with
    | .off => none
    | _ => some { installation with process := .off }

/-! ### What is seen of it -/

end Installation

/-- What is seen of an installation: starts, changes of the three files, and that a process is gone. -/
inductive LifeEvent
  /-- A start, whose recovery sees the marker and the snapshot or does not. -/
  | started (seesMarker seesSnapshot : Bool)
  /-- The marker of a session is written. -/
  | opened (marker : List UInt8)
  | persisted (snapshot : List UInt8)
  /-- A report about the session before is written. -/
  | reported (text : List UInt8)
  /-- A start removes the marker that it has reported. -/
  | cleared
  /-- A session removes its marker. -/
  | closed
  | ended
  deriving DecidableEq, Repr

/-- As which event a change of a file is seen; `starting` tells whose it is. -/
def lifeEvent (starting : Bool) : Disk.Job AppFile → Option LifeEvent
  | .write .sessionMarker bytes => some (.opened bytes)
  | .write .subsystemSnapshot bytes => some (.persisted bytes)
  | .write (.recoveredReport _) bytes => some (.reported bytes)
  | .remove .sessionMarker => some (if starting then .cleared else .closed)
  | _ => none

namespace Installation

variable {S : Type}

/-- The events of one step. -/
def events (installation : Installation S) : InstallationInput S → List LifeEvent
  | .launch _ _ reads => [.started (reads.sees .sessionMarker) (reads.sees .subsystemSnapshot)]
  | .perform =>
    match installation.process with
    | .starting _ (op :: _) => ((op.seen installation.disk).bind (lifeEvent true)).toList
    | .starting (.error _) [] => [.ended]
    | .running _ _ (op :: _) => ((op.seen installation.disk).bind (lifeEvent false)).toList
    | _ => []
  | .fail =>
    match installation.process with
    | .starting _ (_ :: _) => [.ended]
    | _ => []
  | .exit => [.ended]
  | _ => []

end Installation

/-! ### What is known of it -/

/-- How the last session stands. -/
inductive Standing
  /-- It is closed, or reported and cleared; or there was none. -/
  | settled
  /-- It goes on. -/
  | opened (marker : List UInt8)
  /-- It ended, and did not close. -/
  | crashed (marker : List UInt8)
  /-- It is reported, and its marker is still there. -/
  | reported (marker : List UInt8)
  /-- It ended, did not close, and the start that is under way has not seen its marker. -/
  | overlooked (marker : List UInt8)
  deriving DecidableEq, Repr

namespace Standing

/-- The marker of the session that has to be accounted for. -/
def marker : Standing → Option (List UInt8)
  | .settled => none
  | .opened marker | .crashed marker | .reported marker | .overlooked marker => some marker

/-- As it stands without a process. -/
def ended : Standing → Standing
  | .settled => .settled
  | .opened marker | .crashed marker | .reported marker | .overlooked marker => .crashed marker

/-- As a start finds it. -/
def launched (seesMarker : Bool) : Standing → Standing
  | .crashed marker => if seesMarker then .crashed marker else .overlooked marker
  | standing => standing

/-- A process may go on with it: the session is its own, or there is none. -/
def Live (standing : Standing) : Prop := standing = .settled ∨ ∃ marker, standing = .opened marker

/-- A start may open a session: it knows of none that has to be accounted for. -/
def Free (standing : Standing) : Prop := standing = .settled ∨ ∃ marker, standing = .overlooked marker

@[simp] theorem marker_ended (standing : Standing) : standing.ended.marker = standing.marker := by
  cases standing <;> rfl

@[simp] theorem ended_ended (standing : Standing) : standing.ended.ended = standing.ended := by
  cases standing <;> rfl

/-- Once the process is gone, a session that was reported counts as crashed again: its marker is still
there. -/
theorem ended_ne_reported (standing : Standing) (marker : List UInt8) :
    standing.ended ≠ .reported marker := by
  cases standing <;> rintro ⟨⟩

/-- The same for one that was overlooked. -/
theorem ended_ne_overlooked (standing : Standing) (marker : List UInt8) :
    standing.ended ≠ .overlooked marker := by
  cases standing <;> rintro ⟨⟩

/-- There is no marker only where nothing has to be accounted for. -/
theorem eq_settled {standing : Standing} (h : standing.marker = none) : standing = .settled := by
  cases standing with
  | settled => rfl
  | opened marker => cases h
  | crashed marker => cases h
  | reported marker => cases h
  | overlooked marker => cases h

/-- A marker that nobody works on is that of a crashed session. -/
theorem eq_crashed {standing : Standing} {marker : List UInt8} (hended : standing.ended = standing)
    (h : standing.marker = some marker) : standing = .crashed marker := by
  cases standing with
  | settled => cases h
  | opened marker => cases hended
  | crashed marker =>
    obtain rfl := Option.some.inj h
    rfl
  | reported marker => cases hended
  | overlooked marker => cases hended

@[simp] theorem marker_launched (seesMarker : Bool) (standing : Standing) :
    (standing.launched seesMarker).marker = standing.marker := by
  rcases standing with - | marker | marker | marker | marker
  case crashed => cases seesMarker <;> rfl
  all_goals rfl

end Standing

/-- What a report has for a snapshot. -/
structure Sight where
  /-- The last one that was persisted. -/
  snapshot : Option (List UInt8)
  /-- The start can read it. -/
  readable : Bool := true
  deriving DecidableEq, Repr

namespace Sight

/-- The snapshot a report is rendered from. -/
def found (sight : Sight) : Option (List UInt8) := if sight.readable then sight.snapshot else none

/-- The last snapshot, after the event. -/
def after (sight : Sight) : LifeEvent → Sight
  | .started _ seesSnapshot => { sight with readable := seesSnapshot }
  | .persisted bytes => { sight with snapshot := some bytes }
  | _ => sight

/-- The last snapshot, after the events. -/
def afterAll (sight : Sight) (events : List LifeEvent) : Sight := events.foldl Sight.after sight

end Sight

/-- What somebody knows who has seen the events: the last snapshot, and how the last session stands. -/
structure Account where
  sight : Sight
  standing : Standing
  deriving DecidableEq, Repr

/-- The text reports the session with this marker, and this snapshot as its last one; without one the
report has the default snapshot. -/
def Reports {S : Type} [Inhabited S] (format : DiagnosticsFormat S) (build : BuildInfo)
    (marker : List UInt8) (snapshot : Option (List UInt8)) (text : List UInt8) : Prop :=
  ∃ now config logs, text = Text.encode (renderAbnormalTerminationReport format build now
    (format.readMarker marker) (RedactedConfigSummary.ofConfig config)
    ((snapshot.bind format.readSnapshot).getD default) logs)

namespace Account

/-- What is known of a disk that nobody works on. -/
def ofDisk (disk : Disk AppFile) : Account where
  sight := ⟨disk .subsystemSnapshot, true⟩
  standing := (disk .sessionMarker).elim .settled .crashed

variable {S : Type} [Inhabited S] (format : DiagnosticsFormat S) (build : BuildInfo)

open Classical in
/-- The events that may come next, and what is known then. -/
noncomputable def step (account : Account) (event : LifeEvent) : Option Account :=
  let account := { account with sight := account.sight.after event }
  match event with
  | .started seesMarker _ =>
    match account.standing with
    | .settled | .crashed _ => some { account with standing := account.standing.launched seesMarker }
    | _ => none
  | .opened marker =>
    match account.standing with
    | .settled | .overlooked _ => some { account with standing := .opened marker }
    | _ => none
  | .persisted _ =>
    match account.standing with
    | .settled | .opened _ | .overlooked _ => some account
    | _ => none
  | .reported text =>
    match account.standing with
    | .crashed marker =>
      if Reports format build marker account.sight.found text then
        some { account with standing := .reported marker }
      else none
    | _ => none
  | .cleared =>
    match account.standing with
    | .reported _ => some { account with standing := .settled }
    | _ => none
  | .closed =>
    match account.standing with
    | .settled | .opened _ => some { account with standing := .settled }
    | _ => none
  | .ended => some { account with standing := account.standing.ended }

variable {format build}

/-! #### Which events come next -/

variable {account account' : Account}

/-- A start comes when no process is there, and notes what it can see. -/
theorem step_started_iff {seesMarker seesSnapshot : Bool} :
    step format build account (.started seesMarker seesSnapshot) = some account' ↔
      account.standing.ended = account.standing ∧
        ⟨{ account.sight with readable := seesSnapshot }, account.standing.launched seesMarker⟩ =
          account' := by
  rcases account with ⟨sight, standing⟩
  cases standing <;> simp [step, Standing.ended, Sight.after]

/-- A session is opened by a start that knows of no other one to account for. -/
theorem step_opened_iff {marker : List UInt8} :
    step format build account (.opened marker) = some account' ↔
      account.standing.Free ∧ { account with standing := .opened marker } = account' := by
  rcases account with ⟨sight, standing⟩
  cases standing <;> simp [step, Standing.Free, Sight.after]

/-- A snapshot is persisted by a session, or by a start that is about to open one. -/
theorem step_persisted_iff {snapshot : List UInt8} :
    step format build account (.persisted snapshot) = some account' ↔
      (account.standing.Live ∨ account.standing.Free) ∧
        { account with sight := { account.sight with snapshot := some snapshot } } = account' := by
  rcases account with ⟨sight, standing⟩
  cases standing <;> simp [step, Standing.Live, Standing.Free, Sight.after]

/-- A report is about a crashed session, with the snapshot that the start can see. -/
theorem step_reported_iff {text : List UInt8} :
    step format build account (.reported text) = some account' ↔
      ∃ marker, account.standing = .crashed marker ∧
        Reports format build marker account.sight.found text ∧
        { account with standing := .reported marker } = account' := by
  rcases account with ⟨sight, standing⟩
  rcases standing with - | marker | marker | marker | marker
  case crashed =>
    by_cases hreports : Reports format build marker sight.found text
    · simp [step, Sight.after, hreports]
    · simp [step, Sight.after, hreports]
  all_goals simp [step]

/-- A start clears the marker of a session that it has reported. -/
theorem step_cleared_iff :
    step format build account .cleared = some account' ↔
      (∃ marker, account.standing = .reported marker) ∧
        { account with standing := .settled } = account' := by
  rcases account with ⟨sight, standing⟩
  cases standing <;> simp [step, Sight.after]

/-- A session closes only itself. -/
theorem step_closed_iff :
    step format build account .closed = some account' ↔
      account.standing.Live ∧ { account with standing := .settled } = account' := by
  rcases account with ⟨sight, standing⟩
  cases standing <;> simp [step, Standing.Live, Sight.after]

/-- A process may be gone at any time. -/
theorem step_ended_iff :
    step format build account .ended = some account' ↔
      { account with standing := account.standing.ended } = account' := by
  simp [step, Sight.after]

/-! #### What is on the disk -/

/-- The disk has what is known. -/
def OnDisk (account : Account) (disk : Disk AppFile) : Prop :=
  disk .sessionMarker = account.standing.marker ∧ disk .subsystemSnapshot = account.sight.snapshot

/-- What is known in the beginning is what is on the disk. -/
theorem onDisk_ofDisk (disk : Disk AppFile) : (ofDisk disk).OnDisk disk := by
  refine ⟨?_, rfl⟩
  rw [ofDisk]
  rcases disk .sessionMarker with - | marker
  · rfl
  · rfl

/-- Neither the marker nor the snapshot is a temporary file, so no half-written one is taken for it. -/
theorem not_mem_range_temporary {file : AppFile}
    (hfile : file = .sessionMarker ∨ file = .subsystemSnapshot) :
    file ∉ Set.range AppFile.temporary := by
  rintro ⟨other, rfl⟩
  rcases hfile with h | h
  · cases h
  · cases h

/-- Only the two files count. -/
theorem OnDisk.congr {disk disk' : Disk AppFile} (halike : Disk.Alike .temporary disk' disk)
    (h : account.OnDisk disk) : account.OnDisk disk' :=
  ⟨(halike _ (not_mem_range_temporary (Or.inl rfl))).trans h.1,
    (halike _ (not_mem_range_temporary (Or.inr rfl))).trans h.2⟩

end Account

/-- The jobs that are seen. -/
theorem lifeEvent_cases {starting : Bool} {job : Disk.Job AppFile} {event : LifeEvent}
    (h : lifeEvent starting job = some event) :
    (∃ bytes, job = .write .sessionMarker bytes ∧ event = .opened bytes) ∨
      (∃ bytes, job = .write .subsystemSnapshot bytes ∧ event = .persisted bytes) ∨
      (∃ secs bytes, job = .write (.recoveredReport secs) bytes ∧ event = .reported bytes) ∨
      job = .remove .sessionMarker ∧ event = if starting then .cleared else .closed := by
  unfold lifeEvent at h
  split at h
  · exact Or.inl ⟨_, rfl, (Option.some.inj h).symm⟩
  · exact Or.inr (Or.inl ⟨_, rfl, (Option.some.inj h).symm⟩)
  · exact Or.inr (Or.inr (Or.inl ⟨_, _, rfl, (Option.some.inj h).symm⟩))
  · exact Or.inr (Or.inr (Or.inr ⟨rfl, (Option.some.inj h).symm⟩))
  · cases h

namespace Account

variable {S : Type} [Inhabited S] {format : DiagnosticsFormat S} {build : BuildInfo}
  {account account' : Account}

/-- What is known after a job is what the job leaves. -/
theorem OnDisk.apply {disk : Disk AppFile} {starting : Bool} {job : Disk.Job AppFile} {event : LifeEvent}
    (h : account.OnDisk disk) (hevent : lifeEvent starting job = some event)
    (hstep : step format build account event = some account') : account'.OnDisk (job.apply disk) := by
  obtain ⟨hmarker, hsnapshot⟩ := h
  obtain ⟨bytes, rfl, rfl⟩ | ⟨bytes, rfl, rfl⟩ | ⟨secs, bytes, rfl, rfl⟩ | ⟨rfl, rfl⟩ :=
    lifeEvent_cases hevent
  · obtain ⟨-, rfl⟩ := step_opened_iff.1 hstep
    exact ⟨Disk.Job.apply_write_self _ _ _, (Disk.Job.apply_write_of_ne (by simp) _ _).trans hsnapshot⟩
  · obtain ⟨-, rfl⟩ := step_persisted_iff.1 hstep
    exact ⟨(Disk.Job.apply_write_of_ne (by simp) _ _).trans hmarker, Disk.Job.apply_write_self _ _ _⟩
  · obtain ⟨marker, hcrashed, -, rfl⟩ := step_reported_iff.1 hstep
    rw [hcrashed] at hmarker
    exact ⟨(Disk.Job.apply_write_of_ne (by simp) _ _).trans hmarker,
      (Disk.Job.apply_write_of_ne (by simp) _ _).trans hsnapshot⟩
  · have hsettled : account' = { account with standing := .settled } := by
      rcases starting with - | -
      · exact (step_closed_iff.1 hstep).2.symm
      · exact (step_cleared_iff.1 hstep).2.symm
    rw [hsettled]
    exact ⟨Disk.Job.apply_remove_self _ _, (Disk.Job.apply_remove_of_ne (by simp) _).trans hsnapshot⟩

end Account

/-! ### What a start has to do -/

section Bootstrap

variable {S : Type} [Inhabited S] [DecidableEq S] (format : DiagnosticsFormat S) (build : BuildInfo)
  (env : BootstrapEnv) (paths : AppPaths) (config : AppConfig) (disk : Disk AppFile)

/-- The jobs that start a session. -/
def openingJobs (snapshot : SubsystemSnapshot S) : List (Disk.Job AppFile) :=
  [.write .subsystemSnapshot (format.writeSnapshot snapshot),
    .write .sessionMarker (format.writeMarker (sessionMarker build env paths))]

/-- The jobs that account for the session before. -/
def recoveryJobs (secs : ℕ) (text : List UInt8) : List (Disk.Job AppFile) :=
  [.write (.recoveredReport secs) text, .remove .sessionMarker]

omit [Inhabited S] in
/-- The file operations of a start that opens a session, as jobs. -/
theorem ops_openingJobs (snapshot : SubsystemSnapshot S) :
    (openingJobs format build env paths snapshot).flatMap (Disk.Job.ops .temporary) =
      (SnapshotPersistenceState.persist format true (env.nowUnixMs 3) { current := snapshot }).2 ++
        writeBytesAtomic .sessionMarker (format.writeMarker (sessionMarker build env paths)) := by
  rw [SnapshotPersistenceState.persist, if_pos (Or.inl rfl), openingJobs, List.flatMap_cons,
    List.flatMap_cons, List.flatMap_nil, List.append_nil]
  rfl

/-- The file operations of a recovery, as jobs. -/
theorem ops_recoveryJobs (secs : ℕ) (text : List UInt8) :
    (recoveryJobs secs text).flatMap (Disk.Job.ops .temporary) =
      writeBytesAtomic (.recoveredReport secs) text ++ [.remove .sessionMarker] := by
  rw [recoveryJobs, List.flatMap_cons, List.flatMap_cons, List.flatMap_nil, List.append_nil]
  rfl

/-- What a start does that reads without an error, on the disk that the recovery sees. -/
theorem bootstrapWith_jobs (loaded : Option (SubsystemSnapshot S)) (disk : Disk AppFile) :
    (disk .sessionMarker = none ∧
      (bootstrapWith format build env paths config loaded disk).result.isOk = true ∧
      ∃ snapshot, (bootstrapWith format build env paths config loaded disk).ops =
        (openingJobs format build env paths snapshot).flatMap (Disk.Job.ops .temporary)) ∨
    ∃ marker, disk .sessionMarker = some marker ∧
      (((bootstrapWith format build env paths config loaded disk).result.isOk = false ∧
          (bootstrapWith format build env paths config loaded disk).ops = []) ∨
        (bootstrapWith format build env paths config loaded disk).result.isOk = true ∧
          ∃ secs text snapshot, Reports format build marker (disk .subsystemSnapshot) text ∧
            (bootstrapWith format build env paths config loaded disk).ops =
              (recoveryJobs secs text ++ openingJobs format build env paths snapshot).flatMap
                (Disk.Job.ops .temporary)) := by
  rcases hmarker : disk .sessionMarker with - | marker
  · refine Or.inl ⟨rfl, ?_⟩
    simp only [bootstrapWith, recoverPreviousSession, hmarker]
    exact ⟨rfl, _, (ops_openingJobs format build env paths _).symm⟩
  · refine Or.inr ⟨marker, rfl, ?_⟩
    rcases htail : readLogTail format RECOVERY_LOG_LIMIT disk with error | logs
    · simp only [bootstrapWith, recoverPreviousSession, hmarker, htail]
      exact Or.inl ⟨rfl, trivial⟩
    · simp only [bootstrapWith, recoverPreviousSession, hmarker, htail]
      refine Or.inr ⟨rfl, env.nowUnixMs 1 / 1000, _,
        { loaded.getD default with lastCrashRecoveryUnixMs := some (env.nowUnixMs 2) },
        ⟨env.nowUnixMs 0, config, logs, rfl⟩, ?_⟩
      rw [List.flatMap_append, ops_openingJobs, ops_recoveryJobs, List.append_assoc]
      rfl

/-- **What a start does**: it fails and does nothing; or it sees no marker, and opens a session; or it first
accounts for the session before. -/
theorem boot_jobs (reads : StartReads) (disk : Disk AppFile) :
    ((Installation.boot format build paths env config reads disk).result.isOk = false ∧
      (Installation.boot format build paths env config reads disk).ops = []) ∨
    ((reads.sees .sessionMarker = false ∨ disk .sessionMarker = none) ∧
      ∃ snapshot, (Installation.boot format build paths env config reads disk).ops =
        (openingJobs format build env paths snapshot).flatMap (Disk.Job.ops .temporary)) ∨
    ∃ marker, reads.sees .sessionMarker = true ∧ disk .sessionMarker = some marker ∧
      ∃ secs text snapshot, Reports format build marker
          (Sight.found ⟨disk .subsystemSnapshot, reads.sees .subsystemSnapshot⟩) text ∧
        (Installation.boot format build paths env config reads disk).ops =
          (recoveryJobs secs text ++ openingJobs format build env paths snapshot).flatMap
            (Disk.Job.ops .temporary) := by
  rw [Installation.boot]
  rcases reads.error with - | error
  · dsimp only
    obtain ⟨hnone, -, hopening⟩ | ⟨marker, hsome, hfailed | ⟨-, hrecovery⟩⟩ := bootstrapWith_jobs format
      build env paths config (if reads.snapshot then loadSnapshot format disk else none) (reads.view disk)
    · refine Or.inr (Or.inl ⟨?_, hopening⟩)
      rcases hsees : reads.sees .sessionMarker with - | -
      · exact Or.inl rfl
      · rw [StartReads.view, hsees, if_pos rfl] at hnone
        exact Or.inr hnone
    · exact Or.inl hfailed
    · rcases hsees : reads.sees .sessionMarker with - | -
      · rw [StartReads.view, hsees] at hsome
        cases hsome
      · rw [StartReads.view, hsees, if_pos rfl] at hsome
        exact Or.inr (Or.inr ⟨marker, rfl, hsome, hrecovery⟩)
  · exact Or.inl ⟨rfl, rfl⟩

end Bootstrap

/-! ### The jobs in front of a process -/

namespace Account

variable {S : Type} [Inhabited S] (format : DiagnosticsFormat S) (build : BuildInfo)

/-- What is known after a job, if it may come next. -/
noncomputable def carry (starting : Bool) (account : Account) (job : Disk.Job AppFile) : Option Account :=
  (lifeEvent starting job).bind (step format build account)

/-- What a session does to its files: it persists the snapshot, and removes the marker. -/
def IsUpkeep (job : Disk.Job AppFile) : Prop :=
  (∃ bytes, job = .write .subsystemSnapshot bytes) ∨ job = .remove .sessionMarker

variable {format build} {account account' : Account} {disk : Disk AppFile}

/-- A job that is seen as an event is carried by the account exactly as the event is. -/
theorem carry_of_step {starting : Bool} {job : Disk.Job AppFile} {event : LifeEvent}
    (hevent : lifeEvent starting job = some event)
    (hstep : step format build account event = some account') :
    carry format build starting account job = some account' :=
  Option.bind_eq_some_iff.2 ⟨event, hevent, hstep⟩

/-- A session that goes on may persist its snapshot or close whenever it likes. -/
theorem exists_carry_of_isUpkeep {job : Disk.Job AppFile} (h : account.standing.Live)
    (hjob : IsUpkeep job) : ∃ account', carry format build false account job = some account' := by
  rcases hjob with ⟨bytes, rfl⟩ | rfl
  · exact ⟨_, carry_of_step rfl (step_persisted_iff.2 ⟨Or.inl h, rfl⟩)⟩
  · exact ⟨_, carry_of_step rfl (step_closed_iff.2 ⟨h, rfl⟩)⟩

/-- Its upkeep leaves it a session that goes on, or none. -/
theorem live_of_carry {job : Disk.Job AppFile} (h : account.standing.Live) (hjob : IsUpkeep job)
    (hcarry : carry format build false account job = some account') : account'.standing.Live := by
  obtain ⟨event, hevent, hstep⟩ := Option.bind_eq_some_iff.1 hcarry
  rcases hjob with ⟨bytes, rfl⟩ | rfl
  · obtain rfl := Option.some.inj hevent
    obtain ⟨-, rfl⟩ := step_persisted_iff.1 hstep
    exact h
  · obtain rfl := Option.some.inj hevent
    obtain ⟨-, rfl⟩ := step_closed_iff.1 hstep
    exact Or.inl rfl

/-- **The rule for one operation.** If the job in front may come next, nothing is seen of the operation,
or the job is. -/
theorem step_perform {starting : Bool} {jobs : List (Disk.Job AppFile)} {op : Disk.Op AppFile}
    {rest : List (Disk.Op AppFile)} (hdisk : account.OnDisk disk)
    (hmidway : Disk.Midway .temporary disk jobs (op :: rest))
    (hcarry : ∀ job ∈ jobs.head?, ∃ account', carry format build starting account job = some account') :
    ∃ account' jobs',
      Transition.run (step format build) account ((op.seen disk).bind (lifeEvent starting)).toList =
        some account' ∧
      account'.OnDisk (op.apply disk) ∧ Disk.Midway .temporary (op.apply disk) jobs' rest ∧
      (account' = account ∧ jobs' = jobs ∨
        ∃ job, jobs = job :: jobs' ∧ carry format build starting account job = some account') := by
  obtain ⟨hunseen, hmidway', halike⟩ | ⟨job, more, rfl, hseen, hmidway', halike⟩ := hmidway.step
  · refine ⟨account, jobs, ?_, hdisk.congr halike, hmidway', Or.inl ⟨rfl, rfl⟩⟩
    rw [hunseen]
    rfl
  · obtain ⟨account', haccount'⟩ := hcarry job rfl
    obtain ⟨event, hevent, hstep⟩ := Option.bind_eq_some_iff.1 haccount'
    refine ⟨account', more, ?_, (hdisk.apply hevent hstep).congr halike, hmidway',
      Or.inr ⟨job, rfl, haccount'⟩⟩
    rw [hseen, Option.bind_some, hevent]
    exact Transition.run_cons.2 ⟨account', hstep, rfl⟩

variable {env : BootstrapEnv} {paths : AppPaths}

/-- A start that knows of no session to account for opens its own. -/
theorem run_openingJobs (snapshot : SubsystemSnapshot S) (h : account.standing.Free) :
    Transition.run (carry format build true) account (openingJobs format build env paths snapshot) =
      some ⟨{ account.sight with snapshot := some (format.writeSnapshot snapshot) },
        .opened (format.writeMarker (sessionMarker build env paths))⟩ :=
  Transition.run_cons.2 ⟨_, carry_of_step rfl (step_persisted_iff.2 ⟨Or.inr h, rfl⟩),
    Transition.run_cons.2 ⟨_, carry_of_step rfl (step_opened_iff.2 ⟨h, rfl⟩), rfl⟩⟩

/-- A start that sees the marker of the session before reports it, and clears the marker. -/
theorem run_recoveryJobs {marker : List UInt8} (secs : ℕ) {text : List UInt8}
    (h : account.standing = .crashed marker)
    (htext : Reports format build marker account.sight.found text) :
    Transition.run (carry format build true) account (recoveryJobs secs text) =
      some { account with standing := .settled } :=
  Transition.run_cons.2 ⟨_, carry_of_step rfl (step_reported_iff.2 ⟨marker, h, htext, rfl⟩),
    Transition.run_cons.2 ⟨_, carry_of_step rfl (step_cleared_iff.2 ⟨⟨marker, rfl⟩, rfl⟩), rfl⟩⟩

end Account

/-- What `persist_snapshot` does to the disk is upkeep. -/
theorem exists_jobs_persist {S : Type} [DecidableEq S] (format : DiagnosticsFormat S) (force : Bool)
    (now : ℕ) (state : SnapshotPersistenceState S) :
    ∃ jobs : List (Disk.Job AppFile), (∀ job ∈ jobs, Account.IsUpkeep job) ∧
      (SnapshotPersistenceState.persist format force now state).2 =
        jobs.flatMap (Disk.Job.ops .temporary) := by
  rw [SnapshotPersistenceState.persist]
  split
  · refine ⟨[.write .subsystemSnapshot (format.writeSnapshot state.current)], ?_, ?_⟩
    · exact List.forall_mem_singleton.2 (Or.inl ⟨_, rfl⟩)
    · exact (List.flatMap_singleton _ _).symm
  · exact ⟨[], List.forall_mem_nil _, rfl⟩

/-! ### The invariant -/

namespace Installation

variable {S : Type} [Inhabited S] (format : DiagnosticsFormat S) (build : BuildInfo)

/-- What is known is on the disk, and the jobs in front of the process may come next. -/
def Accounted (installation : Installation S) (account : Account) : Prop :=
  account.OnDisk installation.disk ∧
    match installation.process with
    | .off => account.standing.ended = account.standing
    | .starting result rest =>
      ∃ jobs account', Disk.Midway .temporary installation.disk jobs rest ∧
        Transition.run (Account.carry format build true) account jobs = some account' ∧
        (result.isOk = true → account'.standing.Live)
    | .running _ _ rest =>
      ∃ jobs, Disk.Midway .temporary installation.disk jobs rest ∧ (∀ job ∈ jobs, Account.IsUpkeep job) ∧
        account.standing.Live

variable {format build} {account : Account} {disk : Disk AppFile}

/-- Other files may change meanwhile. -/
theorem Accounted.congr {disk' : Disk AppFile} {process : Process S}
    (hmarker : disk' .sessionMarker = disk .sessionMarker)
    (hsnapshot : disk' .subsystemSnapshot = disk .subsystemSnapshot)
    (htemporary : ∀ file, disk' (.temporary file) = disk (.temporary file))
    (h : Accounted format build ⟨disk, process⟩ account) :
    Accounted format build ⟨disk', process⟩ account := by
  obtain ⟨hdisk, hprocess⟩ := h
  refine ⟨⟨hmarker.trans hdisk.1, hsnapshot.trans hdisk.2⟩, ?_⟩
  rcases process with - | ⟨result, rest⟩ | ⟨snapshotState, next, rest⟩
  · exact hprocess
  · obtain ⟨jobs, goal, hmidway, hrun⟩ := hprocess
    exact ⟨jobs, goal, hmidway.congr htemporary, hrun⟩
  · obtain ⟨jobs, hmidway, hjobs⟩ := hprocess
    exact ⟨jobs, hmidway.congr htemporary, hjobs⟩

/-- The log is no file that is accounted for. -/
theorem Accounted.log {process : Process S} (byte : UInt8)
    (h : Accounted format build ⟨disk, process⟩ account) :
    Accounted format build ⟨(Disk.Op.append .log byte).apply disk, process⟩ account :=
  h.congr (Disk.Op.apply_append_of_ne (by simp) byte disk)
    (Disk.Op.apply_append_of_ne (by simp) byte disk) fun _ ↦ Disk.Op.apply_append_of_ne (by simp) byte disk

/-- Without a process nothing is asked of the jobs. -/
theorem Accounted.exit {process : Process S} (h : Accounted format build ⟨disk, process⟩ account) :
    Accounted format build ⟨disk, .off⟩ { account with standing := account.standing.ended } :=
  ⟨⟨h.1.1.trans (Standing.marker_ended _).symm, h.1.2⟩, Standing.ended_ended _⟩

/-- An operation of a start is seen as an event that may come next, or as none. -/
theorem accounted_perform_starting
    {result : Except IoError (DiagnosticsRuntime S × List DiagnosticEvent)}
    {op : Disk.Op AppFile} {rest : List (Disk.Op AppFile)}
    (h : Accounted format build ⟨disk, .starting result (op :: rest)⟩ account) :
    ∃ account', Transition.run (Account.step format build) account
        ((op.seen disk).bind (lifeEvent true)).toList = some account' ∧
      Accounted format build ⟨op.apply disk, .starting result rest⟩ account' := by
  obtain ⟨hdisk, jobs, goal, hmidway, hrun, hlive⟩ := h
  have hcarry : ∀ job ∈ jobs.head?, ∃ account',
      Account.carry format build true account job = some account' := by
    intro job hjob
    obtain ⟨more, rfl⟩ := List.head?_eq_some_iff.1 hjob
    obtain ⟨account', haccount', -⟩ := Transition.run_cons.1 hrun
    exact ⟨account', haccount'⟩
  obtain ⟨account', jobs', hevents, hdisk', hmidway', hjobs⟩ := Account.step_perform hdisk hmidway hcarry
  refine ⟨account', hevents, hdisk', jobs', goal, hmidway', ?_, hlive⟩
  obtain ⟨rfl, rfl⟩ | ⟨job, rfl, haccount'⟩ := hjobs
  · exact hrun
  · obtain ⟨next, hnext, hrest⟩ := Transition.run_cons.1 hrun
    rwa [Option.some.inj (haccount'.symm.trans hnext)]

/-- An operation of a session is seen so too, whether or not the snapshot in hand counts as persisted by
it. -/
theorem accounted_perform_running {snapshotState snapshotState' next : SnapshotPersistenceState S}
    {op : Disk.Op AppFile} {rest : List (Disk.Op AppFile)}
    (h : Accounted format build ⟨disk, .running snapshotState next (op :: rest)⟩ account) :
    ∃ account', Transition.run (Account.step format build) account
        ((op.seen disk).bind (lifeEvent false)).toList = some account' ∧
      Accounted format build ⟨op.apply disk, .running snapshotState' next rest⟩ account' := by
  obtain ⟨hdisk, jobs, hmidway, hupkeep, hlive⟩ := h
  have hcarry : ∀ job ∈ jobs.head?, ∃ account',
      Account.carry format build false account job = some account' := fun job hjob ↦
    Account.exists_carry_of_isUpkeep hlive (hupkeep job (List.mem_of_mem_head? hjob))
  obtain ⟨account', jobs', hevents, hdisk', hmidway', hjobs⟩ := Account.step_perform hdisk hmidway hcarry
  refine ⟨account', hevents, hdisk', jobs', hmidway', ?_⟩
  obtain ⟨rfl, rfl⟩ | ⟨job, rfl, haccount'⟩ := hjobs
  · exact ⟨hupkeep, hlive⟩
  · rw [List.forall_mem_cons] at hupkeep
    exact ⟨hupkeep.2, Account.live_of_carry hlive hupkeep.1 haccount'⟩

/-- A session takes up upkeep. -/
theorem Accounted.take {snapshotState snapshotState' next next' : SnapshotPersistenceState S}
    {jobs : List (Disk.Job AppFile)} (hjobs : ∀ job ∈ jobs, Account.IsUpkeep job)
    (h : Accounted format build ⟨disk, .running snapshotState next []⟩ account) :
    Accounted format build
      ⟨disk, .running snapshotState' next' (jobs.flatMap (Disk.Job.ops .temporary))⟩ account := by
  obtain ⟨hdisk, -, -, -, hlive⟩ := h
  exact ⟨hdisk, jobs, Disk.midway_flatMap _ _, hjobs, hlive⟩

/-- Before the first start the account is that of the disk. -/
theorem accounted_start (format : DiagnosticsFormat S) (build : BuildInfo) (disk : Disk AppFile) :
    Accounted format build ⟨disk, .off⟩ (Account.ofDisk disk) := by
  refine ⟨Account.onDisk_ofDisk disk, ?_⟩
  show (Account.ofDisk disk).standing.ended = (Account.ofDisk disk).standing
  rw [Account.ofDisk]
  rcases disk .sessionMarker with - | marker
  · rfl
  · rfl

variable [DecidableEq S] {paths : AppPaths}

/-- A start has the jobs in front of it that the account asks for. -/
theorem Accounted.launch (env : BootstrapEnv) (config : AppConfig) (reads : StartReads)
    (h : Accounted format build ⟨disk, .off⟩ account) :
    ∃ account', Transition.run (Account.step format build) account
        [.started (reads.sees .sessionMarker) (reads.sees .subsystemSnapshot)] = some account' ∧
      Accounted format build ⟨disk, .starting (boot format build paths env config reads disk).result
        (boot format build paths env config reads disk).ops⟩ account' := by
  obtain ⟨⟨hmarker, hsnapshot⟩, hended⟩ := h
  refine ⟨_, Transition.run_cons.2 ⟨_, Account.step_started_iff.2 ⟨hended, rfl⟩, rfl⟩,
    ⟨hmarker.trans (Standing.marker_launched _ _).symm, hsnapshot⟩, ?_⟩
  obtain ⟨hfailed, hops⟩ | ⟨hunseen, snapshot, hops⟩ |
      ⟨marker, hsees, hsome, secs, text, snapshot, htext, hops⟩ :=
    boot_jobs format build env paths config reads disk
  · refine ⟨[], _, ?_, rfl, fun hok ↦ ?_⟩
    · rw [hops]
      exact Disk.midway_flatMap _ []
    · rw [hfailed] at hok
      cases hok
  · have hfree : (account.standing.launched (reads.sees .sessionMarker)).Free := by
      rcases hdisk : disk .sessionMarker with - | marker
      · rw [Standing.eq_settled (hmarker.symm.trans hdisk)]
        exact Or.inl rfl
      · rw [Standing.eq_crashed hended (hmarker.symm.trans hdisk)]
        rcases hunseen with hhidden | hnone
        · rw [hhidden]
          exact Or.inr ⟨marker, rfl⟩
        · rw [hdisk] at hnone
          cases hnone
    refine ⟨openingJobs format build env paths snapshot, _, ?_,
      Account.run_openingJobs snapshot hfree, fun _ ↦ Or.inr ⟨_, rfl⟩⟩
    rw [hops]
    exact Disk.midway_flatMap _ _
  · have hcrashed := Standing.eq_crashed hended (hmarker.symm.trans hsome)
    have htext : Reports format build marker
        (Sight.found { account.sight with readable := reads.sees .subsystemSnapshot }) text := by
      rwa [show disk .subsystemSnapshot = account.sight.snapshot from hsnapshot] at htext
    have hlaunched : account.standing.launched (reads.sees .sessionMarker) = .crashed marker := by
      rw [hcrashed, hsees]
      rfl
    refine ⟨recoveryJobs secs text ++ openingJobs format build env paths snapshot, _, ?_,
      Transition.run_append.2 ⟨_, Account.run_recoveryJobs secs hlaunched htext,
      Account.run_openingJobs snapshot (Or.inl rfl)⟩, fun _ ↦ Or.inr ⟨_, rfl⟩⟩
    rw [hops]
    exact Disk.midway_flatMap _ _

/-- **What one step preserves.** -/
theorem accounted_step {installation installation' : Installation S} {input : InstallationInput S}
    (h : installation.Accounted format build account)
    (hstep : installation.step format build paths input = some installation') :
    ∃ account', Transition.run (Account.step format build) account (installation.events input) =
        some account' ∧ installation'.Accounted format build account' := by
  obtain ⟨disk, process⟩ := installation
  rcases input with ⟨env, config, reads⟩ | ⟨byte⟩ | - | - | ⟨snapshot, now⟩ | ⟨now⟩ | -
  case launch =>
    rcases process with - | ⟨result, rest⟩ | ⟨snapshotState, next, rest⟩
    · obtain rfl := Option.some.inj hstep
      exact h.launch env config reads
    · cases hstep
    · cases hstep
  case log =>
    rcases process with - | ⟨result, rest⟩ | ⟨snapshotState, next, rest⟩
    · cases hstep
    · obtain rfl := Option.some.inj hstep
      exact ⟨account, rfl, h.log byte⟩
    · obtain rfl := Option.some.inj hstep
      exact ⟨account, rfl, h.log byte⟩
  case perform =>
    rcases process with - | ⟨result, - | ⟨op, rest⟩⟩ | ⟨snapshotState, next, - | ⟨op, rest⟩⟩
    · cases hstep
    · rcases result with error | ⟨runtime, startupEvents⟩
      · obtain rfl := Option.some.inj hstep
        exact ⟨_, rfl, h.exit⟩
      · obtain rfl := Option.some.inj hstep
        obtain ⟨hdisk, jobs, goal, hmidway, hrun, hlive⟩ := h
        obtain rfl := hmidway.eq_nil
        obtain rfl := Option.some.inj hrun
        exact ⟨account, rfl, hdisk, [], Disk.midway_flatMap _ _, List.forall_mem_nil _, hlive rfl⟩
    · obtain rfl := Option.some.inj hstep
      exact accounted_perform_starting h
    · cases hstep
    · obtain rfl := Option.some.inj hstep
      exact accounted_perform_running h
  case fail =>
    rcases process with - | ⟨result, - | ⟨op, rest⟩⟩ | ⟨snapshotState, next, - | ⟨op, rest⟩⟩
    · cases hstep
    · cases hstep
    · obtain rfl := Option.some.inj hstep
      exact ⟨_, rfl, h.exit⟩
    · cases hstep
    · obtain rfl := Option.some.inj hstep
      obtain ⟨hdisk, jobs, -, -, hlive⟩ := h
      exact ⟨account, rfl, hdisk, [], Disk.midway_flatMap _ _, List.forall_mem_nil _, hlive⟩
  case update =>
    rcases process with - | ⟨result, rest⟩ | ⟨snapshotState, next, - | ⟨op, rest⟩⟩
    · cases hstep
    · cases hstep
    · obtain rfl := Option.some.inj hstep
      obtain ⟨jobs, hjobs, hops⟩ := exists_jobs_persist format false now
        { snapshotState with current := snapshot }
      refine ⟨account, rfl, ?_⟩
      rw [hops]
      exact h.take hjobs
    · cases hstep
  case shutdown =>
    rcases process with - | ⟨result, rest⟩ | ⟨snapshotState, next, - | ⟨op, rest⟩⟩
    · cases hstep
    · cases hstep
    · obtain rfl := Option.some.inj hstep
      obtain ⟨jobs, hjobs, hops⟩ := exists_jobs_persist format true now snapshotState
      have hall : ∀ job ∈ jobs ++ [Disk.Job.remove .sessionMarker], Account.IsUpkeep job :=
        List.forall_mem_append.2 ⟨hjobs, List.forall_mem_singleton.2 (Or.inr rfl)⟩
      have hops' : (SnapshotPersistenceState.persist format true now snapshotState).2 ++
          [.remove .sessionMarker] =
            (jobs ++ [Disk.Job.remove AppFile.sessionMarker]).flatMap (Disk.Job.ops .temporary) := by
        rw [hops, List.flatMap_append, List.flatMap_singleton]
        rfl
      refine ⟨account, rfl, ?_⟩
      rw [hops']
      exact h.take hall
    · cases hstep
  case exit =>
    rcases process with - | ⟨result, rest⟩ | ⟨snapshotState, next, rest⟩
    · cases hstep
    · obtain rfl := Option.some.inj hstep
      exact ⟨_, rfl, h.exit⟩
    · obtain rfl := Option.some.inj hstep
      exact ⟨_, rfl, h.exit⟩

/-- What every run preserves. -/
theorem accounted_run {inputs : List (InstallationInput S)} {final : Installation S}
    (hrun : Transition.run (step format build paths) ⟨disk, .off⟩ inputs = some final) :
    ∃ account, Transition.run (Account.step format build) (Account.ofDisk disk)
        (Transition.emitted (step format build paths) events ⟨disk, .off⟩ inputs) = some account ∧
      final.Accounted format build account :=
  Transition.run_emitted (fun _ _ _ _ h _ hstep ↦ accounted_step h hstep)
    (accounted_start format build disk) (Transition.along_true _ _) hrun

/-- **Every history is accepted**, over any number of starts, with the process gone at any operation:
what is known in the end is what is on the disk, and no session is left open by a process that is gone. -/
theorem sessions_accounted (format : DiagnosticsFormat S) (build : BuildInfo) (paths : AppPaths)
    {disk : Disk AppFile} {inputs : List (InstallationInput S)} {final : Installation S}
    (hrun : Transition.run (step format build paths) ⟨disk, .off⟩ inputs = some final) :
    ∃ account, Transition.run (Account.step format build) (Account.ofDisk disk)
        (Transition.emitted (step format build paths) events ⟨disk, .off⟩ inputs) = some account ∧
      account.OnDisk final.disk ∧
      (final.process = .off → account.standing.ended = account.standing) ∧
      ∀ snapshotState next rest, final.process = .running snapshotState next rest →
        account.standing.Live := by
  obtain ⟨account, hhistory, hdisk, hprocess⟩ := accounted_run hrun
  refine ⟨account, hhistory, hdisk, fun hoff ↦ ?_, fun snapshotState next rest hrunning ↦ ?_⟩
  · rw [hoff] at hprocess
    exact hprocess
  · rw [hrunning] at hprocess
    obtain ⟨-, -, -, hlive⟩ := hprocess
    exact hlive

end Installation

namespace Sample

/-- A session crashes, and the next start reports it and opens its own. -/
def crashInputs : List (InstallationInput Unit) :=
  .launch bootstrapEnv {} {} :: List.replicate 41 .perform ++
    .exit :: .launch bootstrapEnv {} {} :: List.replicate 431 .perform

theorem crash_isSome :
    (Transition.run (Installation.step diagnosticsFormat buildInfo appPaths) ⟨fun _ ↦ none, .off⟩
      crashInputs).isSome = true := by
  decide +kernel

end Sample

namespace Installation

/-- A history with a crash and a report is accepted. -/
theorem sessions_accounted_crash :
    ∃ final account, Transition.run
        (step Sample.diagnosticsFormat Sample.buildInfo Sample.appPaths) ⟨fun _ ↦ none, .off⟩
        Sample.crashInputs = some final ∧
      Transition.run (Account.step Sample.diagnosticsFormat Sample.buildInfo)
        (Account.ofDisk fun _ ↦ none) (Transition.emitted
          (step Sample.diagnosticsFormat Sample.buildInfo Sample.appPaths) events
          ⟨fun _ ↦ none, .off⟩ Sample.crashInputs) = some account ∧
      account.OnDisk final.disk := by
  obtain ⟨final, hrun⟩ := Option.isSome_iff_exists.1 Sample.crash_isSome
  obtain ⟨account, hhistory, hdisk, -⟩ :=
    sessions_accounted Sample.diagnosticsFormat Sample.buildInfo Sample.appPaths hrun
  exact ⟨final, account, hrun, hhistory, hdisk⟩

end Installation

/-! ### Over the whole history -/

namespace LifeEvent

/-- Another session begins, or none is left to account for. -/
def turns : LifeEvent → Bool
  | .opened _ | .cleared | .closed => true
  | _ => false

def isReport : LifeEvent → Bool
  | .reported _ => true
  | _ => false

theorem isReport_iff {event : LifeEvent} : event.isReport = true ↔ ∃ text, event = .reported text := by
  cases event <;> simp [isReport]

end LifeEvent

namespace Account

variable {S : Type} [Inhabited S] {format : DiagnosticsFormat S} {build : BuildInfo}
  {account account' : Account} {event : LifeEvent} {events : List LifeEvent} {marker : List UInt8}
  {sight : Sight} {disk : Disk AppFile}

/-- What a report would have for a snapshot follows the events, whatever else becomes of the account. -/
theorem step_sight (h : step format build account event = some account') :
    account'.sight = account.sight.after event := by
  cases event with
  | started seesMarker seesSnapshot =>
    obtain ⟨-, rfl⟩ := step_started_iff.1 h
    rfl
  | opened marker =>
    obtain ⟨-, rfl⟩ := step_opened_iff.1 h
    rfl
  | persisted bytes =>
    obtain ⟨-, rfl⟩ := step_persisted_iff.1 h
    rfl
  | reported text =>
    obtain ⟨marker, -, -, rfl⟩ := step_reported_iff.1 h
    rfl
  | cleared =>
    obtain ⟨-, rfl⟩ := step_cleared_iff.1 h
    rfl
  | closed =>
    obtain ⟨-, rfl⟩ := step_closed_iff.1 h
    rfl
  | ended =>
    obtain rfl := step_ended_iff.1 h
    rfl

/-- The snapshot that is known is the last one the events show. -/
theorem run_sight (h : Transition.run (step format build) account events = some account') :
    account'.sight = account.sight.afterAll events := by
  induction events generalizing account with
  | nil =>
    obtain rfl := Option.some.inj h
    rfl
  | cons event events ih =>
    obtain ⟨next, hnext, hrest⟩ := Transition.run_cons.1 h
    rw [ih hrest, step_sight hnext]
    rfl

/-! #### No session is lost -/

/-- The events account for a session with this marker: it closes; or a report about it is written before
its marker goes; or the start that comes last in them has not seen its marker. -/
def AccountsFor (format : DiagnosticsFormat S) (build : BuildInfo) (marker : List UInt8) (sight : Sight)
    (events : List LifeEvent) : Prop :=
  .closed ∈ events ∨
  (∃ first text second, events = first ++ .reported text :: second ∧ .cleared ∈ second ∧
    Reports format build marker (sight.afterAll first).found text) ∨
  ∃ first seesSnapshot second, events = first ++ .started false seesSnapshot :: second ∧ .ended ∉ second

/-- Events that account for a session still do so behind another event. -/
theorem AccountsFor.cons (event : LifeEvent)
    (h : AccountsFor format build marker (sight.after event) events) :
    AccountsFor format build marker sight (event :: events) := by
  obtain hclosed | ⟨first, text, second, rfl, hcleared, htext⟩ | ⟨first, sees, second, rfl, hended⟩ := h
  · exact Or.inl (List.mem_cons_of_mem _ hclosed)
  · exact Or.inr (Or.inl ⟨event :: first, text, second, rfl, hcleared, htext⟩)
  · exact Or.inr (Or.inr ⟨event :: first, sees, second, rfl, hended⟩)

/-- A session that has to be accounted for is accounted for before a start opens another; or it was reported
already, and is cleared; or the start under way has overlooked it already. -/
theorem accountsFor_of_run (h : Transition.run (step format build) account events = some account')
    (hnone : ∀ other, .opened other ∉ events) (hmarker : account.standing.marker = some marker)
    (hfree : account'.standing.Free) :
    AccountsFor format build marker account.sight events ∨
      (account.standing = .reported marker ∧ .cleared ∈ events) ∨
      (∃ other, account.standing = .overlooked other) ∧ .ended ∉ events := by
  induction events generalizing account with
  | nil =>
    obtain rfl := Option.some.inj h
    rcases hfree with hsettled | hoverlooked
    · rw [hsettled] at hmarker
      cases hmarker
    · exact Or.inr (Or.inr ⟨hoverlooked, List.not_mem_nil⟩)
  | cons event events ih =>
    obtain ⟨next, hnext, hrest⟩ := Transition.run_cons.1 h
    have hlater := fun hmarker ↦ ih hrest (fun other hmem ↦ hnone other (List.mem_cons_of_mem _ hmem)) hmarker
    rw [step_sight hnext] at hlater
    cases event with
    | started seesMarker seesSnapshot =>
      obtain ⟨hended, rfl⟩ := step_started_iff.1 hnext
      have hcrashed := Standing.eq_crashed hended hmarker
      obtain haccounts | ⟨hreported, -⟩ | ⟨⟨other, hoverlooked⟩, hnoEnd⟩ :=
        hlater ((Standing.marker_launched _ _).trans hmarker)
      · exact Or.inl haccounts.cons
      · rw [hcrashed] at hreported
        cases seesMarker <;> cases hreported
      · -- it is this start that overlooks the marker
        rw [hcrashed] at hoverlooked
        cases seesMarker with
        | true => cases hoverlooked
        | false => exact Or.inl (Or.inr (Or.inr ⟨[], seesSnapshot, events, rfl, hnoEnd⟩))
    | opened other => exact absurd List.mem_cons_self (hnone other)
    | persisted bytes =>
      obtain ⟨-, rfl⟩ := step_persisted_iff.1 hnext
      obtain haccounts | ⟨hreported, hcleared⟩ | ⟨hoverlooked, hnoEnd⟩ := hlater hmarker
      · exact Or.inl haccounts.cons
      · exact Or.inr (Or.inl ⟨hreported, List.mem_cons_of_mem _ hcleared⟩)
      · exact Or.inr (Or.inr ⟨hoverlooked, by simpa using hnoEnd⟩)
    | reported text =>
      obtain ⟨other, hcrashed, htext, rfl⟩ := step_reported_iff.1 hnext
      rw [hcrashed] at hmarker
      obtain rfl := Option.some.inj hmarker
      obtain haccounts | ⟨-, hcleared⟩ | ⟨⟨another, hoverlooked⟩, -⟩ := hlater rfl
      · exact Or.inl haccounts.cons
      · exact Or.inl (Or.inr (Or.inl ⟨[], text, events, rfl, hcleared, htext⟩))
      · cases hoverlooked
    | cleared =>
      obtain ⟨⟨other, hreported⟩, -⟩ := step_cleared_iff.1 hnext
      rw [hreported] at hmarker
      obtain rfl := Option.some.inj hmarker
      exact Or.inr (Or.inl ⟨hreported, List.mem_cons_self⟩)
    | closed => exact Or.inl (Or.inl List.mem_cons_self)
    | ended =>
      obtain rfl := step_ended_iff.1 hnext
      obtain haccounts | ⟨hreported, -⟩ | ⟨⟨other, hoverlooked⟩, -⟩ :=
        hlater ((Standing.marker_ended _).trans hmarker)
      · exact Or.inl haccounts.cons
      · exact absurd hreported (Standing.ended_ne_reported _ _)
      · exact absurd hoverlooked (Standing.ended_ne_overlooked _ _)

/-! #### No session is reported that did not crash -/

/-- A session with this marker has ended without closing: it was opened in these events, or its marker
was on the disk before. -/
def Crashed (disk : Disk AppFile) (events : List LifeEvent) (marker : List UInt8) : Prop :=
  (∃ first second, events = first ++ .opened marker :: second ∧ .ended ∈ second ∧
    ∀ event ∈ second, event.turns = false) ∨
  disk .sessionMarker = some marker ∧ ∀ event ∈ events, event.turns = false

/-- What the events say of the session that has to be accounted for. -/
def Recalls (disk : Disk AppFile) (events : List LifeEvent) : Standing → Prop
  | .settled => True
  | .opened marker => ∃ first second, events = first ++ .opened marker :: second ∧
      ∀ event ∈ second, event.turns = false
  | .crashed marker | .reported marker | .overlooked marker => Crashed disk events marker

/-- One more event that turns nothing. -/
theorem forall_mem_snoc {second : List LifeEvent} (hsecond : ∀ event ∈ second, event.turns = false)
    (hevent : event.turns = false) : ∀ other ∈ second ++ [event], other.turns = false :=
  List.forall_mem_append.2 ⟨hsecond, List.forall_mem_singleton.2 hevent⟩

/-- A crash is remembered until another session begins. -/
theorem Crashed.snoc (h : Crashed disk events marker) (hevent : event.turns = false) :
    Crashed disk (events ++ [event]) marker := by
  rcases h with ⟨first, second, rfl, hended, hsecond⟩ | ⟨hdisk, hevents⟩
  · refine Or.inl ⟨first, second ++ [event], ?_, List.mem_append_left _ hended,
      forall_mem_snoc hsecond hevent⟩
    rw [List.append_assoc, List.cons_append]
  · exact Or.inr ⟨hdisk, forall_mem_snoc hevents hevent⟩

/-- Nothing is recalled yet but a marker that was on the disk before. -/
theorem recalls_ofDisk (disk : Disk AppFile) : Recalls disk [] (ofDisk disk).standing := by
  rcases hmarker : disk .sessionMarker with - | marker
  · rw [ofDisk, hmarker]
    trivial
  · rw [ofDisk, hmarker]
    exact Or.inr ⟨hmarker, List.forall_mem_nil _⟩

/-- **Every event keeps what is recalled** of the session that has to be accounted for. -/
theorem recalls_step (h : Recalls disk events account.standing)
    (hstep : step format build account event = some account') :
    Recalls disk (events ++ [event]) account'.standing := by
  cases event with
  | started seesMarker seesSnapshot =>
    obtain ⟨hended, rfl⟩ := step_started_iff.1 hstep
    show Recalls disk _ (account.standing.launched seesMarker)
    rcases hmarker : account.standing.marker with - | marker
    · rw [Standing.eq_settled hmarker]
      trivial
    · have hcrashed := Standing.eq_crashed hended hmarker
      rw [hcrashed] at h ⊢
      cases seesMarker with
      | true => exact Crashed.snoc h rfl
      | false => exact Crashed.snoc h rfl
  | opened marker =>
    obtain ⟨-, rfl⟩ := step_opened_iff.1 hstep
    exact ⟨events, [], rfl, List.forall_mem_nil _⟩
  | persisted bytes =>
    have hsnoc (hstanding : account.standing = .settled) : Recalls disk (events ++ [.persisted bytes])
        account.standing := by
      rw [hstanding]
      trivial
    obtain ⟨(hsettled | ⟨marker, hopened⟩) | (hsettled | ⟨marker, hoverlooked⟩), rfl⟩ :=
      step_persisted_iff.1 hstep
    · exact hsnoc hsettled
    · rw [hopened] at h
      obtain ⟨first, second, rfl, hsecond⟩ := h
      show Recalls disk _ account.standing
      rw [hopened]
      refine ⟨first, second ++ [.persisted bytes], ?_, forall_mem_snoc hsecond rfl⟩
      rw [List.append_assoc, List.cons_append]
    · exact hsnoc hsettled
    · rw [hoverlooked] at h
      show Recalls disk _ account.standing
      rw [hoverlooked]
      exact Crashed.snoc h rfl
  | reported text =>
    obtain ⟨marker, hcrashed, -, rfl⟩ := step_reported_iff.1 hstep
    rw [hcrashed] at h
    exact Crashed.snoc h rfl
  | cleared =>
    obtain ⟨-, rfl⟩ := step_cleared_iff.1 hstep
    trivial
  | closed =>
    obtain ⟨-, rfl⟩ := step_closed_iff.1 hstep
    trivial
  | ended =>
    obtain rfl := step_ended_iff.1 hstep
    show Recalls disk _ account.standing.ended
    rcases hstanding : account.standing with - | marker | marker | marker | marker
    · trivial
    · rw [hstanding] at h
      obtain ⟨first, second, rfl, hsecond⟩ := h
      refine Or.inl ⟨first, second ++ [.ended], ?_, List.mem_append_right _ (List.mem_singleton_self _),
        forall_mem_snoc hsecond rfl⟩
      rw [List.append_assoc, List.cons_append]
    · rw [hstanding] at h
      exact Crashed.snoc h rfl
    · rw [hstanding] at h
      exact Crashed.snoc h rfl
    · rw [hstanding] at h
      exact Crashed.snoc h rfl

/-- After any history, an owed session is one that was opened in it or left on the disk before. -/
theorem recalls_run (h : Transition.run (step format build) (ofDisk disk) events = some account) :
    Recalls disk events account.standing :=
  Transition.run_history (I := fun events account ↦ Recalls disk events account.standing)
    (fun _ _ _ _ h hstep ↦ recalls_step h hstep) (recalls_ofDisk disk) h

end Account

namespace Installation

variable {S : Type} [Inhabited S] [DecidableEq S]

/-- **Every crash is reported, and only crashes are.** Between a session and the next one, the first is
closed, or a report about it and its last snapshot is written before its marker goes, or the start that opens
the next one has not seen the marker. What is reported is a session that ended without closing. The report has
the last snapshot, or the default one where the start could not read it. -/
theorem crash_reported (format : DiagnosticsFormat S) (build : BuildInfo) (paths : AppPaths)
    {disk : Disk AppFile} {inputs : List (InstallationInput S)} {final : Installation S}
    (hrun : Transition.run (step format build paths) ⟨disk, .off⟩ inputs = some final) :
    (∀ before marker between marker' after,
        Transition.emitted (step format build paths) events ⟨disk, .off⟩ inputs =
          before ++ .opened marker :: (between ++ .opened marker' :: after) →
        (∀ other, .opened other ∉ between) →
        Account.AccountsFor format build marker (Sight.afterAll ⟨disk .subsystemSnapshot, true⟩ before)
          between) ∧
      ∀ before text after,
        Transition.emitted (step format build paths) events ⟨disk, .off⟩ inputs =
          before ++ .reported text :: after →
        ∃ marker, Account.Crashed disk before marker ∧ Reports format build marker
          (Sight.afterAll ⟨disk .subsystemSnapshot, true⟩ before).found text := by
  obtain ⟨account, hhistory, -⟩ := accounted_run hrun
  refine ⟨fun before marker between marker' after hsplit hnext ↦ ?_, fun before text after hsplit ↦ ?_⟩
  · rw [hsplit] at hhistory
    obtain ⟨settled, hbefore, hrest⟩ := Transition.run_append.1 hhistory
    obtain ⟨opened, hopened, hrest⟩ := Transition.run_cons.1 hrest
    obtain ⟨again, hbetween, hrest⟩ := Transition.run_append.1 hrest
    obtain ⟨reopened, hreopened, -⟩ := Transition.run_cons.1 hrest
    obtain ⟨-, rfl⟩ := Account.step_opened_iff.1 hopened
    have hfree := (Account.step_opened_iff.1 hreopened).1
    have hsight : settled.sight = Sight.afterAll ⟨disk .subsystemSnapshot, true⟩ before :=
      Account.run_sight hbefore
    rw [← hsight]
    obtain haccounts | ⟨hreported, -⟩ | ⟨⟨other, hoverlooked⟩, -⟩ :=
      Account.accountsFor_of_run hbetween hnext rfl hfree
    · exact haccounts
    · cases hreported
    · cases hoverlooked
  · rw [hsplit] at hhistory
    obtain ⟨crashed, hbefore, hrest⟩ := Transition.run_append.1 hhistory
    obtain ⟨reported, hreported, -⟩ := Transition.run_cons.1 hrest
    obtain ⟨marker, hcrashed, htext, -⟩ := Account.step_reported_iff.1 hreported
    have hsight : crashed.sight = Sight.afterAll ⟨disk .subsystemSnapshot, true⟩ before :=
      Account.run_sight hbefore
    have hrecalls := Account.recalls_run hbefore
    rw [hcrashed] at hrecalls
    rw [hsight] at htext
    exact ⟨marker, hrecalls, htext⟩

/-- The second start of the sample writes a report, and it is about a session that crashed. -/
theorem crash_reported_sample :
    ∃ before text after, Transition.emitted
        (step Sample.diagnosticsFormat Sample.buildInfo Sample.appPaths) events ⟨fun _ ↦ none, .off⟩
        Sample.crashInputs = before ++ .reported text :: after ∧
      ∃ marker, Account.Crashed (fun _ ↦ none) before marker ∧
        Reports Sample.diagnosticsFormat Sample.buildInfo marker
          (Sight.afterAll ⟨none, true⟩ before).found text := by
  have hreport : (Transition.emitted
      (step Sample.diagnosticsFormat Sample.buildInfo Sample.appPaths) events ⟨fun _ ↦ none, .off⟩
      Sample.crashInputs).any LifeEvent.isReport = true := by decide +kernel
  obtain ⟨event, hevent, hisReport⟩ := List.any_eq_true.1 hreport
  obtain ⟨text, rfl⟩ := LifeEvent.isReport_iff.1 hisReport
  obtain ⟨before, after, hsplit⟩ := List.append_of_mem hevent
  obtain ⟨final, hrun⟩ := Option.isSome_iff_exists.1 Sample.crash_isSome
  have hreported := (crash_reported Sample.diagnosticsFormat Sample.buildInfo Sample.appPaths hrun).2
  exact ⟨before, text, after, hsplit, hreported before text after hsplit⟩

end Installation
end SynchroSonic
