import SynchroSonic.App.Persistence

/-!
# Diagnostics across a crash

While the application runs, a session marker lies on the disk. A start that finds one reports the session
before: from the marker, the last subsystem snapshot and the last lines of the log. Marker and snapshot
may be damaged; the log may not (`read_log_tail` passes its error on, and the marker stays).

`recovers_iff` says which contents of the three files a start recovers from. The subsystem records are
left open: nothing here looks into them.
-/

namespace SynchroSonic

/-! ### Records -/

/-- `StructuredLogEntry`. -/
structure StructuredLogEntry where
  timestampUnixMs : ℕ
  level : String
  target : String
  message : String
  fields : List (String × String)
  file : Option String
  line : Option ℕ
  deriving DecidableEq, Repr

/-- `SessionMarker`. -/
structure SessionMarker where
  appVersion : String
  releaseChannel : String
  pid : ℕ
  startedAtUnixMs : ℕ
  os : String
  kernel : String
  configPath : String
  statePath : String
  deriving DecidableEq, Repr

/-- `SubsystemSnapshot`. `S` are the records of the subsystems. -/
structure SubsystemSnapshot (S : Type) where
  updatedAtUnixMs : ℕ
  lastCrashRecoveryUnixMs : Option ℕ
  subsystems : S
  deriving DecidableEq, Repr

instance {S : Type} [Inhabited S] : Inhabited (SubsystemSnapshot S) := ⟨⟨0, none, default⟩⟩

/-- `RedactedAudioConfigSummary`. -/
structure RedactedAudioConfigSummary where
  hasPreferredSourceId : Bool
  localPlaybackEnabled : Bool
  hasLocalPlaybackTargetId : Bool
  sampleRateHz : UInt32
  channels : UInt16
  sampleFormat : AudioSampleFormat
  captureBufferFrames : UInt32
  captureLatencyMs : UInt16
  deriving DecidableEq, Repr

/-- `RedactedReceiverConfigSummary`. -/
structure RedactedReceiverConfigSummary where
  enabled : Bool
  startOnLaunch : Bool
  hasAdvertisedName : Bool
  bindHost : String
  listenPort : UInt16
  hasPlaybackTargetId : Bool
  latencyPreset : ReceiverLatencyPreset
  deriving DecidableEq, Repr

/-- `RedactedConfigSummary`. The sections without secrets are summarised by themselves. -/
structure RedactedConfigSummary where
  schemaVersion : UInt32
  audio : RedactedAudioConfigSummary
  discovery : DiscoveryConfig
  transport : TransportConfig
  receiver : RedactedReceiverConfigSummary
  ui : UiConfig
  diagnostics : DiagnosticsConfig
  deriving DecidableEq, Repr

/-- `RedactedConfigSummary::from`. -/
def RedactedConfigSummary.ofConfig (config : AppConfig) : RedactedConfigSummary where
  schemaVersion := config.schemaVersion
  audio :=
    { hasPreferredSourceId := config.audio.preferredSourceId.isSome
      localPlaybackEnabled := config.audio.localPlaybackEnabled
      hasLocalPlaybackTargetId := config.audio.localPlaybackTargetId.isSome
      sampleRateHz := config.audio.sampleRateHz
      channels := config.audio.channels
      sampleFormat := config.audio.sampleFormat
      captureBufferFrames := config.audio.captureBufferFrames
      captureLatencyMs := config.audio.captureLatencyMs }
  discovery := config.discovery
  transport := config.transport
  receiver :=
    { enabled := config.receiver.enabled
      startOnLaunch := config.receiver.startOnLaunch
      hasAdvertisedName := !isBlank config.receiver.advertisedName
      bindHost := config.receiver.bindHost
      listenPort := config.receiver.listenPort
      hasPlaybackTargetId := config.receiver.playbackTargetId.isSome
      latencyPreset := config.receiver.latencyPreset }
  ui := config.ui
  diagnostics := config.diagnostics

/-! ### What the code calls -/

/-- How the records are read and written as JSON. A record that cannot be read is `none`. -/
structure DiagnosticsFormat (S : Type) where
  readMarker : List UInt8 → Option SessionMarker
  readSnapshot : List UInt8 → Option (SubsystemSnapshot S)
  readLogEntry : String → Option StructuredLogEntry
  writeMarker : SessionMarker → List UInt8
  writeSnapshot : SubsystemSnapshot S → List UInt8
  showSnapshot : SubsystemSnapshot S → String
  showSummary : RedactedConfigSummary → String
  showFields : List (String × String) → String

/-- What the build fixes: `metadata`, and the constants of the platform. -/
structure BuildInfo where
  appVersion : String
  releaseChannel : String
  authors : String
  repository : String
  bugTracker : String
  os : String
  arch : String

/-- What a start finds: its clock readings, its process and the kernel. -/
structure BootstrapEnv where
  nowUnixMs : ℕ → ℕ
  pid : ℕ
  kernel : String

/-! ### The log -/

def RECOVERY_LOG_LIMIT : ℕ := 200

/-- A line of the log goes to the tail, which keeps the last `limit` of them. -/
def pushLogLine {S : Type} (format : DiagnosticsFormat S) (limit : ℕ) (tail : List StructuredLogEntry)
    (line : String) : List StructuredLogEntry :=
  if isBlank line then tail
  else
    match format.readLogEntry line with
    | none => tail
    | some entry => (tail ++ [entry]).drop (tail.length + 1 - limit)

/-- `read_log_tail`. -/
def readLogTail {S : Type} (format : DiagnosticsFormat S) (limit : ℕ) (disk : Disk AppFile) :
    Except IoError (List StructuredLogEntry) :=
  match disk .log with
  | none => .ok []
  | some bytes => (readLines bytes).map fun lines ↦ lines.foldl (pushLogLine format limit) []

/-! ### Recovery -/

variable {S : Type} [Inhabited S] (format : DiagnosticsFormat S) (build : BuildInfo)
  (env : BootstrapEnv) (paths : AppPaths)

/-- `load_snapshot`. -/
def loadSnapshot (disk : Disk AppFile) : Option (SubsystemSnapshot S) :=
  (disk .subsystemSnapshot).bind format.readSnapshot

/-- `format_logs`. -/
def formatLogs (logs : List StructuredLogEntry) : String :=
  if logs.isEmpty then "(no structured logs were available)"
  else "\n".intercalate (logs.map fun entry ↦
    "- " ++ toString entry.timestampUnixMs ++ " " ++ entry.level ++ " " ++ entry.target ++ " " ++
      entry.message ++ " " ++ if entry.fields.isEmpty then "" else format.showFields entry.fields)

/-- What a report says about the session before. -/
def markerSummary : Option SessionMarker → String
  | some marker =>
    "Previous session\n  PID: " ++ toString marker.pid ++ "\n  Started: " ++
      toString marker.startedAtUnixMs ++ "\n  OS: " ++ marker.os ++ "\n  Kernel: " ++ marker.kernel ++
      "\n  Config path: " ++ marker.configPath ++ "\n  State path: " ++ marker.statePath ++ "\n"
  | none =>
    "Previous session\n  Marker contents were unreadable, but the session did not close cleanly.\n"

/-- `render_abnormal_termination_report`. -/
def renderAbnormalTerminationReport (now : ℕ) (marker : Option SessionMarker)
    (configSummary : RedactedConfigSummary) (snapshot : SubsystemSnapshot S)
    (logs : List StructuredLogEntry) : String :=
  "SynchroSonic abnormal termination recovered\nGenerated: " ++ toString now ++ "\nApp version: " ++
    build.appVersion ++ " (" ++ build.releaseChannel ++ ")\nDeveloper / Maintainer: " ++ build.authors ++
    "\nRepository: " ++ build.repository ++ "\nIssues: " ++ build.bugTracker ++ "\nBuild target: " ++
    build.os ++ " / " ++ build.arch ++ "\n\n" ++ markerSummary marker ++
    "\nLast known subsystem snapshot\n" ++ format.showSnapshot snapshot ++
    "\n\nSafe config summary\n" ++ format.showSummary configSummary ++
    "\n\nRecent structured logs\n" ++ formatLogs format logs

/-- `CrashReportHandle`. -/
structure CrashReportHandle where
  path : AppFile
  summary : String
  deriving DecidableEq, Repr

/-- What a handle says about the marker. -/
def recoverySummary : Option SessionMarker → String
  | some marker => "Recovered stale session marker from PID " ++ toString marker.pid ++
      " started at " ++ toString marker.startedAtUnixMs ++ "."
  | none => "Recovered a stale session marker, but its contents were unreadable."

/-- Write a file by way of a temporary one. -/
def writeBytesAtomic (file : AppFile) (bytes : List UInt8) : List (Disk.Op AppFile) :=
  Disk.writeAtomicOps (.temporary file) file bytes

/-- `recover_previous_session`: its result, and what it does to the disk. -/
def recoverPreviousSession (configSummary : RedactedConfigSummary) (disk : Disk AppFile) :
    Except IoError (Option CrashReportHandle) × List (Disk.Op AppFile) :=
  match disk .sessionMarker with
  | none => (.ok none, [])
  | some markerBytes =>
    let marker := format.readMarker markerBytes
    let snapshot := (loadSnapshot format disk).getD default
    match readLogTail format RECOVERY_LOG_LIMIT disk with
    | .error error => (.error error, [])
    | .ok logs =>
      let report := renderAbnormalTerminationReport format build (env.nowUnixMs 0) marker configSummary
        snapshot logs
      let file := AppFile.recoveredReport (env.nowUnixMs 1 / 1000)
      (.ok (some ⟨file, recoverySummary marker⟩),
        -- the marker goes only once the report is written
        writeBytesAtomic file (Text.encode report) ++ [.remove .sessionMarker])

/-! ### `bootstrap` -/

/-- `SnapshotPersistenceState`. -/
structure SnapshotPersistenceState (S : Type) where
  current : SubsystemSnapshot S
  lastPersisted : Option (SubsystemSnapshot S) := none
  lastPersistedAtUnixMs : ℕ := 0

def SNAPSHOT_PERSIST_INTERVAL_MS : ℕ := 2000

/-- `persist_snapshot`. -/
def SnapshotPersistenceState.persist [DecidableEq S] (force : Bool) (now : ℕ)
    (state : SnapshotPersistenceState S) : SnapshotPersistenceState S × List (Disk.Op AppFile) :=
  let changed := state.lastPersisted ≠ some state.current
  if force ∨ changed ∨ SNAPSHOT_PERSIST_INTERVAL_MS ≤ now - state.lastPersistedAtUnixMs then
    ({ state with lastPersisted := some state.current, lastPersistedAtUnixMs := now },
      writeBytesAtomic .subsystemSnapshot (format.writeSnapshot state.current))
  else (state, [])

/-- The marker of this session. -/
def sessionMarker : SessionMarker where
  appVersion := build.appVersion
  releaseChannel := build.releaseChannel
  pid := env.pid
  startedAtUnixMs := env.nowUnixMs 4
  os := build.os
  kernel := env.kernel
  configPath := paths.display .config
  statePath := paths.stateDir

/-- `DiagnosticsRuntime`, without the log store. -/
structure DiagnosticsRuntime (S : Type) where
  configSummary : RedactedConfigSummary
  pendingEvents : List DiagnosticEvent := []
  snapshotState : SnapshotPersistenceState S

/-- What a start returns, and what it does to the disk. -/
structure Bootstrap (S : Type) where
  result : Except IoError (DiagnosticsRuntime S × List DiagnosticEvent)
  ops : List (Disk.Op AppFile)

/-- `DiagnosticsRuntime::bootstrap`, when its own `load_snapshot` has returned `loaded`. The recovery, which
loads the snapshot once more, finds `disk`. -/
def bootstrapWith [DecidableEq S] (config : AppConfig) (loaded : Option (SubsystemSnapshot S))
    (disk : Disk AppFile) : Bootstrap S :=
  let configSummary := RedactedConfigSummary.ofConfig config
  let snapshot := loaded.getD default
  match recoverPreviousSession format build env configSummary disk with
  | (.error error, ops) => ⟨.error error, ops⟩
  | (.ok recoveredReport, ops) =>
    let snapshot :=
      match recoveredReport with
      | none => snapshot
      | some _ => { snapshot with lastCrashRecoveryUnixMs := some (env.nowUnixMs 2) }
    let startupEvents :=
      match recoveredReport with
      | none => []
      | some report => [⟨.warning, "diagnostics",
          "Recovered an abnormal termination report at " ++ paths.display report.path ++ "."⟩]
    let (snapshotState, persistOps) :=
      SnapshotPersistenceState.persist format true (env.nowUnixMs 3) { current := snapshot }
    { result := .ok ({ configSummary, snapshotState }, startupEvents)
      ops := ops ++ persistOps ++ writeBytesAtomic .sessionMarker
        (format.writeMarker (sessionMarker build env paths)) }

/-- `DiagnosticsRuntime::bootstrap`, all of whose reads succeed. -/
def bootstrap [DecidableEq S] (config : AppConfig) (disk : Disk AppFile) : Bootstrap S :=
  bootstrapWith format build env paths config (loadSnapshot format disk) disk

/-! ### What is read of the log -/

variable {format build env paths} {disk : Disk AppFile}

theorem readLines_isOk_iff (bytes : List UInt8) :
    (readLines bytes).isOk = true ↔ (Text.decode bytes).isSome = true := by
  rw [← Text.forall_lines_decode_iff, readLines]
  induction Text.lines bytes with
  | nil => exact iff_of_true rfl fun line hline ↦ absurd hline List.not_mem_nil
  | cons line lines ih =>
    rw [List.mapM_cons, List.forall_mem_cons, ← ih]
    rcases hline : Text.decode line with - | text
    · have hdecode : decodeText line = .error .invalidUtf8 := by rw [decodeText, hline]
      rw [hdecode]
      exact iff_of_false Bool.false_ne_true fun h ↦ Bool.false_ne_true h.1
    · have hdecode : decodeText line = .ok text := by rw [decodeText, hline]
      rw [hdecode, Option.isSome_some, eq_self, true_and]
      rcases List.mapM (fun line ↦ (decodeText line).map chomp) lines with error | texts
      · rfl
      · rfl

/-- The log is text, if there is one. -/
def LogReadable (disk : Disk AppFile) : Prop :=
  ∀ bytes ∈ disk .log, (Text.decode bytes).isSome = true

omit [Inhabited S] in
theorem readLogTail_isOk_iff (format : DiagnosticsFormat S) (limit : ℕ) (disk : Disk AppFile) :
    (readLogTail format limit disk).isOk = true ↔ LogReadable disk := by
  rw [LogReadable, readLogTail]
  rcases disk .log with - | bytes
  · exact iff_of_true rfl fun bytes hbytes ↦ absurd hbytes (Option.not_mem_none _)
  · simp only [Option.mem_some_iff, forall_eq']
    rw [← readLines_isOk_iff]
    rcases readLines bytes with error | lines
    · rfl
    · rfl

/-! ### What a start does to the disk -/

/-- The reports that are written, by their seconds. -/
def reportOf : Disk.Op AppFile → Option ℕ
  | .rename _ (.recoveredReport secs) => some secs
  | _ => none

theorem filterMap_reportOf_writeBytesAtomic (file : AppFile) (bytes : List UInt8) :
    (writeBytesAtomic file bytes).filterMap reportOf =
      (reportOf (.rename (.temporary file) file)).toList := by
  have hnone : (Disk.writeOps (AppFile.temporary file) bytes).filterMap reportOf = [] := by
    refine List.filterMap_eq_nil_iff.2 fun op hop ↦ ?_
    rcases List.mem_cons.1 hop with rfl | happend
    · rfl
    · obtain ⟨byte, -, rfl⟩ := List.mem_map.1 happend
      rfl
  rw [writeBytesAtomic, Disk.writeAtomicOps, List.filterMap_append, hnone, List.nil_append]
  rcases hreport : reportOf (.rename (.temporary file) file) with - | secs
  · rw [List.filterMap_cons_none hreport, List.filterMap_nil, Option.toList_none]
  · rw [List.filterMap_cons_some hreport, List.filterMap_nil, Option.toList_some]

theorem temporary_ne (file : AppFile) : AppFile.temporary file ≠ file := by
  induction file with
  | temporary file ih => exact fun h ↦ ih (AppFile.temporary.inj h)
  | _ => exact fun h ↦ nomatch h

theorem perform_writeBytesAtomic_self (file : AppFile) (bytes : List UInt8) (disk : Disk AppFile) :
    Disk.perform (writeBytesAtomic file bytes) disk file = some bytes := by
  rw [writeBytesAtomic, Disk.perform_writeAtomicOps (temporary_ne file),
    Function.update_of_ne (temporary_ne file).symm, Function.update_self]

theorem perform_writeBytesAtomic_of_ne {file other : AppFile} (hother : other ≠ file)
    (htemporary : other ≠ .temporary file) (bytes : List UInt8) (disk : Disk AppFile) :
    Disk.perform (writeBytesAtomic file bytes) disk other = disk other := by
  rw [writeBytesAtomic, Disk.perform_writeAtomicOps (temporary_ne file),
    Function.update_of_ne htemporary, Function.update_of_ne hother]

/-- What follows the recovery: the snapshot and the marker of this session are written. -/
def startOps (format : DiagnosticsFormat S) (build : BuildInfo) (env : BootstrapEnv)
    (paths : AppPaths) (snapshot : SubsystemSnapshot S) : List (Disk.Op AppFile) :=
  writeBytesAtomic .subsystemSnapshot (format.writeSnapshot snapshot) ++
    writeBytesAtomic .sessionMarker (format.writeMarker (sessionMarker build env paths))

omit [Inhabited S] in
/-- They are in no file that the recovery writes or reads the log from. -/
theorem perform_startOps_of_ne {other : AppFile} (hlog : other = .log ∨ ∃ secs, other = .recoveredReport secs)
    (snapshot : SubsystemSnapshot S) (disk : Disk AppFile) :
    Disk.perform (startOps format build env paths snapshot) disk other = disk other := by
  rw [startOps, Disk.perform_append]
  rcases hlog with rfl | ⟨secs, rfl⟩
  · rw [perform_writeBytesAtomic_of_ne (by simp) (by simp),
      perform_writeBytesAtomic_of_ne (by simp) (by simp)]
  · rw [perform_writeBytesAtomic_of_ne (by simp) (by simp),
      perform_writeBytesAtomic_of_ne (by simp) (by simp)]

omit [Inhabited S] in
theorem filterMap_reportOf_startOps (snapshot : SubsystemSnapshot S) :
    (startOps format build env paths snapshot).filterMap reportOf = [] := by
  rw [startOps, List.filterMap_append, filterMap_reportOf_writeBytesAtomic,
    filterMap_reportOf_writeBytesAtomic]
  rfl

variable [DecidableEq S] {config : AppConfig}

/-- A start without a marker just starts. -/
theorem bootstrap_of_no_marker (h : disk .sessionMarker = none) :
    (bootstrap format build env paths config disk).result.isOk = true := by
  simp only [bootstrap, bootstrapWith, recoverPreviousSession, h]
  rfl

/-- A start that cannot read the log stops, and leaves everything as it was. -/
theorem bootstrap_of_not_logReadable (hmarker : disk .sessionMarker ≠ none)
    (hlog : ¬LogReadable disk) :
    (bootstrap format build env paths config disk).result.isOk = false ∧
      (bootstrap format build env paths config disk).ops = [] := by
  obtain ⟨markerBytes, hmarkerBytes⟩ := Option.ne_none_iff_exists'.1 hmarker
  rw [← readLogTail_isOk_iff format RECOVERY_LOG_LIMIT] at hlog
  rcases htail : readLogTail format RECOVERY_LOG_LIMIT disk with error | logs
  · simp only [bootstrap, bootstrapWith, recoverPreviousSession, hmarkerBytes, htail]
    exact ⟨rfl, trivial⟩
  · rw [htail] at hlog
    exact absurd rfl hlog

/-- A start that can read the log reports the session before, removes its marker, and goes on. -/
theorem bootstrap_of_logReadable (hmarker : disk .sessionMarker ≠ none) (hlog : LogReadable disk) :
    (bootstrap format build env paths config disk).result.isOk = true ∧
      ∃ secs report snapshot, (bootstrap format build env paths config disk).ops =
        writeBytesAtomic (.recoveredReport secs) (Text.encode report) ++ [.remove .sessionMarker] ++
          startOps format build env paths snapshot := by
  obtain ⟨markerBytes, hmarkerBytes⟩ := Option.ne_none_iff_exists'.1 hmarker
  rw [← readLogTail_isOk_iff format RECOVERY_LOG_LIMIT] at hlog
  rcases htail : readLogTail format RECOVERY_LOG_LIMIT disk with error | logs
  · rw [htail] at hlog
    exact absurd hlog Bool.false_ne_true
  · simp only [bootstrap, bootstrapWith, recoverPreviousSession, hmarkerBytes, htail]
    exact ⟨rfl, _, _, _, by rw [startOps, ← List.append_assoc]; rfl⟩

/-- **The start recovers** from what it finds: it succeeds; and if there is a marker, it writes one report,
removes the marker, and the start after it succeeds as well. -/
structure Recovers (format : DiagnosticsFormat S) (build : BuildInfo) (env : BootstrapEnv)
    (paths : AppPaths) (config : AppConfig) (disk : Disk AppFile) : Prop where
  ok : (bootstrap format build env paths config disk).result.isOk = true
  report : disk .sessionMarker ≠ none → ∃ secs text,
    (bootstrap format build env paths config disk).ops.filterMap reportOf = [secs] ∧
      Disk.perform (bootstrap format build env paths config disk).ops disk (.recoveredReport secs) =
        some (Text.encode text)
  removed : disk .sessionMarker ≠ none →
    .remove .sessionMarker ∈ (bootstrap format build env paths config disk).ops
  again : disk .sessionMarker ≠ none → ∀ (env' : BootstrapEnv) (config' : AppConfig),
    (bootstrap format build env' paths config'
      (Disk.perform (bootstrap format build env paths config disk).ops disk)).result.isOk = true

/-- **Which crashes a start recovers from**: whatever the marker and the snapshot contain, it does exactly
if there is no marker, or the log is text. -/
theorem recovers_iff (format : DiagnosticsFormat S) (build : BuildInfo) (env : BootstrapEnv)
    (paths : AppPaths) (config : AppConfig) (disk : Disk AppFile) :
    Recovers format build env paths config disk ↔
      disk .sessionMarker = none ∨ LogReadable disk := by
  by_cases hmarker : disk .sessionMarker = none
  · refine iff_of_true ⟨bootstrap_of_no_marker hmarker, ?_, ?_, ?_⟩ (Or.inl hmarker)
    · exact fun h ↦ absurd hmarker h
    · exact fun h ↦ absurd hmarker h
    · exact fun h ↦ absurd hmarker h
  by_cases hlog : LogReadable disk
  · refine iff_of_true ?_ (Or.inr hlog)
    obtain ⟨hok, secs, report, snapshot, hops⟩ :=
      @bootstrap_of_logReadable S _ format build env paths disk _ config hmarker hlog
    refine ⟨hok, fun _ ↦ ⟨secs, report, ?_, ?_⟩, fun _ ↦ ?_, fun _ env' config' ↦ ?_⟩
    · rw [hops, List.filterMap_append, List.filterMap_append, filterMap_reportOf_startOps,
        filterMap_reportOf_writeBytesAtomic]
      rfl
    · rw [hops, Disk.perform_append, Disk.perform_append,
        perform_startOps_of_ne (Or.inr ⟨secs, rfl⟩)]
      show Function.update (Disk.perform _ disk) AppFile.sessionMarker none (.recoveredReport secs) = _
      rw [Function.update_of_ne (by simp), perform_writeBytesAtomic_self]
    · rw [hops]
      simp
    · -- the log is what it was
      have hsame : Disk.perform (bootstrap format build env paths config disk).ops disk .log =
          disk .log := by
        rw [hops, Disk.perform_append, Disk.perform_append, perform_startOps_of_ne (Or.inl rfl)]
        show Function.update (Disk.perform _ disk) AppFile.sessionMarker none .log = _
        rw [Function.update_of_ne (by simp), perform_writeBytesAtomic_of_ne (by simp) (by simp)]
      have hlog' : LogReadable (Disk.perform (bootstrap format build env paths config disk).ops disk) := by
        rw [LogReadable, hsame]
        exact hlog
      by_cases hmarker' : Disk.perform (bootstrap format build env paths config disk).ops disk
          .sessionMarker = none
      · exact bootstrap_of_no_marker hmarker'
      · exact (bootstrap_of_logReadable hmarker' hlog').1
  · refine iff_of_false (fun h ↦ ?_) (not_or.2 ⟨hmarker, hlog⟩)
    cases h.ok.symm.trans (bootstrap_of_not_logReadable hmarker hlog).1

/-! ### A torn line in the log -/

namespace Sample

/-- JSON, on what a crash leaves here: neither an empty file nor a cut line is a record. -/
def diagnosticsFormat : DiagnosticsFormat Unit where
  readMarker _ := none
  readSnapshot _ := none
  readLogEntry _ := none
  writeMarker marker := Text.encode ("\x7b\"pid\":" ++ toString marker.pid ++ "\x7d")
  writeSnapshot snapshot :=
    Text.encode ("\x7b\"updated_at_unix_ms\":" ++ toString snapshot.updatedAtUnixMs ++ "\x7d")
  showSnapshot _ := ""
  showSummary _ := ""
  showFields _ := ""

def buildInfo : BuildInfo := ⟨"0.1.11", "Stable release", "", "", "", "linux", "x86_64"⟩

def bootstrapEnv : BootstrapEnv := ⟨fun _ ↦ 1700000000000, 4711, "Linux"⟩

/-- A crash has cut the log within an umlaut, and left an empty marker. -/
def tornDisk : Disk AppFile :=
  Function.update (Function.update (fun _ ↦ none) .log
    (some (Text.encode "\x7b\"message\":\"K" ++ [0xC3]))) .sessionMarker (some [])

end Sample

/-- **A torn line in the log stops every start.** The log ends within a character; the start fails and
leaves the disk as it is, for the next one to fail. -/
theorem torn_log_stops_start :
    (bootstrap Sample.diagnosticsFormat Sample.buildInfo Sample.bootstrapEnv Sample.appPaths {}
        Sample.tornDisk).result.map (fun _ ↦ ()) = .error .invalidUtf8 ∧
      (bootstrap Sample.diagnosticsFormat Sample.buildInfo Sample.bootstrapEnv Sample.appPaths {}
        Sample.tornDisk).ops = [] ∧
      ¬Recovers Sample.diagnosticsFormat Sample.buildInfo Sample.bootstrapEnv Sample.appPaths {}
        Sample.tornDisk := by
  refine ⟨by decide +kernel, by rfl, fun h ↦ ?_⟩
  have hfails : (bootstrap Sample.diagnosticsFormat Sample.buildInfo Sample.bootstrapEnv Sample.appPaths
      {} Sample.tornDisk).result.isOk = false := by decide +kernel
  cases h.ok.symm.trans hfails

end SynchroSonic
