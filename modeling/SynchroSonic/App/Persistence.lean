import SynchroSonic.Core.ConfigFile

/-!
# Starting up with a saved configuration

`load_startup_config` reads the configuration file, repairs what it finds, and falls back to the defaults
if there is nothing to find or it cannot be used; an unusable file is renamed first.

`save_active_config` writes the file in place. `startup_after_crash_iff` says after which crashes the next
start accounts for what it comes up with.
-/

namespace SynchroSonic

/-! ### Diagnostics -/

/-- `DiagnosticLevel`. -/
inductive DiagnosticLevel
  | info
  | warning
  | error
  deriving DecidableEq, Repr

/-- `DiagnosticEvent`, without its timestamp. -/
structure DiagnosticEvent where
  level : DiagnosticLevel
  component : String
  message : String
  deriving DecidableEq, Repr

/-! ### Files -/

/-- The files of the application. -/
inductive AppFile
  | config
  /-- A configuration that could not be used, set aside at this second. -/
  | invalidConfig (secs : ℕ)
  | log
  | sessionMarker
  | subsystemSnapshot
  /-- The report about a session that ended abnormally, recovered at this second. -/
  | recoveredReport (secs : ℕ)
  /-- What is written in front of a rename. -/
  | temporary (file : AppFile)
  deriving DecidableEq, Repr

/-- `AppPaths`: the two directories everything is in. -/
structure AppPaths where
  configDir : String
  stateDir : String
  deriving DecidableEq, Repr

namespace AppPaths

/-- The directory of a file. -/
def parent (paths : AppPaths) : AppFile → String
  | .config | .invalidConfig _ => paths.configDir
  | .log => paths.stateDir
  | .sessionMarker | .subsystemSnapshot => paths.stateDir ++ "/diagnostics"
  | .recoveredReport _ => paths.stateDir ++ "/diagnostics/crash-reports"
  | .temporary file => parent paths file

/-- The name of a file in its directory. -/
def fileName : AppFile → String
  | .config => "config.toml"
  | .invalidConfig secs => "config.invalid-" ++ toString secs ++ ".toml"
  | .log => "app-log.jsonl"
  | .sessionMarker => "session-marker.json"
  | .subsystemSnapshot => "subsystem-snapshot.json"
  | .recoveredReport secs => "crash-report-" ++ toString secs ++ "-recovered.txt"
  | .temporary file => fileName file ++ ".tmp"

def display (paths : AppPaths) (file : AppFile) : String :=
  paths.parent file ++ "/" ++ fileName file

def names (paths : AppPaths) : FileNames AppFile := ⟨paths.display, paths.parent⟩

end AppPaths

/-! ### `load_startup_config` -/

/-- What the start meets: the clock, and which of its calls fail. -/
structure StartupEnv where
  nowSecs : ℕ
  read : Option IoError := none
  /-- `exists` says no if it cannot find out. -/
  existsFails : Bool := false
  rename : Option IoError := none
  failures : WriteFailures := {}

/-- A file that is there can be set aside. -/
def StartupEnv.CanSetAside (env : StartupEnv) : Prop := env.existsFails = false ∧ env.rename = none

instance (env : StartupEnv) : Decidable env.CanSetAside := inferInstanceAs (Decidable (_ ∧ _))

/-- `StartupConfig`, and what the start has done to the disk. -/
structure StartupConfig where
  config : AppConfig
  diagnostics : List DiagnosticEvent
  /-- Where a file that could not be used was put. -/
  backup : Option AppFile
  disk : Disk AppFile

variable (toml : TomlFormat) (env : StartupEnv) (paths : AppPaths)

/-- `save_active_config`. -/
def saveActiveConfig (config : AppConfig) (disk : Disk AppFile) :
    Except ConfigError Unit × Disk AppFile :=
  config.saveToPath toml paths.names env.failures .config disk

/-- `backup_invalid_config`. -/
def backupInvalidConfig (disk : Disk AppFile) : Except IoError (Option AppFile) × Disk AppFile :=
  if env.existsFails ∨ disk .config = none then (.ok none, disk)
  else
    match env.rename with
    | some error => (.error error, disk)
    | none =>
      (.ok (some (.invalidConfig env.nowSecs)),
        (Disk.Op.rename AppFile.config (.invalidConfig env.nowSecs)).apply disk)

def configWarning (message : String) : DiagnosticEvent := ⟨.warning, "config", message⟩

/-- `maybe_repair_saved_config`. -/
def maybeRepairSavedConfig (report : ConfigLoadReport) (disk : Disk AppFile) : StartupConfig :=
  if report.repaired then
    let (saved, disk) := saveActiveConfig toml env paths report.config disk
    { config := report.config
      diagnostics :=
        configWarning ("Saved configuration at " ++ paths.display .config ++
            " was repaired before use.") ::
          report.warnings.map configWarning ++
          match saved with
          | .ok () => []
          | .error error => [configWarning ("Repaired configuration could not be written back to " ++
              paths.display .config ++ ": " ++ error.display)]
      backup := none
      disk }
  else
    { config := report.config
      diagnostics :=
        [⟨.info, "config", "Loaded configuration from " ++ paths.display .config ++ "."⟩]
      backup := none
      disk }

/-- No configuration was found. -/
def startWithDefaults (disk : Disk AppFile) : StartupConfig :=
  let (saved, disk) := saveActiveConfig toml env paths {} disk
  { config := {}
    diagnostics :=
      match saved with
      | .ok () => [⟨.info, "config",
          "No saved configuration was found; created a default config at " ++
            paths.display .config ++ "."⟩]
      | .error error => [configWarning
          ("No saved configuration was found; running with defaults, but saving " ++
            paths.display .config ++ " failed: " ++ error.display)]
    backup := none
    disk }

/-- A configuration was found that cannot be used. -/
def fallBackToDefaults (error : ConfigError) (disk : Disk AppFile) : StartupConfig :=
  let (renamed, disk) := backupInvalidConfig env disk
  let backup := renamed.toOption.join
  let (saved, disk) := saveActiveConfig toml env paths {} disk
  let backupSuffix :=
    match backup with
    | none => ""
    | some file => " A backup was written to " ++ paths.display file ++ "."
  { config := {}
    diagnostics :=
      configWarning ("Saved configuration could not be used (" ++ error.display ++
          "); falling back to defaults." ++ backupSuffix) ::
        match saved with
        | .ok () => []
        | .error error => [configWarning ("Default configuration could not be re-saved to " ++
            paths.display .config ++ ": " ++ error.display)]
    backup
    disk }

/-- `load_startup_config`. -/
def loadStartupConfig (disk : Disk AppFile) : StartupConfig :=
  match AppConfig.loadWithReportFromPath toml paths.names env.read .config disk with
  | .ok report => maybeRepairSavedConfig toml env paths report disk
  | .error (.read path source) =>
    if source.kind = .notFound then startWithDefaults toml env paths disk
    else fallBackToDefaults toml env paths (.read path source) disk
  | .error error => fallBackToDefaults toml env paths error disk

/-! ### What a start comes up with -/

/-- The configuration a file with these bytes is read as, if it can be used. -/
def TomlFormat.parse (bytes : List UInt8) : Option AppConfig :=
  match Text.decode bytes with
  | none => none
  | some text =>
    match toml.fromStr text with
    | .error _ => none
    | .ok config => if APP_CONFIG_SCHEMA_VERSION < config.schemaVersion then none else some config

variable {toml env paths} {disk : Disk AppFile} {bytes : List UInt8}

theorem TomlFormat.parse_encode {text : String} {config : AppConfig} (h : toml.fromStr text = .ok config)
    (hversion : ¬APP_CONFIG_SCHEMA_VERSION < config.schemaVersion) :
    toml.parse (Text.encode text) = some config := by
  simp only [parse, Text.decode_encode, h, if_neg hversion]

theorem loadWithReport_of_parse {config : AppConfig} (hread : env.read = none)
    (hdisk : disk .config = some bytes) (hparse : toml.parse bytes = some config) :
    AppConfig.loadWithReportFromPath toml paths.names env.read .config disk = .ok config.repaired := by
  rw [TomlFormat.parse] at hparse
  simp only [AppConfig.loadWithReportFromPath, readToString, hread, hdisk, decodeText]
  rcases hdecode : Text.decode bytes with - | text
  · rw [hdecode] at hparse
    cases hparse
  rcases hfromStr : toml.fromStr text with message | parsed
  · simp only [hdecode, hfromStr, reduceCtorEq] at hparse
  simp only [hdecode, hfromStr] at hparse ⊢
  split at hparse
  · cases hparse
  next hversion =>
    obtain rfl := Option.some.inj hparse
    rw [if_neg hversion]

/-- A file that cannot be used, for another reason than that it is missing. -/
def Unusable (error : ConfigError) : Prop :=
  ∀ path source, error = .read path source → source.kind ≠ .notFound

theorem loadWithReport_of_not_parse (hread : env.read = none) (hdisk : disk .config = some bytes)
    (hparse : toml.parse bytes = none) :
    ∃ error, AppConfig.loadWithReportFromPath toml paths.names env.read .config disk = .error error ∧
      Unusable error := by
  rw [TomlFormat.parse] at hparse
  simp only [AppConfig.loadWithReportFromPath, readToString, hread, hdisk, decodeText]
  rcases hdecode : Text.decode bytes with - | text
  · refine ⟨_, rfl, ?_⟩
    rintro path source hread
    obtain ⟨-, rfl⟩ := ConfigError.read.inj hread
    decide
  simp only [hdecode] at hparse ⊢
  rcases hfromStr : toml.fromStr text with message | parsed
  · exact ⟨_, rfl, fun path source h ↦ nomatch h⟩
  simp only [hfromStr] at hparse ⊢
  split at hparse
  next hversion =>
    rw [if_pos hversion]
    exact ⟨_, rfl, fun path source h ↦ nomatch h⟩
  · cases hparse

/-- A file that can be used is used. -/
theorem loadStartupConfig_of_ok {report : ConfigLoadReport}
    (h : AppConfig.loadWithReportFromPath toml paths.names env.read .config disk = .ok report) :
    (loadStartupConfig toml env paths disk).config = report.config ∧
      (loadStartupConfig toml env paths disk).backup = none := by
  rw [loadStartupConfig, h]
  dsimp only
  rw [maybeRepairSavedConfig]
  split
  · exact ⟨rfl, rfl⟩
  · exact ⟨rfl, rfl⟩

/-- A file that cannot be used is set aside, if that is possible, and a warning says so. -/
theorem loadStartupConfig_of_unusable {error : ConfigError}
    (h : AppConfig.loadWithReportFromPath toml paths.names env.read .config disk = .error error)
    (hunusable : Unusable error) (hdisk : disk .config = some bytes) :
    (loadStartupConfig toml env paths disk).config = {} ∧
      (∃ event ∈ (loadStartupConfig toml env paths disk).diagnostics, event.level = .warning) ∧
      ((∃ file ∈ (loadStartupConfig toml env paths disk).backup,
          (loadStartupConfig toml env paths disk).disk file = some bytes) ↔ env.CanSetAside) := by
  have hfallback : loadStartupConfig toml env paths disk =
      fallBackToDefaults toml env paths error disk := by
    rw [loadStartupConfig, h]
    cases error with
    | read path source => exact if_neg (hunusable path source rfl)
    | _ => rfl
  rw [hfallback]
  refine ⟨rfl, ⟨_, List.mem_cons_self, rfl⟩, ?_⟩
  rw [StartupEnv.CanSetAside]
  rcases hexists : env.existsFails with - | -
  · rcases hrename : env.rename with - | source
    · simp only [fallBackToDefaults, backupInvalidConfig, hexists, hrename, hdisk,
        Bool.false_eq_true, reduceCtorEq, or_self, if_false]
      refine iff_of_true ⟨_, rfl, ?_⟩ ⟨trivial, trivial⟩
      rw [saveActiveConfig, AppConfig.saveToPath_of_ne (by simp)]
      show Function.update (Function.update disk _ (disk .config)) AppFile.config none _ = _
      rw [Function.update_of_ne (by simp), Function.update_self, hdisk]
    · simp only [fallBackToDefaults, backupInvalidConfig, hexists, hrename, hdisk,
        Bool.false_eq_true, reduceCtorEq, or_self, if_false]
      refine iff_of_false ?_ (fun h ↦ h.2)
      rintro ⟨file, hfile, -⟩
      exact absurd hfile (Option.not_mem_none _)
  · simp only [fallBackToDefaults, backupInvalidConfig, hexists, true_or, if_true]
    refine iff_of_false ?_ (fun h ↦ Bool.false_ne_true h.1.symm)
    rintro ⟨file, hfile, -⟩
    exact absurd hfile (Option.not_mem_none _)

/-! ### A crash while the configuration is saved -/

/-- The start comes up with one of these two configurations, or it warns and keeps the damaged file. -/
def StartupConfig.AccountsFor (old new : AppConfig) (left : List UInt8) (startup : StartupConfig) :
    Prop :=
  startup.config = old.repaired.config ∨ startup.config = new.repaired.config ∨
    (∃ event ∈ startup.diagnostics, event.level = .warning) ∧
      ∃ file ∈ startup.backup, startup.disk file = some left

/-- What the start finds is visibly damaged, or it is read as one of the two configurations. -/
def VisiblyDamaged (toml : TomlFormat) (env : StartupEnv) (old new : AppConfig) (left : List UInt8) :
    Prop :=
  match env.read, toml.parse left with
  | none, some config =>
    config.repaired.config = old.repaired.config ∨ config.repaired.config = new.repaired.config
  | none, none => {} = old.repaired.config ∨ {} = new.repaired.config ∨ env.CanSetAside
  | some error, _ => {} = old.repaired.config ∨ {} = new.repaired.config ∨
      error.kind ≠ .notFound ∧ env.CanSetAside

theorem accountsFor_iff {old new : AppConfig} (hdisk : disk .config = some bytes) :
    (loadStartupConfig toml env paths disk).AccountsFor old new bytes ↔
      VisiblyDamaged toml env old new bytes := by
  have hunusable {error : ConfigError}
      (h : AppConfig.loadWithReportFromPath toml paths.names env.read .config disk = .error error)
      (hkind : Unusable error) : (loadStartupConfig toml env paths disk).AccountsFor old new bytes ↔
        {} = old.repaired.config ∨ {} = new.repaired.config ∨ env.CanSetAside := by
    obtain ⟨hconfig, hwarning, hbackup⟩ := loadStartupConfig_of_unusable h hkind hdisk
    rw [StartupConfig.AccountsFor, hconfig, hbackup, and_iff_right hwarning]
  have hused {config : AppConfig} (hconfig : (loadStartupConfig toml env paths disk).config = config)
      (hbackup : (loadStartupConfig toml env paths disk).backup = none) :
      (loadStartupConfig toml env paths disk).AccountsFor old new bytes ↔
        config = old.repaired.config ∨ config = new.repaired.config := by
    rw [StartupConfig.AccountsFor, hconfig, hbackup]
    refine or_congr_right (or_iff_left ?_)
    rintro ⟨-, file, hfile, -⟩
    exact absurd hfile (Option.not_mem_none _)
  rw [VisiblyDamaged]
  -- the bytes are read, or not; once read they parse, or not
  rcases hread : env.read with - | error
  · rcases hparse : toml.parse bytes with - | config
    · obtain ⟨error, hload, hkind⟩ :=
        @loadWithReport_of_not_parse toml env paths disk bytes hread hdisk hparse
      exact hunusable hload hkind
    · obtain ⟨hconfig, hbackup⟩ :=
        loadStartupConfig_of_ok (@loadWithReport_of_parse toml env paths disk bytes _ hread hdisk hparse)
      exact hused hconfig hbackup
  · have hload : AppConfig.loadWithReportFromPath toml paths.names env.read .config disk =
        .error (.read (paths.display .config) error) := by
      rw [AppConfig.loadWithReportFromPath, hread]
      rfl
    by_cases hkind : error.kind = .notFound
    · have hdefaults : loadStartupConfig toml env paths disk =
          startWithDefaults toml env paths disk := by
        rw [loadStartupConfig, hload]
        exact if_pos hkind
      rw [@hused {} (by rw [hdefaults]; rfl) (by rw [hdefaults]; rfl)]
      simp only [hkind, ne_eq, not_true_eq_false, false_and, or_false]
    · rw [hunusable hload fun path source h ↦ (ConfigError.read.inj h).2 ▸ hkind]
      simp only [hkind, ne_eq, not_false_eq_true, true_and]

/-- **After which crashes a start accounts for what it comes up with.** The file holds a configuration that
can be used, and another one is saved, which TOML reproduces. After a crash between any two operations of
`save_to_path`, the next start comes up with the old settings, or the new ones, or warns and keeps the
damaged file: exactly if the crash comes before the file is truncated, or after its last byte, or leaves
something that cannot be used or is read as one of the two. -/
theorem startup_after_crash_iff {old new : AppConfig} {oldBytes left : List UInt8}
    {ops : List (Disk.Op AppFile)} {done : ℕ} (hdisk : disk .config = some oldBytes)
    (hold : toml.parse oldBytes = some old) (hround : toml.RoundTrips new.repaired.config)
    (hsave : new.saveOps toml .config = .ok ops)
    (hleft : Disk.perform (ops.take done) disk .config = some left) :
    (loadStartupConfig toml env paths (Disk.perform (ops.take done) disk)).AccountsFor old new left ↔
      env.read = none ∧ (done = 0 ∨ ops.length ≤ done) ∨ VisiblyDamaged toml env old new left := by
  obtain ⟨encoded, hencoded, rfl⟩ := AppConfig.saveOps_eq_ok hsave
  obtain ⟨encoded', hencoded', hfromStr⟩ := hround
  obtain rfl : encoded = encoded' := Except.ok.inj (hencoded.symm.trans hencoded')
  rw [accountsFor_iff hleft]
  refine ⟨Or.inr, ?_⟩
  rintro (⟨hread, rfl | hall⟩ | hdamaged)
  · -- nothing has happened yet
    obtain rfl : oldBytes = left := Option.some.inj (hdisk.symm.trans hleft)
    rw [VisiblyDamaged, hread, hold]
    exact Or.inl rfl
  · -- the file is whole
    rw [List.take_of_length_le hall, Disk.perform_writeOps, Function.update_self] at hleft
    obtain rfl := Option.some.inj hleft
    have hversion : ¬APP_CONFIG_SCHEMA_VERSION < new.repaired.config.schemaVersion := by
      rw [of_decide_eq_true new.repaired_valid.schemaVersion]
      decide
    rw [VisiblyDamaged, hread, TomlFormat.parse_encode hfromStr hversion]
    refine Or.inr ?_
    rw [new.repaired_repaired]
  · exact hdamaged

/-! ### Two names for a receiver -/

namespace Sample

/-- A configuration that names the receiver. -/
def namedConfig (advertisedName : String) : AppConfig := { receiver := { advertisedName } }

/-- The same as TOML. -/
def namedToml (advertisedName : String) : String :=
  "schema_version = 1\n\n[audio]\nlocal_playback_enabled = true\nsample_rate_hz = 48000\nchannels = 2\n" ++
    "sample_format = \"S16Le\"\ncapture_buffer_frames = 480\ncapture_latency_ms = 50\n\n" ++
    "[discovery]\nenabled = true\nservice_type = \"_synchrosonic._tcp.local.\"\nstale_timeout_secs = 30\n\n" ++
    "[transport]\nbind_host = \"0.0.0.0\"\nstream_port = 51700\nquality = \"Balanced\"\n" ++
    "target_latency_ms = 150\nconnect_timeout_ms = 2000\nheartbeat_interval_ms = 1000\n\n" ++
    "[receiver]\nenabled = true\nstart_on_launch = false\nadvertised_name = \"" ++ advertisedName ++
    "\"\nbind_host = \"0.0.0.0\"\nlisten_port = 51700\nlatency_preset = \"Balanced\"\n\n" ++
    "[ui]\nprefer_dark_theme = true\nlast_view_name = \"dashboard\"\n\n[diagnostics]\nverbose_logging = false\n"

/-- TOML, on the texts these samples write and on what a crash leaves of them: an empty file has all the
defaults, and a header without its bracket is refused. -/
def tomlFormat : TomlFormat where
  toStringPretty config := .ok (namedToml config.receiver.advertisedName)
  fromStr text :=
    if text = "" then .ok {}
    else if text = namedToml "Kitchen" then .ok (namedConfig "Kitchen")
    else if text = namedToml "Studio" then .ok (namedConfig "Studio")
    else .error "TOML parse error"

def appPaths : AppPaths := ⟨"/home/user/.config/synchrosonic", "/home/user/.local/state/synchrosonic"⟩

/-- The configuration file of the receiver in the kitchen. -/
def kitchenDisk : Disk AppFile :=
  Function.update (fun _ ↦ none) .config (some (Text.encode (namedToml "Kitchen")))

/-- Saving the name of another receiver. -/
def studioOps : List (Disk.Op AppFile) :=
  Disk.writeOps .config (Text.encode (namedToml "Studio"))

/-- A start at which every call succeeds. -/
def startupEnv : StartupEnv := { nowSecs := 1700000000 }

/-- The start after a crash. -/
def startAfter (done : ℕ) : StartupConfig :=
  loadStartupConfig tomlFormat startupEnv appPaths
    (Disk.perform (studioOps.take done) kitchenDisk)

end Sample

/-- **A crash right after the truncation loses all settings silently.** The empty file is read as the
defaults, and the start reports that it has loaded the configuration. -/
theorem crash_loses_settings :
    (Sample.namedConfig "Studio").saveOps Sample.tomlFormat .config = .ok Sample.studioOps ∧
      Disk.perform (Sample.studioOps.take 1) Sample.kitchenDisk .config = some [] ∧
      (Sample.startAfter 1).config = {} ∧
      (Sample.startAfter 1).diagnostics = [⟨.info, "config",
        "Loaded configuration from /home/user/.config/synchrosonic/config.toml."⟩] ∧
      ¬(Sample.startAfter 1).AccountsFor (Sample.namedConfig "Kitchen") (Sample.namedConfig "Studio")
        [] := by
  have hbackup : (Sample.startAfter 1).backup = none := by decide +kernel
  refine ⟨rfl, by decide +kernel, by decide +kernel, by decide +kernel, ?_⟩
  rintro (hold | hnew | ⟨-, file, hfile, -⟩)
  · exact absurd hold (by decide +kernel)
  · exact absurd hnew (by decide +kernel)
  · rw [hbackup] at hfile
    exact absurd hfile (Option.not_mem_none _)

/-- A crash within the name of the first section is noticed. -/
theorem startup_after_crash_iff_cut_header :
    (Sample.startAfter 27).AccountsFor (Sample.namedConfig "Kitchen") (Sample.namedConfig "Studio")
        (Text.encode "schema_version = 1\n\n[audio") ↔
      Sample.startupEnv.read = none ∧ (27 = 0 ∨ Sample.studioOps.length ≤ 27) ∨
        VisiblyDamaged Sample.tomlFormat Sample.startupEnv (Sample.namedConfig "Kitchen")
          (Sample.namedConfig "Studio") (Text.encode "schema_version = 1\n\n[audio") := by
  have hdisk : Sample.kitchenDisk .config = some (Text.encode (Sample.namedToml "Kitchen")) :=
    Function.update_self _ _ _
  exact startup_after_crash_iff hdisk
    (@TomlFormat.parse_encode _ _ (Sample.namedConfig "Kitchen") (by decide +kernel) (by decide))
    ⟨Sample.namedToml "Studio", by decide +kernel, by decide +kernel⟩ rfl (by decide +kernel)

end SynchroSonic
