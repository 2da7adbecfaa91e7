import SynchroSonic.Core.Config
import SynchroSonic.Machine.Disk

/-!
# The configuration file

`load_with_report_from_path` and `save_to_path`. What the TOML library does is a parameter, `TomlFormat`.
Saving is a list of operations on the disk, so that a crash can come between any two of them.
-/

namespace SynchroSonic

/-! ### What the code calls -/

/-- How a configuration is written as TOML and read back; errors are their texts. -/
structure TomlFormat where
  toStringPretty : AppConfig → Except String String
  fromStr : String → Except String AppConfig

/-- This configuration survives being written and read. -/
def TomlFormat.RoundTrips (toml : TomlFormat) (config : AppConfig) : Prop :=
  ∃ encoded, toml.toStringPretty config = .ok encoded ∧ toml.fromStr encoded = .ok config

/-- How messages show a file and the directory it is in. -/
structure FileNames (Path : Type) where
  display : Path → String
  parent : Path → String

/-- What goes wrong while a file is written: the directory cannot be made, or `fs::write` stops after so
many operations. -/
structure WriteFailures where
  createDirAll : Option IoError := none
  write : Option (ℕ × IoError) := none

/-- `ConfigError`. -/
inductive ConfigError
  | read (path : String) (source : IoError)
  | parse (path : String) (source : String)
  | unsupportedVersion (path : String) (found supported : UInt32)
  | serialize (message : String)
  | write (path : String) (source : IoError)
  deriving DecidableEq, Repr

/-- The `Display` text of a configuration error. -/
def ConfigError.display : ConfigError → String
  | .read path source => "failed to read config at " ++ path ++ ": " ++ source.message
  | .parse path source => "failed to parse config at " ++ path ++ ": " ++ source
  | .unsupportedVersion path found supported =>
    "config at " ++ path ++ " uses schema version " ++ toString found ++
      ", but this build supports up to " ++ toString supported
  | .serialize message => "failed to serialize config: " ++ message
  | .write path source => "failed to write config at " ++ path ++ ": " ++ source.message

/-- `fs::read_to_string`, which may fail whatever is on the disk. -/
def readToString {Path : Type} (failure : Option IoError) (path : Path) (disk : Disk Path) :
    Except IoError String :=
  match failure with
  | some error => .error error
  | none =>
  match disk path with
  | none => .error ⟨.notFound, "No such file or directory (os error 2)"⟩
  | some bytes => decodeText bytes

namespace AppConfig

variable {Path : Type} [DecidableEq Path] (toml : TomlFormat) (names : FileNames Path)

/-- `load_with_report_from_path`. -/
def loadWithReportFromPath (readFailure : Option IoError) (path : Path) (disk : Disk Path) :
    Except ConfigError ConfigLoadReport :=
  match readToString readFailure path disk with
  | .error source => .error (.read (names.display path) source)
  | .ok contents =>
  match toml.fromStr contents with
  | .error source => .error (.parse (names.display path) source)
  | .ok config =>
    if APP_CONFIG_SCHEMA_VERSION < config.schemaVersion then
      .error (.unsupportedVersion (names.display path) config.schemaVersion APP_CONFIG_SCHEMA_VERSION)
    else .ok config.repaired

/-- What `save_to_path` does to the disk if nothing goes wrong. -/
def saveOps (config : AppConfig) (path : Path) : Except String (List (Disk.Op Path)) :=
  (toml.toStringPretty config.repaired.config).map fun encoded ↦
    Disk.writeOps path (Text.encode encoded)

/-- `save_to_path`. -/
def saveToPath (failures : WriteFailures) (config : AppConfig) (path : Path) (disk : Disk Path) :
    Except ConfigError Unit × Disk Path :=
  match failures.createDirAll with
  | some source => (.error (.write (names.parent path) source), disk)
  | none =>
  match config.saveOps toml path with
  | .error message => (.error (.serialize message), disk)
  | .ok ops =>
  match failures.write with
  | some (done, source) =>
    (.error (.write (names.display path) source), Disk.perform (ops.take done) disk)
  | none => (.ok (), Disk.perform ops disk)

variable {toml names} {failures : WriteFailures} {config : AppConfig} {path : Path}

omit [DecidableEq Path] in
theorem saveOps_eq_ok {ops : List (Disk.Op Path)} (h : config.saveOps toml path = .ok ops) :
    ∃ encoded, toml.toStringPretty config.repaired.config = .ok encoded ∧
      ops = Disk.writeOps path (Text.encode encoded) := by
  rw [saveOps] at h
  rcases hencoded : toml.toStringPretty config.repaired.config with message | encoded
  · rw [hencoded] at h
    cases h
  · rw [hencoded] at h
    exact ⟨encoded, rfl, (Except.ok.inj h).symm⟩

/-- Saving touches no other file. -/
theorem saveToPath_of_ne {other : Path} (hne : other ≠ path) (disk : Disk Path) :
    (config.saveToPath toml names failures path disk).2 other = disk other := by
  have hops (ops : List (Disk.Op Path)) (hsave : config.saveOps toml path = .ok ops) (done : ℕ) :
      Disk.perform (ops.take done) disk other = disk other := by
    obtain ⟨encoded, -, rfl⟩ := saveOps_eq_ok hsave
    cases done with
    | zero => rfl
    | succ done => rw [Disk.perform_take_writeOps, Function.update_of_ne hne]
  rw [saveToPath]
  split
  · rfl
  split
  · rfl
  next ops hsave =>
  split
  next done source _ => exact hops ops hsave done
  · have hall := hops ops hsave ops.length
    rwa [List.take_length] at hall

end AppConfig

end SynchroSonic
