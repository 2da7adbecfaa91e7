import SynchroSonic.Core.Models
import SynchroSonic.Core.TextIo
import SynchroSonic.Core.Receiver

/-!
# The configuration

`AppConfig` with the defaults of its sections, and `repaired`, which replaces every field that is out of
range by its default. The checks of `repaired` are independent of each other, so each field has a
`FieldCheck` of its own: which values it accepts, the default, and what is said about a value that is
replaced. A check carries the proof that its default passes it; so a repaired configuration needs no
repair (`repaired_repaired`), and `repaired` leaves a configuration alone exactly when every field passes
(`repaired_eq_self_iff`).
-/

namespace SynchroSonic

def APP_CONFIG_SCHEMA_VERSION : UInt32 := 1

/-! ### The sections -/

/-- `AudioConfig`. -/
structure AudioConfig where
  preferredSourceId : Option String := none
  localPlaybackEnabled : Bool := true
  localPlaybackTargetId : Option String := none
  sampleRateHz : UInt32 := 48000
  channels : UInt16 := 2
  sampleFormat : AudioSampleFormat := .s16Le
  captureBufferFrames : UInt32 := 480
  captureLatencyMs : UInt16 := 50
  deriving DecidableEq, Repr

/-- `DiscoveryConfig`. -/
structure DiscoveryConfig where
  enabled : Bool := true
  serviceType : String := "_synchrosonic._tcp.local."
  staleTimeoutSecs : UInt64 := 30
  deriving DecidableEq, Repr

/-- `TransportConfig`. -/
structure TransportConfig where
  bindHost : String := "0.0.0.0"
  streamPort : UInt16 := 51700
  quality : QualityPreset := .balanced
  targetLatencyMs : UInt16 := 150
  connectTimeoutMs : UInt16 := 2000
  heartbeatIntervalMs : UInt16 := 1000
  deriving DecidableEq, Repr

/-- `ReceiverConfig`. -/
structure ReceiverConfig where
  enabled : Bool := true
  startOnLaunch : Bool := false
  advertisedName : String := "SynchroSonic Receiver"
  bindHost : String := "0.0.0.0"
  listenPort : UInt16 := 51700
  playbackTargetId : Option String := none
  latencyPreset : ReceiverLatencyPreset := .balanced
  deriving DecidableEq, Repr

/-- `UiConfig`. -/
structure UiConfig where
  preferDarkTheme : Bool := true
  lastViewName : String := "dashboard"
  deriving DecidableEq, Repr

/-- `DiagnosticsConfig`. -/
structure DiagnosticsConfig where
  verboseLogging : Bool := false
  deriving DecidableEq, Repr

/-- `AppConfig`. -/
structure AppConfig where
  schemaVersion : UInt32 := APP_CONFIG_SCHEMA_VERSION
  audio : AudioConfig := {}
  discovery : DiscoveryConfig := {}
  transport : TransportConfig := {}
  receiver : ReceiverConfig := {}
  ui : UiConfig := {}
  diagnostics : DiagnosticsConfig := {}
  deriving DecidableEq, Repr

/-- `ConfigLoadReport`. -/
structure ConfigLoadReport where
  config : AppConfig
  warnings : List String
  repaired : Bool
  deriving DecidableEq, Repr

/-! ### Checks -/

/-- A check of `repaired`. -/
structure FieldCheck (T : Type) where
  accepts : T → Bool
  default : T
  /-- What is said about a value that is replaced. -/
  warning : T → String
  accepts_default : accepts default = true

namespace FieldCheck

variable {T : Type}

/-- A value that fails the check is replaced by the default. -/
def repair (check : FieldCheck T) (value : T) : T :=
  if check.accepts value then value else check.default

def warnings (check : FieldCheck T) (value : T) : List String :=
  if check.accepts value then [] else [check.warning value]

theorem accepts_repair (check : FieldCheck T) (value : T) :
    check.accepts (check.repair value) = true := by
  rw [repair]
  split
  next haccepts => exact haccepts
  · exact check.accepts_default

theorem repair_eq_self_iff (check : FieldCheck T) (value : T) :
    check.repair value = value ↔ check.accepts value = true :=
  ⟨fun h ↦ h ▸ check.accepts_repair value, fun h ↦ if_pos h⟩

theorem warnings_eq_nil_iff (check : FieldCheck T) (value : T) :
    check.warnings value = [] ↔ check.accepts value = true := by
  rw [warnings]
  split
  next haccepts => exact iff_of_true rfl haccepts
  next haccepts => exact iff_of_false (List.cons_ne_nil _ _) haccepts

/-- A number that must not be zero. -/
def positive [DecidableEq T] [OfNat T 0] [ToString T] (field : String) (default : T)
    (hdefault : default ≠ 0) : FieldCheck T where
  accepts value := value ≠ 0
  default := default
  warning _ := field ++ " must be greater than zero; using " ++ toString default ++ "."
  accepts_default := decide_eq_true hdefault

/-- A text that must not be blank. -/
def nonBlank (field : String) (default : String) (hdefault : isBlank default = false) :
    FieldCheck String where
  accepts value := !isBlank value
  default := default
  warning _ := field ++ " cannot be empty; using " ++ default ++ "."
  accepts_default := by rw [hdefault]; rfl

/-- A number of milliseconds that must not be below 250. -/
def atLeast250 (field : String) (default : UInt16) (hdefault : 250 ≤ default) :
    FieldCheck UInt16 where
  accepts value := 250 ≤ value
  default := default
  warning _ := field ++ " must be at least 250; using " ++ toString default ++ "."
  accepts_default := decide_eq_true hdefault

end FieldCheck

/-! ### Repair -/

namespace AudioConfig

def sampleRateHzCheck : FieldCheck UInt32 :=
  .positive "audio.sample_rate_hz" ({} : AudioConfig).sampleRateHz (by decide)

def channelsCheck : FieldCheck UInt16 :=
  .positive "audio.channels" ({} : AudioConfig).channels (by decide)

def captureBufferFramesCheck : FieldCheck UInt32 :=
  .positive "audio.capture_buffer_frames" ({} : AudioConfig).captureBufferFrames (by decide)

def captureLatencyMsCheck : FieldCheck UInt16 :=
  .positive "audio.capture_latency_ms" ({} : AudioConfig).captureLatencyMs (by decide)

def repaired (audio : AudioConfig) : AudioConfig :=
  { audio with
    sampleRateHz := sampleRateHzCheck.repair audio.sampleRateHz
    channels := channelsCheck.repair audio.channels
    captureBufferFrames := captureBufferFramesCheck.repair audio.captureBufferFrames
    captureLatencyMs := captureLatencyMsCheck.repair audio.captureLatencyMs }

def warnings (audio : AudioConfig) : List String :=
  sampleRateHzCheck.warnings audio.sampleRateHz ++ channelsCheck.warnings audio.channels ++
    captureBufferFramesCheck.warnings audio.captureBufferFrames ++
    captureLatencyMsCheck.warnings audio.captureLatencyMs

/-- Every field passes its check. -/
structure Valid (audio : AudioConfig) : Prop where
  sampleRateHz : sampleRateHzCheck.accepts audio.sampleRateHz = true
  channels : channelsCheck.accepts audio.channels = true
  captureBufferFrames : captureBufferFramesCheck.accepts audio.captureBufferFrames = true
  captureLatencyMs : captureLatencyMsCheck.accepts audio.captureLatencyMs = true

theorem repaired_valid (audio : AudioConfig) : audio.repaired.Valid :=
  ⟨FieldCheck.accepts_repair _ _, FieldCheck.accepts_repair _ _, FieldCheck.accepts_repair _ _,
    FieldCheck.accepts_repair _ _⟩

theorem repaired_of_valid {audio : AudioConfig} (h : audio.Valid) : audio.repaired = audio := by
  simp only [repaired, (FieldCheck.repair_eq_self_iff _ _).2 h.sampleRateHz,
    (FieldCheck.repair_eq_self_iff _ _).2 h.channels,
    (FieldCheck.repair_eq_self_iff _ _).2 h.captureBufferFrames,
    (FieldCheck.repair_eq_self_iff _ _).2 h.captureLatencyMs]

theorem warnings_eq_nil_iff (audio : AudioConfig) : audio.warnings = [] ↔ audio.Valid := by
  simp only [warnings, List.append_eq_nil_iff, FieldCheck.warnings_eq_nil_iff]
  exact ⟨fun ⟨⟨⟨h₁, h₂⟩, h₃⟩, h₄⟩ ↦ ⟨h₁, h₂, h₃, h₄⟩, fun ⟨h₁, h₂, h₃, h₄⟩ ↦ ⟨⟨⟨h₁, h₂⟩, h₃⟩, h₄⟩⟩

end AudioConfig

namespace DiscoveryConfig

def serviceTypeCheck : FieldCheck String :=
  .nonBlank "discovery.service_type" ({} : DiscoveryConfig).serviceType (by decide)

def staleTimeoutSecsCheck : FieldCheck UInt64 :=
  .positive "discovery.stale_timeout_secs" ({} : DiscoveryConfig).staleTimeoutSecs (by decide)

def repaired (discovery : DiscoveryConfig) : DiscoveryConfig :=
  { discovery with
    serviceType := serviceTypeCheck.repair discovery.serviceType
    staleTimeoutSecs := staleTimeoutSecsCheck.repair discovery.staleTimeoutSecs }

def warnings (discovery : DiscoveryConfig) : List String :=
  serviceTypeCheck.warnings discovery.serviceType ++
    staleTimeoutSecsCheck.warnings discovery.staleTimeoutSecs

/-- Every field passes its check. -/
structure Valid (discovery : DiscoveryConfig) : Prop where
  serviceType : serviceTypeCheck.accepts discovery.serviceType = true
  staleTimeoutSecs : staleTimeoutSecsCheck.accepts discovery.staleTimeoutSecs = true

theorem repaired_valid (discovery : DiscoveryConfig) : discovery.repaired.Valid :=
  ⟨FieldCheck.accepts_repair _ _, FieldCheck.accepts_repair _ _⟩

theorem repaired_of_valid {discovery : DiscoveryConfig} (h : discovery.Valid) :
    discovery.repaired = discovery := by
  simp only [repaired, (FieldCheck.repair_eq_self_iff _ _).2 h.serviceType,
    (FieldCheck.repair_eq_self_iff _ _).2 h.staleTimeoutSecs]

theorem warnings_eq_nil_iff (discovery : DiscoveryConfig) :
    discovery.warnings = [] ↔ discovery.Valid := by
  simp only [warnings, List.append_eq_nil_iff, FieldCheck.warnings_eq_nil_iff]
  exact ⟨fun ⟨h₁, h₂⟩ ↦ ⟨h₁, h₂⟩, fun ⟨h₁, h₂⟩ ↦ ⟨h₁, h₂⟩⟩

end DiscoveryConfig

namespace TransportConfig

def bindHostCheck : FieldCheck String :=
  .nonBlank "transport.bind_host" ({} : TransportConfig).bindHost (by decide)

def streamPortCheck : FieldCheck UInt16 :=
  .positive "transport.stream_port" ({} : TransportConfig).streamPort (by decide)

def targetLatencyMsCheck : FieldCheck UInt16 :=
  .positive "transport.target_latency_ms" ({} : TransportConfig).targetLatencyMs (by decide)

def connectTimeoutMsCheck : FieldCheck UInt16 :=
  .atLeast250 "transport.connect_timeout_ms" ({} : TransportConfig).connectTimeoutMs (by decide)

def heartbeatIntervalMsCheck : FieldCheck UInt16 :=
  .atLeast250 "transport.heartbeat_interval_ms" ({} : TransportConfig).heartbeatIntervalMs
    (by decide)

def repaired (transport : TransportConfig) : TransportConfig :=
  { transport with
    bindHost := bindHostCheck.repair transport.bindHost
    streamPort := streamPortCheck.repair transport.streamPort
    targetLatencyMs := targetLatencyMsCheck.repair transport.targetLatencyMs
    connectTimeoutMs := connectTimeoutMsCheck.repair transport.connectTimeoutMs
    heartbeatIntervalMs := heartbeatIntervalMsCheck.repair transport.heartbeatIntervalMs }

def warnings (transport : TransportConfig) : List String :=
  bindHostCheck.warnings transport.bindHost ++ streamPortCheck.warnings transport.streamPort ++
    targetLatencyMsCheck.warnings transport.targetLatencyMs ++
    connectTimeoutMsCheck.warnings transport.connectTimeoutMs ++
    heartbeatIntervalMsCheck.warnings transport.heartbeatIntervalMs

/-- Every field passes its check. -/
structure Valid (transport : TransportConfig) : Prop where
  bindHost : bindHostCheck.accepts transport.bindHost = true
  streamPort : streamPortCheck.accepts transport.streamPort = true
  targetLatencyMs : targetLatencyMsCheck.accepts transport.targetLatencyMs = true
  connectTimeoutMs : connectTimeoutMsCheck.accepts transport.connectTimeoutMs = true
  heartbeatIntervalMs : heartbeatIntervalMsCheck.accepts transport.heartbeatIntervalMs = true

theorem repaired_valid (transport : TransportConfig) : transport.repaired.Valid :=
  ⟨FieldCheck.accepts_repair _ _, FieldCheck.accepts_repair _ _, FieldCheck.accepts_repair _ _,
    FieldCheck.accepts_repair _ _, FieldCheck.accepts_repair _ _⟩

theorem repaired_of_valid {transport : TransportConfig} (h : transport.Valid) :
    transport.repaired = transport := by
  simp only [repaired, (FieldCheck.repair_eq_self_iff _ _).2 h.bindHost,
    (FieldCheck.repair_eq_self_iff _ _).2 h.streamPort,
    (FieldCheck.repair_eq_self_iff _ _).2 h.targetLatencyMs,
    (FieldCheck.repair_eq_self_iff _ _).2 h.connectTimeoutMs,
    (FieldCheck.repair_eq_self_iff _ _).2 h.heartbeatIntervalMs]

theorem warnings_eq_nil_iff (transport : TransportConfig) :
    transport.warnings = [] ↔ transport.Valid := by
  simp only [warnings, List.append_eq_nil_iff, FieldCheck.warnings_eq_nil_iff]
  exact ⟨fun ⟨⟨⟨⟨h₁, h₂⟩, h₃⟩, h₄⟩, h₅⟩ ↦ ⟨h₁, h₂, h₃, h₄, h₅⟩,
    fun ⟨h₁, h₂, h₃, h₄, h₅⟩ ↦ ⟨⟨⟨⟨h₁, h₂⟩, h₃⟩, h₄⟩, h₅⟩⟩

end TransportConfig

namespace ReceiverConfig

def advertisedNameCheck : FieldCheck String :=
  .nonBlank "receiver.advertised_name" ({} : ReceiverConfig).advertisedName (by decide)

def bindHostCheck : FieldCheck String :=
  .nonBlank "receiver.bind_host" ({} : ReceiverConfig).bindHost (by decide)

def listenPortCheck : FieldCheck UInt16 :=
  .positive "receiver.listen_port" ({} : ReceiverConfig).listenPort (by decide)

def repaired (receiver : ReceiverConfig) : ReceiverConfig :=
  { receiver with
    advertisedName := advertisedNameCheck.repair receiver.advertisedName
    bindHost := bindHostCheck.repair receiver.bindHost
    listenPort := listenPortCheck.repair receiver.listenPort }

def warnings (receiver : ReceiverConfig) : List String :=
  advertisedNameCheck.warnings receiver.advertisedName ++
    bindHostCheck.warnings receiver.bindHost ++ listenPortCheck.warnings receiver.listenPort

/-- Every field passes its check. -/
structure Valid (receiver : ReceiverConfig) : Prop where
  advertisedName : advertisedNameCheck.accepts receiver.advertisedName = true
  bindHost : bindHostCheck.accepts receiver.bindHost = true
  listenPort : listenPortCheck.accepts receiver.listenPort = true

theorem repaired_valid (receiver : ReceiverConfig) : receiver.repaired.Valid :=
  ⟨FieldCheck.accepts_repair _ _, FieldCheck.accepts_repair _ _, FieldCheck.accepts_repair _ _⟩

theorem repaired_of_valid {receiver : ReceiverConfig} (h : receiver.Valid) :
    receiver.repaired = receiver := by
  simp only [repaired, (FieldCheck.repair_eq_self_iff _ _).2 h.advertisedName,
    (FieldCheck.repair_eq_self_iff _ _).2 h.bindHost,
    (FieldCheck.repair_eq_self_iff _ _).2 h.listenPort]

theorem warnings_eq_nil_iff (receiver : ReceiverConfig) :
    receiver.warnings = [] ↔ receiver.Valid := by
  simp only [warnings, List.append_eq_nil_iff, FieldCheck.warnings_eq_nil_iff]
  exact ⟨fun ⟨⟨h₁, h₂⟩, h₃⟩ ↦ ⟨h₁, h₂, h₃⟩, fun ⟨h₁, h₂, h₃⟩ ↦ ⟨⟨h₁, h₂⟩, h₃⟩⟩

end ReceiverConfig

namespace UiConfig

def lastViewNameCheck : FieldCheck String :=
  .nonBlank "ui.last_view_name" ({} : UiConfig).lastViewName (by decide)

def repaired (ui : UiConfig) : UiConfig :=
  { ui with lastViewName := lastViewNameCheck.repair ui.lastViewName }

/-- Every field passes its check. -/
def Valid (ui : UiConfig) : Prop := lastViewNameCheck.accepts ui.lastViewName = true

theorem repaired_of_valid {ui : UiConfig} (h : ui.Valid) : ui.repaired = ui := by
  rw [repaired, (FieldCheck.repair_eq_self_iff _ _).2 h]

end UiConfig

namespace AppConfig

def schemaVersionCheck : FieldCheck UInt32 where
  accepts value := value = APP_CONFIG_SCHEMA_VERSION
  default := APP_CONFIG_SCHEMA_VERSION
  warning value := "Config schema version " ++ toString value ++ " was upgraded to "
    ++ toString APP_CONFIG_SCHEMA_VERSION ++ "."
  accepts_default := decide_eq_true rfl

/-- `AppConfig::repaired`. -/
def repaired (config : AppConfig) : ConfigLoadReport :=
  let repaired := { config with
    schemaVersion := schemaVersionCheck.repair config.schemaVersion
    audio := config.audio.repaired
    discovery := config.discovery.repaired
    transport := config.transport.repaired
    receiver := config.receiver.repaired
    ui := config.ui.repaired }
  { config := repaired
    warnings := schemaVersionCheck.warnings config.schemaVersion ++ config.audio.warnings ++
      config.discovery.warnings ++ config.transport.warnings ++ config.receiver.warnings ++
      UiConfig.lastViewNameCheck.warnings config.ui.lastViewName
    repaired := repaired ≠ config }

/-- Every field passes its check. -/
structure Valid (config : AppConfig) : Prop where
  schemaVersion : schemaVersionCheck.accepts config.schemaVersion = true
  audio : config.audio.Valid
  discovery : config.discovery.Valid
  transport : config.transport.Valid
  receiver : config.receiver.Valid
  ui : config.ui.Valid

theorem repaired_valid (config : AppConfig) : config.repaired.config.Valid :=
  ⟨FieldCheck.accepts_repair _ _, config.audio.repaired_valid, config.discovery.repaired_valid,
    config.transport.repaired_valid, config.receiver.repaired_valid, FieldCheck.accepts_repair _ _⟩

/-- **Repair leaves a configuration alone exactly when every field passes its check.** -/
theorem repaired_eq_self_iff (config : AppConfig) :
    config.repaired.config = config ↔ config.Valid := by
  refine ⟨fun h ↦ h ▸ config.repaired_valid, fun h ↦ ?_⟩
  simp only [repaired, (FieldCheck.repair_eq_self_iff _ _).2 h.schemaVersion,
    AudioConfig.repaired_of_valid h.audio, DiscoveryConfig.repaired_of_valid h.discovery,
    TransportConfig.repaired_of_valid h.transport, ReceiverConfig.repaired_of_valid h.receiver,
    UiConfig.repaired_of_valid h.ui]

theorem warnings_eq_nil_iff (config : AppConfig) : config.repaired.warnings = [] ↔ config.Valid := by
  simp only [repaired, List.append_eq_nil_iff, FieldCheck.warnings_eq_nil_iff,
    AudioConfig.warnings_eq_nil_iff, DiscoveryConfig.warnings_eq_nil_iff,
    TransportConfig.warnings_eq_nil_iff, ReceiverConfig.warnings_eq_nil_iff]
  exact ⟨fun ⟨⟨⟨⟨⟨h₁, h₂⟩, h₃⟩, h₄⟩, h₅⟩, h₆⟩ ↦ ⟨h₁, h₂, h₃, h₄, h₅, h₆⟩,
    fun ⟨h₁, h₂, h₃, h₄, h₅, h₆⟩ ↦ ⟨⟨⟨⟨⟨h₁, h₂⟩, h₃⟩, h₄⟩, h₅⟩, h₆⟩⟩

/-- **A configuration that passes is reported as it is.** -/
theorem repaired_of_valid {config : AppConfig} (h : config.Valid) :
    config.repaired = ⟨config, [], false⟩ := by
  have hconfig := config.repaired_eq_self_iff.2 h
  have hwarnings := config.warnings_eq_nil_iff.2 h
  have hrepaired : config.repaired.repaired = false :=
    decide_eq_false fun hne ↦ hne hconfig
  exact (congrArg₂ (fun config warnings ↦ ConfigLoadReport.mk config warnings _) hconfig
    hwarnings).trans (congrArg (ConfigLoadReport.mk config []) hrepaired)

/-- Repairing again changes nothing. -/
theorem repaired_repaired (config : AppConfig) :
    config.repaired.config.repaired = ⟨config.repaired.config, [], false⟩ :=
  repaired_of_valid config.repaired_valid

example : ({} : AppConfig).repaired = ⟨{}, [], false⟩ := by decide

end AppConfig

end SynchroSonic
