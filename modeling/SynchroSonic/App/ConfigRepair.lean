import SynchroSonic.App.Persistence

/-!
# What repair does to a configuration

`repaired` as a projection: its checks, field by field (`AppConfig.settings`), the range that is left to
each (`InRange`), and the fields it does not look at. A field that is in range stays, any other one takes
its default, and nothing else changes; what is saved is loaded without another repair
(`repair_sound_minimal`).
-/

namespace SynchroSonic

/-! ### The fields that are checked -/

/-- A field that `repaired` looks at, with its check. -/
structure Setting where
  Value : Type
  check : FieldCheck Value
  get : AppConfig → Value

namespace Setting

/-- The field passes its check. -/
def Accepts (setting : Setting) (config : AppConfig) : Prop :=
  setting.check.accepts (setting.get config) = true

end Setting

namespace AppConfig

/-- The fields in the order of the checks. -/
def settings : List Setting :=
  [⟨_, schemaVersionCheck, fun config ↦ config.schemaVersion⟩,
    ⟨_, AudioConfig.sampleRateHzCheck, fun config ↦ config.audio.sampleRateHz⟩,
    ⟨_, AudioConfig.channelsCheck, fun config ↦ config.audio.channels⟩,
    ⟨_, AudioConfig.captureBufferFramesCheck, fun config ↦ config.audio.captureBufferFrames⟩,
    ⟨_, AudioConfig.captureLatencyMsCheck, fun config ↦ config.audio.captureLatencyMs⟩,
    ⟨_, DiscoveryConfig.serviceTypeCheck, fun config ↦ config.discovery.serviceType⟩,
    ⟨_, DiscoveryConfig.staleTimeoutSecsCheck, fun config ↦ config.discovery.staleTimeoutSecs⟩,
    ⟨_, TransportConfig.bindHostCheck, fun config ↦ config.transport.bindHost⟩,
    ⟨_, TransportConfig.streamPortCheck, fun config ↦ config.transport.streamPort⟩,
    ⟨_, TransportConfig.targetLatencyMsCheck, fun config ↦ config.transport.targetLatencyMs⟩,
    ⟨_, TransportConfig.connectTimeoutMsCheck, fun config ↦ config.transport.connectTimeoutMs⟩,
    ⟨_, TransportConfig.heartbeatIntervalMsCheck,
      fun config ↦ config.transport.heartbeatIntervalMs⟩,
    ⟨_, ReceiverConfig.advertisedNameCheck, fun config ↦ config.receiver.advertisedName⟩,
    ⟨_, ReceiverConfig.bindHostCheck, fun config ↦ config.receiver.bindHost⟩,
    ⟨_, ReceiverConfig.listenPortCheck, fun config ↦ config.receiver.listenPort⟩,
    ⟨_, UiConfig.lastViewNameCheck, fun config ↦ config.ui.lastViewName⟩]

/-- The other fields: the configuration with a default in every field that is checked. -/
def unchecked (config : AppConfig) : AppConfig where
  audio :=
    { preferredSourceId := config.audio.preferredSourceId
      localPlaybackEnabled := config.audio.localPlaybackEnabled
      localPlaybackTargetId := config.audio.localPlaybackTargetId
      sampleFormat := config.audio.sampleFormat }
  discovery := { enabled := config.discovery.enabled }
  transport := { quality := config.transport.quality }
  receiver :=
    { enabled := config.receiver.enabled
      startOnLaunch := config.receiver.startOnLaunch
      playbackTargetId := config.receiver.playbackTargetId
      latencyPreset := config.receiver.latencyPreset }
  ui := { preferDarkTheme := config.ui.preferDarkTheme }
  diagnostics := config.diagnostics

/-- Every number and every text is one the program can work with. -/
structure InRange (config : AppConfig) : Prop where
  schemaVersion : config.schemaVersion = APP_CONFIG_SCHEMA_VERSION
  sampleRateHz : config.audio.sampleRateHz ≠ 0
  channels : config.audio.channels ≠ 0
  captureBufferFrames : config.audio.captureBufferFrames ≠ 0
  captureLatencyMs : config.audio.captureLatencyMs ≠ 0
  serviceType : isBlank config.discovery.serviceType = false
  staleTimeoutSecs : config.discovery.staleTimeoutSecs ≠ 0
  transportBindHost : isBlank config.transport.bindHost = false
  streamPort : config.transport.streamPort ≠ 0
  targetLatencyMs : config.transport.targetLatencyMs ≠ 0
  connectTimeoutMs : 250 ≤ config.transport.connectTimeoutMs
  heartbeatIntervalMs : 250 ≤ config.transport.heartbeatIntervalMs
  advertisedName : isBlank config.receiver.advertisedName = false
  receiverBindHost : isBlank config.receiver.bindHost = false
  listenPort : config.receiver.listenPort ≠ 0
  lastViewName : isBlank config.ui.lastViewName = false

end AppConfig

/-! ### One field -/

namespace FieldCheck

variable {T : Type} {check : FieldCheck T} {value : T}

theorem repair_of_accepts (h : check.accepts value = true) : check.repair value = value := if_pos h

theorem repair_of_not_accepts (h : ¬check.accepts value = true) :
    check.repair value = check.default := if_neg h

theorem positive_accepts_iff [DecidableEq T] [OfNat T 0] [ToString T] {field : String} {default : T}
    {hdefault : default ≠ 0} : (positive field default hdefault).accepts value = true ↔ value ≠ 0 :=
  decide_eq_true_iff

theorem nonBlank_accepts_iff {field default text : String} {hdefault : isBlank default = false} :
    (nonBlank field default hdefault).accepts text = true ↔ isBlank text = false :=
  Bool.not_eq_true' _ ▸ Iff.rfl

theorem atLeast250_accepts_iff {field : String} {default value : UInt16} {hdefault : 250 ≤ default} :
    (atLeast250 field default hdefault).accepts value = true ↔ 250 ≤ value :=
  decide_eq_true_iff

end FieldCheck

/-- `repaired` repairs every setting on its own. -/
theorem Setting.get_repaired {setting : Setting} (hsetting : setting ∈ AppConfig.settings)
    (config : AppConfig) :
    setting.get config.repaired.config = setting.check.repair (setting.get config) := by
  revert setting
  simp only [AppConfig.settings, List.forall_mem_cons]
  exact ⟨rfl, rfl, rfl, rfl, rfl, rfl, rfl, rfl, rfl, rfl, rfl, rfl, rfl, rfl, rfl, rfl,
    fun _ hmem ↦ absurd hmem List.not_mem_nil⟩

/-- The default of a check is the field of the default configuration. -/
theorem Setting.default_eq {setting : Setting} (hsetting : setting ∈ AppConfig.settings) :
    setting.check.default = setting.get {} := by
  revert setting
  simp only [AppConfig.settings, List.forall_mem_cons]
  exact ⟨rfl, rfl, rfl, rfl, rfl, rfl, rfl, rfl, rfl, rfl, rfl, rfl, rfl, rfl, rfl, rfl,
    fun _ hmem ↦ absurd hmem List.not_mem_nil⟩

namespace AppConfig

/-- The checks ask for the range. -/
theorem valid_iff_inRange (config : AppConfig) : config.Valid ↔ config.InRange := by
  constructor
  · rintro ⟨hschema, haudio, hdiscovery, htransport, hreceiver, hui⟩
    exact
      { schemaVersion := of_decide_eq_true hschema
        sampleRateHz := FieldCheck.positive_accepts_iff.mp haudio.sampleRateHz
        channels := FieldCheck.positive_accepts_iff.mp haudio.channels
        captureBufferFrames := FieldCheck.positive_accepts_iff.mp haudio.captureBufferFrames
        captureLatencyMs := FieldCheck.positive_accepts_iff.mp haudio.captureLatencyMs
        serviceType := FieldCheck.nonBlank_accepts_iff.mp hdiscovery.serviceType
        staleTimeoutSecs := FieldCheck.positive_accepts_iff.mp hdiscovery.staleTimeoutSecs
        transportBindHost := FieldCheck.nonBlank_accepts_iff.mp htransport.bindHost
        streamPort := FieldCheck.positive_accepts_iff.mp htransport.streamPort
        targetLatencyMs := FieldCheck.positive_accepts_iff.mp htransport.targetLatencyMs
        connectTimeoutMs := FieldCheck.atLeast250_accepts_iff.mp htransport.connectTimeoutMs
        heartbeatIntervalMs := FieldCheck.atLeast250_accepts_iff.mp htransport.heartbeatIntervalMs
        advertisedName := FieldCheck.nonBlank_accepts_iff.mp hreceiver.advertisedName
        receiverBindHost := FieldCheck.nonBlank_accepts_iff.mp hreceiver.bindHost
        listenPort := FieldCheck.positive_accepts_iff.mp hreceiver.listenPort
        lastViewName := FieldCheck.nonBlank_accepts_iff.mp hui }
  · intro h
    exact
      { schemaVersion := decide_eq_true h.schemaVersion
        audio :=
          { sampleRateHz := FieldCheck.positive_accepts_iff.mpr h.sampleRateHz
            channels := FieldCheck.positive_accepts_iff.mpr h.channels
            captureBufferFrames := FieldCheck.positive_accepts_iff.mpr h.captureBufferFrames
            captureLatencyMs := FieldCheck.positive_accepts_iff.mpr h.captureLatencyMs }
        discovery :=
          { serviceType := FieldCheck.nonBlank_accepts_iff.mpr h.serviceType
            staleTimeoutSecs := FieldCheck.positive_accepts_iff.mpr h.staleTimeoutSecs }
        transport :=
          { bindHost := FieldCheck.nonBlank_accepts_iff.mpr h.transportBindHost
            streamPort := FieldCheck.positive_accepts_iff.mpr h.streamPort
            targetLatencyMs := FieldCheck.positive_accepts_iff.mpr h.targetLatencyMs
            connectTimeoutMs := FieldCheck.atLeast250_accepts_iff.mpr h.connectTimeoutMs
            heartbeatIntervalMs := FieldCheck.atLeast250_accepts_iff.mpr h.heartbeatIntervalMs }
        receiver :=
          { advertisedName := FieldCheck.nonBlank_accepts_iff.mpr h.advertisedName
            bindHost := FieldCheck.nonBlank_accepts_iff.mpr h.receiverBindHost
            listenPort := FieldCheck.positive_accepts_iff.mpr h.listenPort }
        ui := FieldCheck.nonBlank_accepts_iff.mpr h.lastViewName }

/-! ### The whole record -/

/-- Something is reported exactly when something was changed. -/
theorem repaired_repaired_iff (config : AppConfig) :
    config.repaired.repaired = true ↔ config.repaired.warnings ≠ [] := by
  have hchanged : config.repaired.repaired = true ↔ config.repaired.config ≠ config :=
    decide_eq_true_iff
  rw [hchanged, Ne, config.repaired_eq_self_iff, Ne, config.warnings_eq_nil_iff]

/-- The range is what the settings accept. -/
theorem inRange_iff_settings (config : AppConfig) :
    config.InRange ↔ ∀ setting ∈ settings, setting.Accepts config := by
  rw [← config.valid_iff_inRange]
  constructor
  · intro h setting hsetting
    have hsame := Setting.get_repaired hsetting config
    rw [config.repaired_eq_self_iff.mpr h] at hsame
    rw [Setting.Accepts, hsame]
    exact setting.check.accepts_repair _
  · intro h
    simp only [settings, List.forall_mem_cons] at h
    obtain ⟨hschema, haudio₁, haudio₂, haudio₃, haudio₄, hdiscovery₁, hdiscovery₂, htransport₁,
      htransport₂, htransport₃, htransport₄, htransport₅, hreceiver₁, hreceiver₂, hreceiver₃, hui,
      -⟩ := h
    exact ⟨hschema, ⟨haudio₁, haudio₂, haudio₃, haudio₄⟩, ⟨hdiscovery₁, hdiscovery₂⟩,
      ⟨htransport₁, htransport₂, htransport₃, htransport₄, htransport₅⟩,
      ⟨hreceiver₁, hreceiver₂, hreceiver₃⟩, hui⟩

variable {Path : Type} {toml : TomlFormat} {names : FileNames Path} {failures : WriteFailures}
  {config : AppConfig} {path : Path} {disk left : Disk Path}

/-- A file that is too new is refused as it is. -/
theorem load_of_newer {readFailure : Option IoError} {contents : String} {newer : AppConfig}
    (hread : readToString readFailure path disk = .ok contents)
    (hparse : toml.fromStr contents = .ok newer)
    (hversion : APP_CONFIG_SCHEMA_VERSION < newer.schemaVersion) :
    loadWithReportFromPath toml names readFailure path disk =
      .error (.unsupportedVersion (names.display path) newer.schemaVersion
        APP_CONFIG_SCHEMA_VERSION) := by
  simp only [loadWithReportFromPath, hread, hparse, if_pos hversion]

variable [DecidableEq Path]

/-- What a save that succeeds leaves in the file. -/
theorem saveToPath_eq_ok (h : config.saveToPath toml names failures path disk = (.ok (), left)) :
    ∃ encoded, toml.toStringPretty config.repaired.config = .ok encoded ∧
      left = Function.update disk path (some (Text.encode encoded)) := by
  rw [saveToPath] at h
  rcases hmake : failures.createDirAll with - | source
  · rcases hops : config.saveOps toml path with message | ops
    · simp [hmake, hops] at h
    · rcases hwrite : failures.write with - | ⟨done, source⟩
      · obtain ⟨encoded, hencoded, rfl⟩ := saveOps_eq_ok hops
        simp only [hmake, hops, hwrite, Prod.mk.injEq, true_and] at h
        exact ⟨encoded, hencoded, h ▸ Disk.perform_writeOps path _ disk⟩
      · simp [hmake, hops, hwrite] at h
  · simp [hmake] at h

/-- What is saved is loaded as it is. -/
theorem load_of_save (hround : toml.RoundTrips config.repaired.config)
    (h : config.saveToPath toml names failures path disk = (.ok (), left)) :
    loadWithReportFromPath toml names none path left = .ok ⟨config.repaired.config, [], false⟩ := by
  obtain ⟨encoded, hencoded, rfl⟩ := saveToPath_eq_ok h
  obtain ⟨written, hwritten, hread⟩ := hround
  obtain rfl : encoded = written := Except.ok.inj (hencoded.symm.trans hwritten)
  have hversion : ¬APP_CONFIG_SCHEMA_VERSION < config.repaired.config.schemaVersion := by
    rw [((valid_iff_inRange _).mp config.repaired_valid).schemaVersion]
    exact UInt32.lt_irrefl _
  simp only [loadWithReportFromPath, readToString, Function.update_self, decodeText_encode, hread,
    if_neg hversion, config.repaired_repaired]

/-- **Repair is a projection onto the configurations in range, and moves no field it need not move.**
What passes its check stays, what does not takes its default, and no other field is touched; a warning,
a change and a field out of range come together. The result is left alone by another repair, so it comes
back from the file it is saved to as it is, if TOML gives back what it is given and the file can be read.
A file of a newer version is refused. -/
theorem repair_sound_minimal (config : AppConfig) :
    config.repaired.config.InRange ∧
      (config.InRange ↔ ∀ setting ∈ settings, setting.Accepts config) ∧
      (∀ setting ∈ settings,
        (setting.Accepts config → setting.get config.repaired.config = setting.get config) ∧
          (¬setting.Accepts config → setting.get config.repaired.config = setting.get {})) ∧
      config.repaired.config.unchecked = config.unchecked ∧
      (config.repaired.repaired = true ↔ config.repaired.warnings ≠ []) ∧
      (config.repaired.warnings ≠ [] ↔ ¬config.InRange) ∧
      config.repaired.config.repaired = ⟨config.repaired.config, [], false⟩ ∧
      (∀ (toml : TomlFormat) (names : FileNames Path) (failures : WriteFailures) (path : Path)
        (disk left : Disk Path), toml.RoundTrips config.repaired.config →
        config.saveToPath toml names failures path disk = (.ok (), left) →
        loadWithReportFromPath toml names none path left =
          .ok ⟨config.repaired.config, [], false⟩) ∧
      ∀ (toml : TomlFormat) (names : FileNames Path) (readFailure : Option IoError) (path : Path)
        (disk : Disk Path) (contents : String) (newer : AppConfig),
        readToString readFailure path disk = .ok contents → toml.fromStr contents = .ok newer →
        APP_CONFIG_SCHEMA_VERSION < newer.schemaVersion →
        loadWithReportFromPath toml names readFailure path disk =
          .error (.unsupportedVersion (names.display path) newer.schemaVersion
            APP_CONFIG_SCHEMA_VERSION) := by
  refine ⟨(valid_iff_inRange _).mp config.repaired_valid, config.inRange_iff_settings, ?_, rfl,
    config.repaired_repaired_iff, ?_, config.repaired_repaired, ?_, ?_⟩
  · intro setting hsetting
    rw [Setting.get_repaired hsetting, ← Setting.default_eq hsetting]
    exact ⟨FieldCheck.repair_of_accepts, FieldCheck.repair_of_not_accepts⟩
  · rw [Ne, config.warnings_eq_nil_iff, config.valid_iff_inRange]
  · intro toml names failures path disk left hround hsave
    exact load_of_save hround hsave
  · intro toml names readFailure path disk contents newer hread hparse hversion
    exact load_of_newer hread hparse hversion

end AppConfig

/-! ### A configuration without channels -/

/-- The configuration of the receiver in the kitchen, with no channels and a blank host. -/
def Sample.damagedConfig : AppConfig :=
  { Sample.namedConfig "Kitchen" with
    audio := { channels := 0 }
    transport := { bindHost := " " } }

/-- The repaired configuration is saved, and loaded without another word. -/
theorem repair_sound_minimal_damaged :
    Sample.damagedConfig.repaired.repaired = true ∧
      AppConfig.loadWithReportFromPath Sample.tomlFormat Sample.appPaths.names none .config
        (Sample.damagedConfig.saveToPath Sample.tomlFormat Sample.appPaths.names {} .config
          Sample.kitchenDisk).2 = .ok ⟨Sample.namedConfig "Kitchen", [], false⟩ := by
  obtain ⟨-, -, -, -, hrepaired, hwarnings, -, hload, -⟩ :=
    @AppConfig.repair_sound_minimal AppFile _ Sample.damagedConfig
  have hconfig : Sample.damagedConfig.repaired.config = Sample.namedConfig "Kitchen" := by decide
  have hread : Sample.tomlFormat.fromStr (Sample.namedToml "Kitchen") =
      .ok (Sample.namedConfig "Kitchen") := by decide +kernel
  have hwrite : Sample.tomlFormat.toStringPretty (Sample.namedConfig "Kitchen") =
      .ok (Sample.namedToml "Kitchen") := by decide +kernel
  have hround : Sample.tomlFormat.RoundTrips Sample.damagedConfig.repaired.config := by
    rw [hconfig]
    exact ⟨Sample.namedToml "Kitchen", hwrite, hread⟩
  set save := Sample.damagedConfig.saveToPath Sample.tomlFormat Sample.appPaths.names {} .config
    Sample.kitchenDisk with hsave
  have hok : save.1 = .ok () := by
    simp only [hsave, AppConfig.saveToPath, AppConfig.saveOps, Sample.tomlFormat, Except.map]
  clear_value save
  refine ⟨hrepaired.mpr (hwarnings.mpr fun h ↦ absurd h.channels (by decide)), ?_⟩
  rw [← hconfig]
  exact hload Sample.tomlFormat Sample.appPaths.names {} .config Sample.kitchenDisk save.2 hround
    (hsave.symm.trans (Prod.ext hok rfl))

end SynchroSonic
