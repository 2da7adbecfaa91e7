import SynchroSonic.App.Persistence

/-!
# What becomes of a configuration that cannot be used

`load_startup_config` renames a file it cannot use and then saves the defaults in its place. The two
steps do not know of each other: the defaults are saved whether or not the rename has succeeded, and the
rename does not look at what is under the new name, which has the second in it and nothing else.

So the old content is lost when the rename fails and the save does not, and an older one is when two starts
fall into the same second (`startup_keeps_iff`). Over many starts every file that is set aside stays,
as long as no two are set aside in one second (`backups_kept_of_starts`).
-/

namespace SynchroSonic

/-- The files that hold what could not be used. -/
def AppFile.backups : Set AppFile := {file | ∃ secs, file = .invalidConfig secs}

/-- These bytes are in the configuration file or in a backup. -/
def StillThere (disk : Disk AppFile) (bytes : List UInt8) : Prop :=
  disk .config = some bytes ∨ ∃ secs, disk (.invalidConfig secs) = some bytes

namespace StartupEnv

/-- A file that cannot be used is renamed: it is not taken for a missing one, and it can be set aside. -/
def SetsAside (env : StartupEnv) : Prop :=
  (∀ source ∈ env.read, source.kind ≠ .notFound) ∧ env.CanSetAside

instance (env : StartupEnv) : Decidable env.SetsAside := inferInstanceAs (Decidable (_ ∧ _))

/-- Saving the defaults does not change a file with these bytes: it fails before the file is touched, or
what it writes is what was there. -/
def SpareDefaults (toml : TomlFormat) (env : StartupEnv) (bytes : List UInt8) : Prop :=
  env.failures.createDirAll ≠ none ∨
    ∀ encoded, toml.toStringPretty {} = .ok encoded →
      match env.failures.write with
      | none => Text.encode encoded = bytes
      | some (0, _) => True
      | some (done + 1, _) => (Text.encode encoded).take done = bytes

end StartupEnv

variable {toml : TomlFormat} {env : StartupEnv} {paths : AppPaths} {disk : Disk AppFile}
  {bytes : List UInt8} {error : ConfigError}

/-! ### Saving the defaults -/

/-- Saving changes the configuration file only. -/
theorem saveActiveConfig_of_ne {file : AppFile} (hne : file ≠ .config) (config : AppConfig)
    (disk : Disk AppFile) : (saveActiveConfig toml env paths config disk).2 file = disk file :=
  AppConfig.saveToPath_of_ne hne disk

/-- The content stays exactly when saving spares it. -/
theorem saveActiveConfig_config_iff (hdisk : disk .config = some bytes) :
    (saveActiveConfig toml env paths {} disk).2 .config = some bytes ↔
      env.SpareDefaults toml bytes := by
  have hdefault : ({} : AppConfig).repaired.config = {} := by decide
  rw [saveActiveConfig, AppConfig.saveToPath, StartupEnv.SpareDefaults]
  rcases hmake : env.failures.createDirAll with - | source
  · rcases hencoded : toml.toStringPretty {} with message | encoded
    · simp [AppConfig.saveOps, hdefault, hencoded, Except.map, hdisk]
    · have hops : ({} : AppConfig).saveOps toml AppFile.config =
          .ok (Disk.writeOps .config (Text.encode encoded)) := by
        rw [AppConfig.saveOps, hdefault, hencoded]
        rfl
      rcases hwrite : env.failures.write with - | ⟨done | done, source⟩
      · simp [hops, Disk.perform_writeOps]
      · simp [hops, Disk.perform, hdisk]
      · simp [hops, Disk.perform_take_writeOps]
  · simp [hdisk]

/-! ### A start with a file that cannot be used -/

/-- Only a call that fails takes a file that is there for a missing one. -/
theorem unusable_of_existing (hdisk : disk .config = some bytes)
    (hread : ∀ source ∈ env.read, source.kind ≠ .notFound)
    (hload : AppConfig.loadWithReportFromPath toml paths.names env.read .config disk = .error error) :
    Unusable error := by
  rintro path source rfl
  rw [AppConfig.loadWithReportFromPath] at hload
  rcases hfailure : env.read with - | failure
  · -- the file is read, so what is wrong with it is its bytes
    rcases hdecode : Text.decode bytes with - | contents
    · simp only [readToString, hfailure, hdisk, decodeText, hdecode, Except.error.injEq,
        ConfigError.read.injEq] at hload
      rw [← hload.2]
      decide
    · simp only [readToString, hfailure, hdisk, decodeText, hdecode] at hload
      split at hload
      · cases hload
      · split at hload
        · cases hload
        · cases hload
  · simp only [readToString, hfailure, Except.error.injEq, ConfigError.read.injEq] at hload
    rw [← hload.2]
    exact hread failure hfailure

/-- A file that can be set aside is. -/
theorem backupInvalidConfig_disk (hdisk : disk .config = some bytes) :
    (backupInvalidConfig env disk).2 = if env.CanSetAside then
      (Disk.Op.rename AppFile.config (.invalidConfig env.nowSecs)).apply disk else disk := by
  rw [backupInvalidConfig, hdisk]
  rcases hexists : env.existsFails with - | -
  · rcases hrename : env.rename with - | source
    · simp [StartupEnv.CanSetAside, hexists, hrename]
    · simp [StartupEnv.CanSetAside, hrename]
  · simp [StartupEnv.CanSetAside, hexists]

/-- The defaults are saved after the file has been set aside, or else where it is. -/
theorem loadStartupConfig_disk (hdisk : disk .config = some bytes)
    (hload : AppConfig.loadWithReportFromPath toml paths.names env.read .config disk = .error error) :
    (loadStartupConfig toml env paths disk).disk =
      (saveActiveConfig toml env paths {}
        (if env.SetsAside then (Disk.Op.rename AppFile.config (.invalidConfig env.nowSecs)).apply disk
        else disk)).2 := by
  by_cases hread : ∀ source ∈ env.read, source.kind ≠ .notFound
  · have hunusable := unusable_of_existing hdisk hread hload
    have hfallback : loadStartupConfig toml env paths disk =
        fallBackToDefaults toml env paths error disk := by
      rw [loadStartupConfig, hload]
      cases error with
      | read path source => exact if_neg (hunusable path source rfl)
      | _ => rfl
    have haside : env.SetsAside ↔ env.CanSetAside := and_iff_right hread
    simp only [haside, ← backupInvalidConfig_disk hdisk, hfallback]
    rfl
  · -- the file is taken for a missing one
    obtain ⟨source, hsource, hkind⟩ : ∃ source ∈ env.read, source.kind = .notFound := by
      push Not at hread
      exact hread
    have hstart : loadStartupConfig toml env paths disk = startWithDefaults toml env paths disk := by
      rw [loadStartupConfig, AppConfig.loadWithReportFromPath, Option.mem_def.mp hsource]
      exact if_pos hkind
    rw [hstart, if_neg fun h ↦ hread h.1]
    rfl

/-- **What a start keeps.** -/
structure StartupConfig.Keeps (before : Disk AppFile) (bytes : List UInt8) (startup : StartupConfig) :
    Prop where
  /-- The old content is still somewhere. -/
  content : StillThere startup.disk bytes
  /-- No backup is lost or changed. -/
  backups : Disk.Keeps AppFile.backups before startup.disk

/-- A backup is written over by another one of the same second only. -/
theorem keeps_iff_of_setsAside (hdisk : disk .config = some bytes)
    (hload : AppConfig.loadWithReportFromPath toml paths.names env.read .config disk = .error error)
    (haside : env.SetsAside) :
    (loadStartupConfig toml env paths disk).Keeps disk bytes ↔
      ∀ earlier, disk (.invalidConfig env.nowSecs) = some earlier → earlier = bytes := by
  have hbackup (secs : ℕ) : (loadStartupConfig toml env paths disk).disk (.invalidConfig secs) =
      (Disk.Op.rename AppFile.config (.invalidConfig env.nowSecs)).apply disk (.invalidConfig secs) := by
    rw [loadStartupConfig_disk hdisk hload, if_pos haside]
    exact saveActiveConfig_of_ne (by simp) {} _
  have hnow : (loadStartupConfig toml env paths disk).disk (.invalidConfig env.nowSecs) =
      some bytes := by
    rw [hbackup]
    show Function.update (Function.update disk _ (disk .config)) AppFile.config none _ = _
    rw [Function.update_of_ne (by simp), Function.update_self, hdisk]
  constructor
  · intro hkeeps earlier hearlier
    have hkept := hkeeps.backups _ ⟨env.nowSecs, rfl⟩ earlier hearlier
    exact Option.some.inj (hkept.symm.trans hnow)
  · intro hsame
    refine ⟨.inr ⟨env.nowSecs, hnow⟩, ?_⟩
    rintro file ⟨secs, rfl⟩ earlier hearlier
    by_cases hsecs : secs = env.nowSecs
    · subst hsecs
      rw [hsame earlier hearlier]
      exact hnow
    · rw [hbackup]
      show Function.update (Function.update disk _ (disk .config)) AppFile.config none _ = _
      rw [Function.update_of_ne (by simp), Function.update_of_ne (by simpa using hsecs)]
      exact hearlier

/-- A file that is not set aside is written over. -/
theorem keeps_iff_of_not_setsAside (hdisk : disk .config = some bytes)
    (hload : AppConfig.loadWithReportFromPath toml paths.names env.read .config disk = .error error)
    (haside : ¬env.SetsAside) :
    (loadStartupConfig toml env paths disk).Keeps disk bytes ↔
      env.SpareDefaults toml bytes ∨ ∃ secs, disk (.invalidConfig secs) = some bytes := by
  have hleft := loadStartupConfig_disk hdisk hload
  rw [if_neg haside] at hleft
  have hconfig : (loadStartupConfig toml env paths disk).disk .config = some bytes ↔
      env.SpareDefaults toml bytes := by
    rw [hleft]
    exact saveActiveConfig_config_iff hdisk
  have hbackup (secs : ℕ) : (loadStartupConfig toml env paths disk).disk (.invalidConfig secs) =
      disk (.invalidConfig secs) := by
    rw [hleft]
    exact saveActiveConfig_of_ne (by simp) {} _
  constructor
  · intro hkeeps
    rcases hkeeps.content with hcontent | ⟨secs, hcontent⟩
    · exact .inl (hconfig.mp hcontent)
    · exact .inr ⟨secs, (hbackup secs).symm.trans hcontent⟩
  · intro hspared
    refine ⟨?_, Disk.keeps_of_eq ?_⟩
    · rcases hspared with hspared | ⟨secs, hcontent⟩
      · exact .inl (hconfig.mpr hspared)
      · exact .inr ⟨secs, (hbackup secs).trans hcontent⟩
    · rintro file ⟨secs, rfl⟩
      exact hbackup secs

/-- **A start keeps a file that it cannot use exactly in these cases.** It sets the file aside, under a
name that is free or has the same content. Or it does not, and saving the defaults spares the file or a
backup has its content already. -/
theorem startup_keeps_iff (hdisk : disk .config = some bytes)
    (hload : AppConfig.loadWithReportFromPath toml paths.names env.read .config disk = .error error) :
    (loadStartupConfig toml env paths disk).Keeps disk bytes ↔
      (env.SetsAside →
        ∀ earlier, disk (.invalidConfig env.nowSecs) = some earlier → earlier = bytes) ∧
      (¬env.SetsAside →
        env.SpareDefaults toml bytes ∨ ∃ secs, disk (.invalidConfig secs) = some bytes) := by
  by_cases haside : env.SetsAside
  · rw [keeps_iff_of_setsAside hdisk hload haside]
    exact ⟨fun h ↦ ⟨fun _ ↦ h, fun hnot ↦ absurd haside hnot⟩, fun h ↦ h.1 haside⟩
  · rw [keeps_iff_of_not_setsAside hdisk hload haside]
    exact ⟨fun h ↦ ⟨fun hset ↦ absurd hset haside, fun _ ↦ h⟩, fun h ↦ h.2 haside⟩

/-! ### One start after another -/

/-- A start touches the configuration file and the backup of its second, and nothing else. -/
theorem loadStartupConfig_of_ne {file : AppFile} (hconfig : file ≠ .config)
    (hbackup : file ≠ .invalidConfig env.nowSecs) :
    (loadStartupConfig toml env paths disk).disk file = disk file := by
  have hsaved (config : AppConfig) (disk : Disk AppFile) :
      (saveActiveConfig toml env paths config disk).2 file = disk file :=
    saveActiveConfig_of_ne hconfig config disk
  have hfallback (error : ConfigError) :
      (fallBackToDefaults toml env paths error disk).disk file = disk file := by
    show (saveActiveConfig toml env paths {} (backupInvalidConfig env disk).2).2 file = disk file
    rw [hsaved, backupInvalidConfig]
    split
    · rfl
    · split
      · rfl
      · show Function.update (Function.update disk _ (disk .config)) AppFile.config none file = _
        rw [Function.update_of_ne hconfig, Function.update_of_ne hbackup]
  rw [loadStartupConfig]
  split
  · rw [maybeRepairSavedConfig]
    split
    · exact hsaved _ disk
    · rfl
  · split
    · exact hsaved {} disk
    · exact hfallback _
  · exact hfallback _

/-- A start, and what is in the configuration file when it comes. -/
structure StartRound where
  env : StartupEnv
  content : Option (List UInt8)

/-- What the start leaves. -/
def StartRound.after (toml : TomlFormat) (paths : AppPaths) (disk : Disk AppFile) (round : StartRound) :
    Disk AppFile :=
  (loadStartupConfig toml round.env paths (Function.update disk .config round.content)).disk

theorem StartRound.after_of_ne {round : StartRound} {secs : ℕ} (hne : secs ≠ round.env.nowSecs) :
    round.after toml paths disk (.invalidConfig secs) = disk (.invalidConfig secs) := by
  rw [StartRound.after, loadStartupConfig_of_ne (by simp) (by simpa using hne),
    Function.update_of_ne (by simp)]

/-- **No start loses a backup of another one**, whatever fails and whatever is in the file, if no two of
them come in one second. -/
theorem backups_kept_of_starts {rounds : List StartRound}
    (hseconds : (rounds.map fun round ↦ round.env.nowSecs).Nodup)
    (hfree : ∀ round ∈ rounds, disk (.invalidConfig round.env.nowSecs) = none) :
    Disk.Keeps AppFile.backups disk (rounds.foldl (StartRound.after toml paths) disk) := by
  induction rounds generalizing disk with
  | nil => exact Disk.Keeps.refl _ disk
  | cons round rounds ih =>
    rw [List.map_cons, List.nodup_cons] at hseconds
    obtain ⟨hnew, hseconds⟩ := hseconds
    have hfirst : Disk.Keeps AppFile.backups disk (round.after toml paths disk) := by
      rintro file ⟨secs, rfl⟩ bytes hbytes
      by_cases hsecs : secs = round.env.nowSecs
      · subst hsecs
        have hnone := hfree round List.mem_cons_self
        exact absurd (hbytes.symm.trans hnone) (Option.some_ne_none bytes)
      · rw [StartRound.after_of_ne hsecs]
        exact hbytes
    -- the names of the later starts are still free
    have hlater : ∀ later ∈ rounds,
        round.after toml paths disk (.invalidConfig later.env.nowSecs) = none := by
      intro later hlater
      have hne : later.env.nowSecs ≠ round.env.nowSecs := fun h ↦
        hnew (List.mem_map.mpr ⟨later, hlater, h⟩)
      rw [StartRound.after_of_ne hne]
      exact hfree later (List.mem_cons_of_mem round hlater)
    exact hfirst.trans (ih hseconds hlater)

/-! ### A directory that cannot be written to -/

namespace Sample

/-- A configuration with a header that is not closed. -/
def brokenBytes : List UInt8 := Text.encode "[audio"

def brokenDisk : Disk AppFile := Function.update (fun _ ↦ none) .config (some brokenBytes)

/-- The file may be written and its directory may not: no file in it can be renamed. -/
def readOnlyDirectory : StartupEnv :=
  { nowSecs := 1700000000, rename := some ⟨.other 2, "Permission denied (os error 13)"⟩ }

theorem load_brokenDisk :
    AppConfig.loadWithReportFromPath tomlFormat appPaths.names none .config brokenDisk =
      .error (.parse "/home/user/.config/synchrosonic/config.toml" "TOML parse error") := by
  decide +kernel

end Sample

/-- **The user's file is gone**: the defaults are written over it, and there is no backup. -/
theorem startup_destroys_file :
    Sample.brokenDisk .config = some Sample.brokenBytes ∧
      AppConfig.loadWithReportFromPath Sample.tomlFormat Sample.appPaths.names
          Sample.readOnlyDirectory.read .config Sample.brokenDisk =
        .error (.parse "/home/user/.config/synchrosonic/config.toml" "TOML parse error") ∧
      ¬(loadStartupConfig Sample.tomlFormat Sample.readOnlyDirectory Sample.appPaths
        Sample.brokenDisk).Keeps Sample.brokenDisk Sample.brokenBytes := by
  have hdisk : Sample.brokenDisk .config = some Sample.brokenBytes := Function.update_self _ _ _
  refine ⟨hdisk, Sample.load_brokenDisk, ?_⟩
  rw [keeps_iff_of_not_setsAside hdisk Sample.load_brokenDisk (by decide)]
  rintro ((hmake | hwritten) | ⟨secs, hsecs⟩)
  · exact hmake rfl
  · have hsame : Text.encode (Sample.namedToml "SynchroSonic Receiver") = Sample.brokenBytes :=
      hwritten _ (by decide +kernel)
    exact absurd hsame (by decide +kernel)
  · have hnone : Sample.brokenDisk (.invalidConfig secs) = none :=
      Function.update_of_ne (by simp) _ _
    exact Option.some_ne_none _ (hsecs.symm.trans hnone)

/-- With a directory that can be written to, the file is set aside. -/
theorem startup_keeps_iff_renamed :
    (loadStartupConfig Sample.tomlFormat Sample.startupEnv Sample.appPaths Sample.brokenDisk).Keeps
      Sample.brokenDisk Sample.brokenBytes := by
  have hdisk : Sample.brokenDisk .config = some Sample.brokenBytes := Function.update_self _ _ _
  have hnone : Sample.brokenDisk (.invalidConfig Sample.startupEnv.nowSecs) = none :=
    Function.update_of_ne (by simp) _ _
  refine (@startup_keeps_iff Sample.tomlFormat Sample.startupEnv Sample.appPaths _ _ _ hdisk
    Sample.load_brokenDisk).mpr ⟨?_, fun h ↦ absurd (by decide) h⟩
  intro _ earlier hearlier
  exact absurd (hearlier.symm.trans hnone) (Option.some_ne_none earlier)

end SynchroSonic
